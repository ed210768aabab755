import StagedBuild.Proofs.Runs

/-!
# Declarations of a main machine

A `Declaration` is a way to read a text as a declaration of a main machine, with
whatever stands before and behind it.  A text can have many.  The `First` ones
start as early as any and have the fewest words before `machine` among those that
start there.  They all declare the same name.

`find?_eq_some_iff` says that the library finds that name, and `find?_eq_none_iff`
that it finds nothing if and only if there is no declaration.  A `Layout` is a declaration in the runs of a text.
The search is compared with layouts first, run by run, and then layouts with
declarations.
-/

namespace StagedBuild.MainMachine

/-- A reading of a text as a declaration. -/
structure Declaration (text : List Char) where
  /-- What stands before `main`. -/
  before : List Char
  /-- The blanks behind `main`. -/
  gap : List Char
  /-- The words before `machine`, each with the blanks behind it. -/
  modifiers : List (List Char × List Char)
  /-- The blanks behind `machine`. -/
  lastGap : List Char
  /-- The declared name. -/
  name : List Char
  /-- What stands behind the name. -/
  after : List Char
  /-- The text is all of these, one after the other. -/
  spelled : text = before ++ (mainWord ++ (gap ++
    (modifiers.flatMap (fun word => word.1 ++ word.2) ++
      (machineWord ++ (lastGap ++ (name ++ after))))))
  /-- No word character stands before `main`. -/
  before_ends : ∀ c ∈ before.getLast?, isWord c = false
  /-- There are blanks behind `main`. -/
  gap_blank : IsGap gap
  /-- Each word before `machine` is one, with blanks behind it. -/
  modifiers_proper : ∀ word ∈ modifiers, IsWord word.1 ∧ IsGap word.2
  /-- There are blanks behind `machine`. -/
  lastGap_blank : IsGap lastGap
  /-- The name is a word. -/
  name_word : IsWord name
  /-- No word character stands behind the name. -/
  after_starts : ∀ c ∈ after.head?, isWord c = false

/-- A declaration that starts as early as any, with the fewest words before
`machine` of those that start there. -/
structure Declaration.First {text : List Char} (d : Declaration text) : Prop where
  /-- No other starts earlier. -/
  earliest : ∀ e : Declaration text, d.before.length ≤ e.before.length
  /-- No other that starts there has fewer words. -/
  fewest : ∀ e : Declaration text, e.before = d.before → d.modifiers.length ≤ e.modifiers.length

/-! ## The search in runs -/

/-- The runs of a declaration behind the blanks of its `main`. -/
def body (modifiers : List (List Char × List Char)) (lastGap name : List Char)
    (after : List Run) : List Run :=
  modifiers.flatMap (fun word => [.word word.1, .blank word.2]) ++
    .word machineWord :: .blank lastGap :: .word name :: after

@[simp] theorem body_nil (lastGap name : List Char) (after : List Run) :
    body [] lastGap name after = .word machineWord :: .blank lastGap :: .word name :: after := rfl

@[simp] theorem body_cons (word : List Char × List Char) (modifiers : List (List Char × List Char))
    (lastGap name : List Char) (after : List Run) :
    body (word :: modifiers) lastGap name after =
      .word word.1 :: .blank word.2 :: body modifiers lastGap name after := rfl

/-- A declaration in some runs. -/
structure Layout (rs : List Run) where
  /-- The runs before `main`. -/
  before : List Run
  /-- The blanks behind `main`. -/
  gap : List Char
  /-- The words before `machine`, each with the blanks behind it. -/
  modifiers : List (List Char × List Char)
  /-- The blanks behind `machine`. -/
  lastGap : List Char
  /-- The declared name. -/
  name : List Char
  /-- The runs behind the name. -/
  after : List Run
  /-- The runs are all of these, one after the other. -/
  laid : rs = before ++ .word mainWord :: .blank gap :: body modifiers lastGap name after

theorem declared?_eq_some {w name : List Char} {rs : List Run}
    (h : declared? w rs = some name) : w = machineWord ∧ ∃ after, rs = .word name :: after := by
  unfold declared? at h
  split at h
  · next found rest =>
    split at h
    · next keyword =>
      cases h
      exact ⟨keyword, rest, rfl⟩
    · cases h
  · cases h

theorem declared?_machineWord (name : List Char) (after : List Run) :
    declared? machineWord (.word name :: after) = some name := by
  rw [declared?, if_pos rfl]

/-- A body declares something. -/
theorem nameIn?_body (modifiers : List (List Char × List Char)) (lastGap name : List Char)
    (after : List Run) : nameIn? (body modifiers lastGap name after) ≠ none := by
  induction modifiers with
  | nil =>
    rw [body_nil, nameIn?, declared?_machineWord]
    exact nofun
  | cons word rest ih =>
    rw [body_cons, nameIn?]
    split
    · exact nofun
    · exact ih

/-- The name that is found is that of the body with the fewest words.  The induction
is on the search. -/
theorem nameIn?_eq_some {rs : List Run} {name : List Char} (h : nameIn? rs = some name) :
    ∃ modifiers lastGap after, rs = body modifiers lastGap name after ∧
      ∀ modifiers' lastGap' name' after', rs = body modifiers' lastGap' name' after' →
        modifiers.length ≤ modifiers'.length := by
  induction rs using nameIn?.induct with
  | case1 w chars rest found hfound =>
    rw [nameIn?, hfound] at h
    cases h
    obtain ⟨rfl, after, rfl⟩ := declared?_eq_some hfound
    exact ⟨[], chars, after, rfl, fun _ _ _ _ _ => Nat.zero_le _⟩
  | case2 w chars rest none ih =>
    rw [nameIn?, none] at h
    obtain ⟨modifiers, lastGap, after, rfl, fewest⟩ := ih h
    refine ⟨(w, chars) :: modifiers, lastGap, after, rfl, ?_⟩
    intro modifiers' lastGap' name' after' same
    cases modifiers' with
    | nil =>
      simp only [body_nil, List.cons.injEq, Run.word.injEq] at same
      obtain ⟨rfl, -, same⟩ := same
      rw [same, declared?_machineWord] at none
      cases none
    | cons word' rest' =>
      simp only [body_cons, List.cons.injEq] at same
      exact Nat.succ_le_succ (fewest _ _ _ _ same.2.2)
  | case3 rs other => simp [nameIn?] at h

theorem startsAt?_eq_some {run : Run} {rest : List Run} {name : List Char}
    (h : startsAt? run rest = some name) :
    run = .word mainWord ∧ ∃ gap behind, rest = .blank gap :: behind ∧
      nameIn? behind = some name := by
  unfold startsAt? at h
  split at h
  · next w gap behind =>
    split at h
    · next keyword =>
      rw [keyword]
      exact ⟨rfl, gap, behind, rfl, h⟩
    · cases h
  · cases h

theorem startsAt?_mainWord (gap : List Char) (behind : List Run) :
    startsAt? (.word mainWord) (.blank gap :: behind) = nameIn? behind := by
  rw [startsAt?, if_pos rfl]

/-- Behind a run that starts no declaration the layouts are those of the rest. -/
theorem Layout.behind {run : Run} {rest : List Run} (missing : startsAt? run rest = none)
    (e : Layout (run :: rest)) :
    ∃ e' : Layout rest, e.before = run :: e'.before ∧ e.modifiers = e'.modifiers := by
  obtain ⟨before, gap, modifiers, lastGap, name, after, laid⟩ := e
  cases before with
  | nil =>
    simp only [List.nil_append, List.cons.injEq] at laid
    obtain ⟨rfl, rfl⟩ := laid
    rw [startsAt?_mainWord] at missing
    exact (nameIn?_body _ _ _ _ missing).elim
  | cons first before =>
    simp only [List.cons_append, List.cons.injEq] at laid
    obtain ⟨rfl, rfl⟩ := laid
    exact ⟨⟨before, gap, modifiers, lastGap, name, after, rfl⟩, rfl, rfl⟩

/-- Runs with a layout declare something. -/
theorem findIn?_layout {rs : List Run} (l : Layout rs) : findIn? rs ≠ none := by
  induction rs with
  | nil => exact absurd l.laid (by simp)
  | cons run rest ih =>
    rw [findIn?]
    split
    · exact nofun
    · next missing =>
      obtain ⟨l', _⟩ := l.behind missing
      exact ih l'

/-- The name that is found is that of a layout that starts as early as any, with the
fewest words before `machine` of those that start there. -/
theorem findIn?_eq_some {rs : List Run} {name : List Char} (h : findIn? rs = some name) :
    ∃ l : Layout rs, l.name = name ∧ (∀ e : Layout rs, l.before.length ≤ e.before.length) ∧
      ∀ e : Layout rs, e.before = l.before → l.modifiers.length ≤ e.modifiers.length := by
  induction rs with
  | nil => cases h
  | cons run rest ih =>
    rw [findIn?] at h
    split at h
    · next found hstarts =>
      cases h
      obtain ⟨rfl, gap, behind, rfl, hname⟩ := startsAt?_eq_some hstarts
      obtain ⟨modifiers, lastGap, after, rfl, fewest⟩ := nameIn?_eq_some hname
      refine ⟨⟨[], gap, modifiers, lastGap, name, after, rfl⟩, rfl, fun _ => Nat.zero_le _, ?_⟩
      rintro ⟨_, gap', modifiers', lastGap', name', after', laid⟩ rfl
      simp only [List.nil_append, List.cons.injEq] at laid
      exact fewest _ _ _ _ laid.2.2
    · next missing =>
      obtain ⟨l, rfl, earliest, fewest⟩ := ih h
      refine ⟨⟨run :: l.before, l.gap, l.modifiers, l.lastGap, l.name, l.after, ?_⟩, rfl, ?_, ?_⟩
      · rw [List.cons_append, ← l.laid]
      · intro e
        obtain ⟨e', hbefore, -⟩ := e.behind missing
        rw [hbefore]
        exact Nat.succ_le_succ (earliest e')
      · intro e same
        obtain ⟨e', hbefore, hmodifiers⟩ := e.behind missing
        rw [hbefore] at same
        rw [hmodifiers]
        exact fewest e' (List.cons.inj same).2

/-- Layouts that start together and have as many words have the same name. -/
theorem Layout.name_eq {rs : List Run} (l e : Layout rs) (same : l.before = e.before)
    (count : l.modifiers.length = e.modifiers.length) : l.name = e.name := by
  have laid := l.laid.symm.trans e.laid
  rw [same, List.append_cancel_left_eq, List.cons.injEq, List.cons.injEq] at laid
  obtain ⟨_, rest⟩ := List.append_inj laid.2.2 (by simp [count])
  simp only [List.cons.injEq, Run.word.injEq] at rest
  exact rest.2.2.1

/-! ## Layouts and declarations -/

theorem isWord_mainWord : IsWord mainWord := ⟨nofun, List.all_eq_true.mp (by decide)⟩

theorem isWord_machineWord : IsWord machineWord := ⟨nofun, List.all_eq_true.mp (by decide)⟩

/-- A word and a gap in front of runs that begin with a word. -/
theorem Maximal.word_gap {w gap : List Char} {rs : List Run} (word : IsWord w)
    (blank : IsGap gap) (h : Maximal rs) (starts : ∀ next ∈ rs.head?, next.isWord = true) :
    Maximal (.word w :: .blank gap :: rs) := by
  have behind : Maximal (.blank gap :: rs) := by
    refine h.cons blank fun next first => ?_
    cases next with
    | word chars => trivial
    | blank chars => exact absurd (starts _ first) nofun
    | other c => trivial
  exact behind.cons word (by rintro _ ⟨⟩; trivial)

/-- A body begins with a word. -/
theorem body_starts (modifiers : List (List Char × List Char)) (lastGap name : List Char)
    (after : List Run) :
    ∀ next ∈ (body modifiers lastGap name after).head?, next.isWord = true := by
  cases modifiers with
  | nil => rintro _ ⟨⟩; rfl
  | cons word rest => rintro _ ⟨⟩; rfl

theorem maximal_body {modifiers : List (List Char × List Char)} {lastGap name : List Char}
    {after : List Run} (modifiers_proper : ∀ word ∈ modifiers, IsWord word.1 ∧ IsGap word.2)
    (lastGap_blank : IsGap lastGap) (name_word : IsWord name) (h : Maximal after)
    (starts : ∀ next ∈ after.head?, next.isWord = false) :
    Maximal (body modifiers lastGap name after) := by
  induction modifiers with
  | nil =>
    have named : Maximal (.word name :: after) :=
      h.cons name_word fun next first => Run.word_apart.mpr (starts next first)
    exact named.word_gap isWord_machineWord lastGap_blank (by rintro _ ⟨⟩; rfl)
  | cons word rest ih =>
    obtain ⟨proper, rest_proper⟩ := List.forall_mem_cons.mp modifiers_proper
    exact (ih rest_proper).word_gap proper.1 proper.2 (body_starts _ _ _ _)

/-- The text of a body. -/
theorem flatMap_chars_body (modifiers : List (List Char × List Char)) (lastGap name : List Char)
    (after : List Run) :
    (body modifiers lastGap name after).flatMap Run.chars =
      modifiers.flatMap (fun word => word.1 ++ word.2) ++
        (machineWord ++ (lastGap ++ (name ++ after.flatMap Run.chars))) := by
  induction modifiers with
  | nil => rfl
  | cons word rest ih => simp [Run.chars, ih]

section Texts

variable {text : List Char}

/-- The layout of a declaration. -/
def Declaration.layout (d : Declaration text) : Layout (runs text) where
  before := runs d.before
  gap := d.gap
  modifiers := d.modifiers
  lastGap := d.lastGap
  name := d.name
  after := runs d.after
  laid := by
    have before := maximal_runs d.before
    have after := maximal_runs d.after
    have ends : ∀ last ∈ (runs d.before).getLast?, last.isWord = false :=
      before.ends.mp (by rw [flatMap_chars_runs]; exact d.before_ends)
    have starts : ∀ next ∈ (runs d.after).head?, next.isWord = false :=
      after.starts.mp (by rw [flatMap_chars_runs]; exact d.after_starts)
    have behind := maximal_body d.modifiers_proper d.lastGap_blank d.name_word after starts
    have main := behind.word_gap isWord_mainWord d.gap_blank (body_starts _ _ _ _)
    have whole := before.append main fun last hlast next first => by
      cases first
      exact Run.apart_word.mpr (ends last hlast)
    rw [← runs_flatMap whole]
    simp only [List.flatMap_append, List.flatMap_cons, flatMap_chars_body, flatMap_chars_runs,
      Run.chars]
    rw [← d.spelled]

/-- The declaration of a layout. -/
def Layout.declaration (l : Layout (runs text)) : Declaration text :=
  have whole : Maximal (l.before ++ .word mainWord :: .blank l.gap ::
      body l.modifiers l.lastGap l.name l.after) := l.laid ▸ maximal_runs text
  { before := l.before.flatMap Run.chars
    gap := l.gap
    modifiers := l.modifiers
    lastGap := l.lastGap
    name := l.name
    after := l.after.flatMap Run.chars
    spelled := by
      have spelled := congrArg (List.flatMap Run.chars) l.laid
      rw [flatMap_chars_runs] at spelled
      simpa only [List.flatMap_append, List.flatMap_cons, flatMap_chars_body, Run.chars]
        using spelled
    before_ends := whole.left.ends.mpr fun last hlast =>
      Run.apart_word.mp ((List.isChain_append.mp whole.apart).2.2 last hlast _ rfl)
    gap_blank := whole.proper (.blank l.gap) (by simp)
    modifiers_proper := by
      intro word mem
      have inside : ∀ run ∈ [Run.word word.1, .blank word.2], run.Proper := fun run hrun =>
        whole.proper run (List.mem_append_right _ (.tail _ (.tail _ (List.mem_append_left _
          (List.mem_flatMap.mpr ⟨word, mem, hrun⟩)))))
      exact ⟨inside _ (.head _), inside _ (.tail _ (.head _))⟩
    lastGap_blank := whole.proper (.blank l.lastGap) (by simp [body])
    name_word := whole.proper (.word l.name) (by simp [body])
    after_starts := by
      have named : Maximal (.word l.name :: l.after) := whole.right.tail.tail.right.tail.tail
      exact named.tail.starts.mpr fun next first =>
        Run.word_apart.mp (named.apart.rel_head? first) }

theorem Declaration.text_before (d : Declaration text) :
    d.layout.before.flatMap Run.chars = d.before := flatMap_chars_runs d.before

/-- The declaration of a layout has that layout. -/
theorem Layout.before_declaration (l : Layout (runs text)) :
    l.declaration.layout.before = l.before := by
  have whole := maximal_runs text
  rw [l.laid] at whole
  exact runs_flatMap whole.left

/-- Of two layouts of a text, the one that starts at an earlier run starts earlier. -/
theorem Layout.length_before_le (l e : Layout (runs text))
    (h : l.before.length ≤ e.before.length) :
    (l.before.flatMap Run.chars).length ≤ (e.before.flatMap Run.chars).length := by
  have first : l.before <+: runs text := ⟨_, l.laid.symm⟩
  have second : e.before <+: runs text := ⟨_, e.laid.symm⟩
  obtain ⟨between, hbetween⟩ := List.prefix_of_prefix_length_le first second h
  rw [← hbetween, List.flatMap_append, List.length_append]
  exact Nat.le_add_right _ _

/-- The name that is found is that of a first declaration. -/
theorem first_of_findIn? {name : List Char} (h : findIn? (runs text) = some name) :
    ∃ d : Declaration text, d.name = name ∧ d.First := by
  obtain ⟨l, rfl, earliest, fewest⟩ := findIn?_eq_some h
  refine ⟨l.declaration, rfl, fun e => ?_, fun e same => ?_⟩
  · rw [← e.text_before]
    exact l.length_before_le e.layout (earliest e.layout)
  · refine fewest e.layout ?_
    rw [← l.before_declaration]
    exact congrArg runs same

/-- All first declarations have the same name. -/
theorem Declaration.First.name_eq {d e : Declaration text} (hd : d.First) (he : e.First) :
    d.name = e.name := by
  have together : d.before = e.before := by
    have spelled := d.spelled.symm.trans e.spelled
    exact (List.append_inj spelled (Nat.le_antisymm (hd.earliest e) (he.earliest d))).1
  have count := Nat.le_antisymm (hd.fewest e together.symm) (he.fewest d together)
  exact d.layout.name_eq e.layout (congrArg runs together) count

end Texts

/-- The main machine of a program is the name of its first declaration. -/
theorem find?_eq_some_iff (program name : String) :
    find? program = some name ↔ ∃ d : Declaration program.toList, d.First ∧ d.name = name.toList := by
  rw [find?]
  constructor
  · intro same
    obtain ⟨found, h, named⟩ := Option.map_eq_some_iff.mp same
    obtain ⟨d, rfl, first⟩ := first_of_findIn? h
    exact ⟨d, first, by rw [← named, String.toList_ofList]⟩
  · rintro ⟨e, hfirst, hname⟩
    obtain ⟨found, h⟩ := Option.ne_none_iff_exists'.mp (findIn?_layout e.layout)
    obtain ⟨d, rfl, first⟩ := first_of_findIn? h
    rw [h, Option.map_some, first.name_eq hfirst, hname, String.ofList_toList]

/-- A program has no main machine if and only if there is no declaration. -/
theorem find?_eq_none_iff (program : String) :
    find? program = none ↔ IsEmpty (Declaration program.toList) := by
  rw [find?, Option.map_eq_none_iff]
  constructor
  · exact fun missing => ⟨fun d => findIn?_layout d.layout missing⟩
  · intro empty
    by_contra found
    obtain ⟨name, h⟩ := Option.ne_none_iff_exists'.mp found
    obtain ⟨d, -⟩ := first_of_findIn? h
    exact empty.elim d

end StagedBuild.MainMachine
