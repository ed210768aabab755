import StagedBuild.Proofs.DeclarationInPlace

/-!
# The text around the first declaration

The search for a main machine does not look behind the name of a declaration
(`findIn?_upTo`).  A `main` before it that starts no declaration is blocked before
that name, so no text behind can complete it, and no text behind gives the
declaration another `machine`.

Text before a program hides its declarations only if it ends in a word character,
and has one of its own only if `main` is among its words.  Otherwise the
declarations of both are the same, but for where they start
(`Declaration.inFront`, `Declaration.inRest`).

`find?_around` says both of the main machine.
-/

namespace StagedBuild.MainMachine

/-! ## Words -/

/-- A word that stands in a text is one of its runs. -/
theorem HasWord.mem_runs {word text : List Char} (has : HasWord word text)
    (proper : IsWord word) : .word word ∈ runs text := by
  obtain ⟨before, after, rfl, before_ends, after_starts⟩ := has
  have starts : ∀ next ∈ (runs after).head?, next.isWord = false :=
    (maximal_runs after).starts.mp (by rw [flatMap_chars_runs]; exact after_starts)
  have ends : ∀ last ∈ (runs before).getLast?, last.isWord = false :=
    (maximal_runs before).ends.mp (by rw [flatMap_chars_runs]; exact before_ends)
  have behind : Maximal (.word word :: runs after) :=
    (maximal_runs after).cons proper fun next first => Run.word_apart.mpr (starts next first)
  have whole : Maximal (runs before ++ .word word :: runs after) := by
    refine (maximal_runs before).append behind fun last hlast next first => ?_
    cases first
    exact Run.apart_word.mpr (ends last hlast)
  have text := runs_flatMap whole
  rw [List.flatMap_append, List.flatMap_cons, flatMap_chars_runs, flatMap_chars_runs,
    Run.chars] at text
  rw [text]
  exact List.mem_append_right _ (.head _)

/-! ## Behind a declaration -/

/-- What a word declares hangs on the next run alone. -/
theorem declared?_congr {w : List Char} {rs rs' : List Run} (same : rs.head? = rs'.head?) :
    declared? w rs = declared? w rs' := by
  cases rs with
  | nil =>
    cases rs' with
    | nil => rfl
    | cons run' rest' => cases same
  | cons run rest =>
    cases rs' with
    | nil => cases same
    | cons run' rest' =>
      cases same
      cases run <;> rfl

section Behind

variable (lastGap name : List Char) (after after' : List Run)

/-- The name behind `main` is found without a look behind the first name. -/
theorem nameIn?_upTo (front : List Run) :
    nameIn? (front ++ .word machineWord :: .blank lastGap :: .word name :: after) =
      nameIn? (front ++ .word machineWord :: .blank lastGap :: .word name :: after') := by
  induction front using nameIn?.induct with
  | case1 w gap rest found hfound =>
    obtain ⟨rfl, behind, rfl⟩ := declared?_eq_some hfound
    simp only [List.cons_append, nameIn?, declared?_machineWord]
  | case2 w gap rest missing ih =>
    have next : declared? w (rest ++ .word machineWord :: .blank lastGap :: .word name :: after) =
        declared? w (rest ++ .word machineWord :: .blank lastGap :: .word name :: after') :=
      declared?_congr (by simp only [List.head?_append, List.head?_cons])
    simp only [List.cons_append, nameIn?, next, ih]
  | case3 front other =>
    -- The runs before the keyword are no word with a gap behind it.
    cases front with
    | nil => simp only [List.nil_append, nameIn?, declared?_machineWord]
    | cons first rest =>
      cases first with
      | blank gap => simp only [List.cons_append, nameIn?]
      | other c => simp only [List.cons_append, nameIn?]
      | word w =>
        cases rest with
        | nil => simp only [List.cons_append, List.nil_append, nameIn?]
        | cons second rest =>
          cases second with
          | blank gap => exact (other w gap rest rfl).elim
          | word w' => simp only [List.cons_append, nameIn?]
          | other c => simp only [List.cons_append, nameIn?]

theorem startsAt?_upTo (run : Run) (front : List Run) :
    startsAt? run (front ++ .word machineWord :: .blank lastGap :: .word name :: after) =
      startsAt? run (front ++ .word machineWord :: .blank lastGap :: .word name :: after') := by
  cases run with
  | blank gap => simp only [startsAt?]
  | other c => simp only [startsAt?]
  | word w =>
    cases front with
    | nil => simp only [List.nil_append, startsAt?]
    | cons first rest =>
      cases first with
      | word w' => simp only [List.cons_append, startsAt?]
      | other c => simp only [List.cons_append, startsAt?]
      | blank gap =>
        simp only [List.cons_append, startsAt?]
        rw [nameIn?_upTo lastGap name after after']

/-- The search in runs with a declaration does not look behind its name.  The induction
is on the runs before the declaration: each of them starts one or starts none, whatever
stands behind. -/
theorem findIn?_upTo (before : List Run) (gap : List Char)
    (modifiers : List (List Char × List Char)) :
    findIn? (before ++ .word mainWord :: .blank gap :: body modifiers lastGap name after) =
      findIn? (before ++ .word mainWord :: .blank gap :: body modifiers lastGap name after') := by
  induction before with
  | nil =>
    have same : nameIn? (body modifiers lastGap name after) =
        nameIn? (body modifiers lastGap name after') := nameIn?_upTo lastGap name after after' _
    obtain ⟨found, hfound⟩ := Option.ne_none_iff_exists'.mp
      (nameIn?_body modifiers lastGap name after)
    simp only [List.nil_append, findIn?, startsAt?_mainWord, ← same, hfound]
  | cons run rest ih =>
    have same : startsAt? run
          (rest ++ .word mainWord :: .blank gap :: body modifiers lastGap name after) =
        startsAt? run
          (rest ++ .word mainWord :: .blank gap :: body modifiers lastGap name after') := by
      have upTo := startsAt?_upTo lastGap name after after' run
        (rest ++ .word mainWord :: .blank gap ::
          modifiers.flatMap fun word => [.word word.1, .blank word.2])
      simpa only [body, List.append_assoc, List.cons_append] using upTo
    rw [List.cons_append, List.cons_append, findIn?, findIn?, same, ih]

end Behind

section Declarations

variable {text front : List Char}

/-- The text up to the end of the declared name. -/
def Declaration.upTo (d : Declaration text) : List Char :=
  d.before ++ (mainWord ++ (d.gap ++ (d.modifiers.flatMap (fun word => word.1 ++ word.2) ++
    (machineWord ++ (d.lastGap ++ d.name)))))

theorem Declaration.upTo_append (d : Declaration text) : d.upTo ++ d.after = text := by
  simp only [upTo, List.append_assoc]
  exact d.spelled.symm

/-- The declaration with other text behind it. -/
def Declaration.followedBy (d : Declaration text) (after : List Char)
    (starts : ∀ c ∈ after.head?, isWord c = false) : Declaration (d.upTo ++ after) where
  before := d.before
  gap := d.gap
  modifiers := d.modifiers
  lastGap := d.lastGap
  name := d.name
  after := after
  spelled := by simp only [upTo, List.append_assoc]
  before_ends := d.before_ends
  gap_blank := d.gap_blank
  modifiers_proper := d.modifiers_proper
  lastGap_blank := d.lastGap_blank
  name_word := d.name_word
  after_starts := starts

/-- What is found in a text with a declaration is found whatever stands behind it. -/
theorem Declaration.findIn?_followedBy (d : Declaration text) {after : List Char}
    (starts : ∀ c ∈ after.head?, isWord c = false) :
    findIn? (runs (d.upTo ++ after)) = findIn? (runs text) := by
  rw [(d.followedBy after starts).layout.laid, d.layout.laid]
  exact findIn?_upTo d.lastGap d.name (runs after) (runs d.after) (runs d.before) d.gap d.modifiers

/-! ## Before a declaration -/

theorem ends_append {p q : List Char} (first : ∀ c ∈ p.getLast?, isWord c = false)
    (second : ∀ c ∈ q.getLast?, isWord c = false) :
    ∀ c ∈ (p ++ q).getLast?, isWord c = false := by
  intro c last
  rw [List.getLast?_append, Option.mem_def, Option.or_eq_some_iff] at last
  rcases last with last | ⟨_, last⟩
  · exact second c last
  · exact first c last

/-- The declaration behind more text. -/
def Declaration.inFront (d : Declaration text)
    (ends : ∀ c ∈ front.getLast?, isWord c = false) : Declaration (front ++ text) where
  before := front ++ d.before
  gap := d.gap
  modifiers := d.modifiers
  lastGap := d.lastGap
  name := d.name
  after := d.after
  spelled := by rw [List.append_assoc, ← d.spelled]
  before_ends := ends_append ends d.before_ends
  gap_blank := d.gap_blank
  modifiers_proper := d.modifiers_proper
  lastGap_blank := d.lastGap_blank
  name_word := d.name_word
  after_starts := d.after_starts

/-- A word `main` of a text that begins with other text stands behind that, if it is not
among the words there and none of them goes on behind it. -/
theorem before_of_absent {before rest : List Char}
    (ends : ∀ c ∈ front.getLast?, isWord c = false) (absent : ¬HasWord mainWord front)
    (before_ends : ∀ c ∈ before.getLast?, isWord c = false)
    (rest_starts : ∀ c ∈ rest.head?, isWord c = false)
    (split : front ++ text = (before ++ mainWord) ++ rest) :
    ∃ between, before = front ++ between ∧ text = between ++ (mainWord ++ rest) := by
  rcases List.append_eq_append_iff.mp split with ⟨part, hword, rfl⟩ | ⟨more, rfl, rfl⟩
  · rcases List.append_eq_append_iff.mp hword with ⟨start, rfl, hmain⟩ | ⟨between, rfl, rfl⟩
    · -- The other text ends where the word starts, for it does not end inside it.
      cases start with
      | nil => exact ⟨[], by simp, by rw [hmain]; simp⟩
      | cons c chars =>
        have last := List.getLast_mem (List.cons_ne_nil c chars)
        have word := isWord_mainWord.2 _ (hmain ▸ List.mem_append_left part last)
        have other := ends ((c :: chars).getLast (List.cons_ne_nil _ _))
          (by rw [List.getLast?_append_cons, List.getLast?_eq_some_getLast]; rfl)
        rw [word] at other
        cases other
    · exact ⟨between, rfl, by rw [List.append_assoc]⟩
  · refine absurd ⟨before, more, by rw [List.append_assoc], before_ends, fun c first => ?_⟩ absent
    refine rest_starts c ?_
    rw [List.head?_append, Option.mem_def.mp first]
    rfl

/-- A declaration of a text that begins with other text without the word `main` is one of
the rest. -/
theorem Declaration.inRest (e : Declaration (front ++ text))
    (ends : ∀ c ∈ front.getLast?, isWord c = false) (absent : ¬HasWord mainWord front) :
    ∃ e' : Declaration text, e.before = front ++ e'.before ∧ e.modifiers = e'.modifiers := by
  obtain ⟨before, gap, modifiers, lastGap, name, after, spelled, before_ends, gap_blank,
    modifiers_proper, lastGap_blank, name_word, after_starts⟩ := e
  have gap_starts : ∀ c ∈ (gap ++ (modifiers.flatMap (fun word => word.1 ++ word.2) ++
      (machineWord ++ (lastGap ++ (name ++ after))))).head?, isWord c = false := by
    intro c first
    rw [List.head?_append_of_ne_nil _ gap_blank.1] at first
    exact not_isWord_of_isBlank (gap_blank.2 c (List.mem_of_mem_head? first))
  rw [← List.append_assoc before] at spelled
  obtain ⟨between, rfl, rest⟩ := before_of_absent ends absent before_ends gap_starts spelled
  have between_ends : ∀ c ∈ between.getLast?, isWord c = false := by
    intro c last
    refine before_ends c ?_
    rw [List.getLast?_append, Option.mem_def.mp last]
    rfl
  exact ⟨⟨between, gap, modifiers, lastGap, name, after, rest, between_ends, gap_blank,
    modifiers_proper, lastGap_blank, name_word, after_starts⟩, rfl, rfl⟩

/-- A first declaration is one behind text without the word `main`. -/
theorem Declaration.First.inFront {d : Declaration text} (first : d.First)
    (ends : ∀ c ∈ front.getLast?, isWord c = false) (absent : ¬HasWord mainWord front) :
    (d.inFront ends).First := by
  constructor
  · intro e
    obtain ⟨e', before, -⟩ := e.inRest ends absent
    rw [before, List.length_append]
    show (front ++ d.before).length ≤ _
    rw [List.length_append]
    exact Nat.add_le_add_left (first.earliest e') _
  · intro e together
    obtain ⟨e', before, modifiers⟩ := e.inRest ends absent
    rw [modifiers]
    refine first.fewest e' ?_
    exact List.append_cancel_left (before.symm.trans together)

end Declarations

/-! ## The main machine -/

/-- The main machine of a program hangs on its first declaration alone.

* It is that of the program with any text behind it that does not go on with the last
  word of the program.
* It is that of the program with any text before it that has no word `main` and does not
  end inside a word. -/
theorem find?_around :
    (∀ (program more name : String), find? program = some name →
      (∀ c ∈ more.toList.head?, isWord c = false) → find? (program ++ more) = some name) ∧
    ∀ (front program : String), (∀ c ∈ front.toList.getLast?, isWord c = false) →
      ¬HasWord mainWord front.toList → find? (front ++ program) = find? program := by
  constructor
  · intro program more name found starts
    obtain ⟨d, -, -⟩ := (find?_eq_some_iff program name).mp found
    have behind : ∀ c ∈ (d.after ++ more.toList).head?, isWord c = false := by
      intro c first
      rw [List.head?_append, Option.mem_def, Option.or_eq_some_iff] at first
      rcases first with first | ⟨_, first⟩
      · exact d.after_starts c first
      · exact starts c first
    have text : (program ++ more).toList = d.upTo ++ (d.after ++ more.toList) := by
      rw [String.toList_append, ← List.append_assoc, d.upTo_append]
    rw [find?, text, d.findIn?_followedBy behind]
    exact found
  · intro front program ends absent
    cases found : find? program with
    | some name =>
      obtain ⟨d, first, named⟩ := (find?_eq_some_iff program name).mp found
      refine (find?_eq_some_iff _ name).mpr ?_
      rw [String.toList_append]
      exact ⟨d.inFront ends, first.inFront ends absent, named⟩
    | none =>
      have missing := (find?_eq_none_iff program).mp found
      refine (find?_eq_none_iff _).mpr ⟨fun e => ?_⟩
      rw [String.toList_append] at e
      obtain ⟨e', -⟩ := e.inRest ends absent
      exact missing.elim e'

/-! ## A declaration between others -/

namespace Surrounded

/-- Text with `main` inside a word. -/
def front : String := "event domain;\n"

/-- A declaration whose name is the last word. -/
def program : String := "main model machine A"

/-- One more declaration. -/
def more : String := " { }\nmain machine B { }"

/-- The first declaration counts. -/
theorem first_found : find? (front ++ (program ++ more)) = some "A" := by
  have alone : find? program = some "A" := by decide
  have absent : ¬HasWord mainWord front.toList := fun has =>
    absurd (has.mem_runs isWord_mainWord) (by decide)
  have with_more : find? (program ++ more) = some "A" :=
    find?_around.1 program more "A" alone (by rintro _ ⟨⟩; decide)
  rw [find?_around.2 front (program ++ more) (by rintro _ ⟨⟩; decide) absent, with_more]

end Surrounded

end StagedBuild.MainMachine
