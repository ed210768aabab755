import StagedBuild.Proofs.Declarations
import StagedBuild.Proofs.RegexMatching

/-!
# The pattern of a declaration

The first match of the pattern captures the name that `findIn?` finds in the runs of
the text.  They are compared piece by piece, from the name back to `main`.  A word or
a gap of the pattern takes a whole run: with fewer characters of it the next one is
again of its kind, and what follows in the pattern begins with another kind.

The pattern can only start where a word starts (`pattern_none`), so the spots inside a
run are passed over (`search?_skip`).
-/

namespace StagedBuild.MainMachine

open Regex

/-- What a match captures. -/
def captured (s : Spot) : Option (Option (List Char)) := some s.captured?

variable {α : Type} {k : Spot → Option α} {s : Spot} {rs : List Run}

/-! ## Whole runs -/

theorem not_faces_word (h : Maximal rs) (ahead : s.ahead = rs.flatMap Run.chars)
    (other : ∀ run ∈ rs.head?, run.isWord = false) : ¬s.Faces isWord := by
  rintro ⟨c, first, word⟩
  rw [ahead] at first
  rw [h.starts.mpr other c first] at word
  cases word

theorem not_faces_word_of_other {run : Run} (h : Maximal (run :: rs))
    (ahead : s.ahead = (run :: rs).flatMap Run.chars) (other : run.isWord = false) :
    ¬s.Faces isWord := by
  refine not_faces_word h ahead ?_
  rintro _ ⟨⟩
  exact other

theorem faces_word {w : List Char} (h : Maximal (.word w :: rs))
    (ahead : s.ahead = (Run.word w :: rs).flatMap Run.chars) : s.Faces isWord := by
  by_contra other
  have starts : ∀ c ∈ ((Run.word w :: rs).flatMap Run.chars).head?, isWord c = false := by
    rw [← ahead]
    exact fun c first => eq_false_of_ne_true fun word => other ⟨c, first, word⟩
  cases h.starts.mp starts _ rfl

/-- No blank is next if the first run is no gap. -/
theorem not_faces_blank (h : Maximal rs) (ahead : s.ahead = rs.flatMap Run.chars)
    (other : ∀ gap, rs.head? ≠ some (.blank gap)) : ¬s.Faces isBlank := by
  rintro ⟨c, first, blank⟩
  rw [ahead] at first
  cases rs with
  | nil => cases first
  | cons run rest =>
    have proper := h.proper run (.head _)
    rw [List.flatMap_cons, List.head?_append_of_ne_nil _ proper.chars_ne_nil] at first
    have mem := List.mem_of_mem_head? first
    cases run with
    | word w =>
      have word := proper.2 c mem
      rw [not_isWord_of_isBlank blank] at word
      cases word
    | blank gap => exact other gap rfl
    | other d =>
      rw [List.mem_singleton.mp mem] at blank
      rw [proper.2] at blank
      cases blank

theorem not_faces_word_of_blank (blank : s.Faces isBlank) : ¬s.Faces isWord := by
  obtain ⟨c, first, blank⟩ := blank
  rintro ⟨d, first', word⟩
  rw [Option.mem_unique first' first, not_isWord_of_isBlank blank] at word
  cases word

theorem not_faces_blank_of_word (word : s.Faces isWord) : ¬s.Faces isBlank :=
  fun blank => not_faces_word_of_blank blank word

theorem gap_none (other : ¬s.Faces isBlank) : gapPattern.andThen? k s = none :=
  andThen?_oneOrMore_none other

theorem word_none (other : ¬s.Faces isWord) : wordPattern.andThen? k s = none :=
  andThen?_oneOrMore_none other

theorem gap_run {gap : List Char} (h : Maximal (.blank gap :: rs))
    (ahead : s.ahead = gap ++ rs.flatMap Run.chars)
    (useless : ∀ t : Spot, t.Faces isBlank → k t = none) :
    gapPattern.andThen? k s = k (s.past gap) := by
  obtain ⟨ne, all⟩ : IsGap gap := h.proper _ (.head _)
  refine andThen?_oneOrMore_run ne all ?_ ahead fun t faces => by rw [useless t faces, Option.or_none]
  intro c first
  refine eq_false_of_ne_true fun blank => ?_
  refine not_faces_blank (s := s.past gap) h.tail (s.ahead_past ahead) ?_
    ⟨c, by rw [s.ahead_past ahead]; exact first, blank⟩
  intro gap' next
  exact h.apart.rel_head? next

theorem word_run {w : List Char} (h : Maximal (.word w :: rs))
    (ahead : s.ahead = w ++ rs.flatMap Run.chars)
    (best : ∀ t : Spot, t.Faces isWord → (k (s.past w)).or (k t) = k (s.past w)) :
    wordPattern.andThen? k s = k (s.past w) := by
  obtain ⟨ne, all⟩ : IsWord w := h.proper _ (.head _)
  refine andThen?_oneOrMore_run ne all ?_ ahead best
  exact h.tail.starts.mpr fun next first => Run.word_apart.mp (h.apart.rel_head? first)

theorem text_none {keyword : List Char} (word : IsWord keyword) (other : ¬s.Faces isWord) :
    (Regex.text keyword).andThen? k s = none := by
  rw [andThen?_text, if_neg]
  rintro ⟨rest, split⟩
  obtain ⟨c, chars, rfl⟩ := List.exists_cons_of_ne_nil word.1
  exact other ⟨c, by rw [← split]; rfl, word.2 c (.head _)⟩

/-- A word that begins a text is its first run, or the run goes on behind it. -/
theorem begins_with_word {keyword w more : List Char} (word : IsWord keyword)
    (h : Maximal (.word w :: rs)) (begins : keyword ++ more = w ++ rs.flatMap Run.chars) :
    w = keyword ∨ ∃ c ∈ more.head?, isWord c = true := by
  have proper : IsWord w := h.proper _ (.head _)
  have starts : ∀ c ∈ (rs.flatMap Run.chars).head?, isWord c = false :=
    h.tail.starts.mpr fun next first => Run.word_apart.mp (h.apart.rel_head? first)
  rcases List.append_eq_append_iff.mp begins with ⟨rest, rfl, rfl⟩ | ⟨rest, rfl, behind⟩
  · cases rest with
    | nil => exact .inl (List.append_nil _)
    | cons c rest => exact .inr ⟨c, rfl, proper.2 c (by simp)⟩
  · cases rest with
    | nil => exact .inl (List.append_nil _).symm
    | cons c rest =>
      have other := starts c (by rw [behind]; rfl)
      rw [word.2 c (by simp)] at other
      cases other

/-- A text of word characters is the word that is next, if the continuation has no use
for a part of that. -/
theorem text_run {keyword w : List Char} (word : IsWord keyword) (h : Maximal (.word w :: rs))
    (ahead : s.ahead = w ++ rs.flatMap Run.chars)
    (useless : ∀ t : Spot, t.Faces isWord → k t = none) :
    (Regex.text keyword).andThen? k s = if w = keyword then k (s.past w) else none := by
  rw [andThen?_text]
  split
  · next begins =>
    obtain ⟨more, split⟩ := begins
    rcases begins_with_word word h (split.trans ahead) with rfl | ⟨c, first, goes_on⟩
    · rw [if_pos rfl]
    · have nothing : k (s.past keyword) = none :=
        useless _ ⟨c, by rw [s.ahead_past split.symm]; exact first, goes_on⟩
      rw [nothing]
      split
      · next same => rw [same, nothing]
      · rfl
  · next other =>
    rw [if_neg]
    rintro rfl
    exact other ⟨_, ahead.symm⟩

/-! ## The name -/

/-- What a keyword with a gap declares. -/
theorem gap_name {gap : List Char} (h : Maximal (.blank gap :: rs))
    (ahead : s.ahead = gap ++ rs.flatMap Run.chars) :
    gapPattern.andThen? ((group wordPattern).andThen? captured) s =
      (declared? machineWord rs).map some := by
  have next := s.ahead_past ahead
  rw [gap_run h ahead fun t blank => by
    rw [andThen?_group, word_none (not_faces_word_of_blank blank)], andThen?_group]
  rcases rs with _ | ⟨run, rest⟩
  · exact word_none (not_faces_word .nil next nofun)
  · cases run with
    | word name =>
      rw [word_run h.tail next fun _ _ => rfl, declared?_machineWord]
      simp [captured, Spot.capture, Spot.past, ahead, Run.chars]
    | blank gap' => exact word_none (not_faces_word_of_other h.tail next rfl)
    | other c => exact word_none (not_faces_word_of_other h.tail next rfl)

theorem name_none (other : ¬s.Faces isWord) : namePattern.andThen? k s = none := by
  rw [namePattern, andThen?_seq, text_none isWord_machineWord other]

/-- The keyword is a whole word. -/
theorem name_run {w : List Char} (h : Maximal (.word w :: rs))
    (ahead : s.ahead = w ++ rs.flatMap Run.chars) :
    namePattern.andThen? k s = if w = machineWord then
      gapPattern.andThen? ((group wordPattern).andThen? k) (s.past w) else none := by
  rw [namePattern, andThen?_seq, text_run isWord_machineWord h ahead]
  · simp only [andThen?_seq]
  · intro t word
    rw [andThen?_seq, gap_none (not_faces_blank_of_word word)]

/-! ## The words before the keyword -/

theorem body_none (other : ¬s.Faces isWord) : bodyPattern.andThen? k s = none := by
  rw [bodyPattern, andThen?_seq, andThen?_rounds, name_none other, anotherRound, andThen?_seq,
    word_none other]
  rfl

/-- The keyword is tried first, and then a word and a gap before it. -/
theorem body_round : bodyPattern.andThen? k s = (namePattern.andThen? k s).or
    (wordPattern.andThen? (gapPattern.andThen? fun t =>
      if t.ahead.length < s.ahead.length then bodyPattern.andThen? k t else none) s) := by
  simp only [bodyPattern, andThen?_seq]
  rw [andThen?_rounds, if_neg Bool.false_ne_true, anotherRound, andThen?_seq]

/-- Nothing is declared by a word without a gap. -/
theorem body_word_none {w : List Char} (h : Maximal (.word w :: rs))
    (ahead : s.ahead = w ++ rs.flatMap Run.chars) (alone : ∀ gap, rs.head? ≠ some (.blank gap)) :
    bodyPattern.andThen? k s = none := by
  have behind : ¬(s.past w).Faces isBlank := not_faces_blank h.tail (s.ahead_past ahead) alone
  rw [body_round, name_run h ahead, gap_none behind, word_run h ahead, gap_none behind]
  · split <;> rfl
  · intro t word
    rw [gap_none (not_faces_blank_of_word word), Option.or_none]

theorem body_word_gap {w gap : List Char} (h : Maximal (.word w :: .blank gap :: rs))
    (ahead : s.ahead = w ++ (gap ++ rs.flatMap Run.chars)) :
    bodyPattern.andThen? captured s =
      ((declared? w rs).map some).or (bodyPattern.andThen? captured ((s.past w).past gap)) := by
  have word_ahead : s.ahead = w ++ (Run.blank gap :: rs).flatMap Run.chars := ahead
  have gap_ahead := s.ahead_past word_ahead
  have shorter : ((s.past w).past gap).ahead.length < s.ahead.length := by
    have proper : IsWord w := h.proper _ (.head _)
    have some_char := List.length_pos_of_ne_nil proper.1
    simp only [Spot.past_ahead, ahead, List.length_drop, List.length_append]
    omega
  have named : namePattern.andThen? captured s = (declared? w rs).map some := by
    rw [name_run h word_ahead]
    split
    · next keyword => rw [gap_name h.tail gap_ahead, keyword]
    · next other => cases rs with
      | nil => rfl
      | cons run rest => cases run <;> simp [declared?, other]
  rw [body_round, named, word_run h word_ahead, gap_run h.tail gap_ahead, if_pos shorter]
  · intro t blank
    rw [body_none (not_faces_word_of_blank blank), ite_self]
  · intro t word
    rw [gap_none (not_faces_blank_of_word word), Option.or_none]

/-- The body of a declaration.  The induction is on the search. -/
theorem body_eq (h : Maximal rs) (ahead : s.ahead = rs.flatMap Run.chars) :
    bodyPattern.andThen? captured s = (nameIn? rs).map some := by
  induction rs using nameIn?.induct generalizing s with
  | case1 w gap rest name found =>
    rw [body_word_gap h ahead, nameIn?, found]
    rfl
  | case2 w gap rest missing ih =>
    rw [body_word_gap h ahead, nameIn?, missing]
    exact ih h.tail.tail (Spot.ahead_past _ (s.ahead_past ahead))
  | case3 rs other =>
    have nothing : nameIn? rs = none := by
      rw [nameIn?]
      exact other
    rw [nothing]
    rcases rs with _ | ⟨run, rest⟩
    · exact body_none (not_faces_word .nil ahead (by rintro _ ⟨⟩))
    · cases run with
      | word w =>
        refine body_word_none h ahead fun gap next => ?_
        obtain ⟨behind, rfl⟩ := List.head?_eq_some_iff.mp next
        exact other w gap behind rfl
      | blank gap' => exact body_none (not_faces_word_of_other h ahead rfl)
      | other c => exact body_none (not_faces_word_of_other h ahead rfl)

/-! ## The start -/

/-- A declaration starts only where a word does. -/
theorem pattern_none (inside : s.atEdge = false ∨ ¬s.Faces isWord) :
    pattern.andThen? k s = none := by
  rw [pattern, andThen?_seq, andThen?_wordEdge]
  split
  · next edge =>
    rw [andThen?_seq, text_none isWord_mainWord]
    rcases inside with inside | other
    · rw [inside] at edge
      cases edge
    · exact other
  · rfl

/-- What a declaration that starts at a run has for its name. -/
theorem pattern_run {run : Run} {rest : List Run} (h : Maximal (run :: rest))
    (ahead : s.ahead = (run :: rest).flatMap Run.chars)
    (before : run.isWord = true → s.last?.any isWord = false) :
    pattern.andThen? captured s = (startsAt? run rest).map some := by
  cases run with
  | blank gap => exact pattern_none (.inr (not_faces_word_of_other h ahead rfl))
  | other c => exact pattern_none (.inr (not_faces_word_of_other h ahead rfl))
  | word w =>
    have faces := faces_word h ahead
    have edge : s.atEdge = true := by
      obtain ⟨c, first, word⟩ := faces
      rw [Spot.atEdge, before rfl, Option.mem_def.mp first, Option.any_some, word]
      rfl
    have next : (s.past w).ahead = rest.flatMap Run.chars := s.ahead_past ahead
    rw [pattern, andThen?_seq, andThen?_wordEdge, if_pos edge, andThen?_seq,
      text_run isWord_mainWord h ahead fun t word => by
        rw [andThen?_seq, gap_none (not_faces_blank_of_word word)]]
    by_cases start : ∃ gap behind, rest = .blank gap :: behind
    · obtain ⟨gap, behind, rfl⟩ := start
      have useless (t : Spot) (blank : t.Faces isBlank) : bodyPattern.andThen? captured t = none :=
        body_none (not_faces_word_of_blank blank)
      rw [startsAt?]
      split
      · rw [andThen?_seq, gap_run h.tail next useless]
        exact body_eq h.tail.tail (Spot.ahead_past _ next)
      · rfl
    · have alone : ¬(s.past w).Faces isBlank := not_faces_blank h.tail next fun gap first => by
        obtain ⟨behind, rfl⟩ := List.head?_eq_some_iff.mp first
        exact start ⟨gap, behind, rfl⟩
      have nothing : startsAt? (.word w) rest = none := by
        rw [startsAt?]
        rintro _ gap behind _ rfl
        exact start ⟨gap, behind, rfl⟩
      rw [nothing, andThen?_seq, gap_none alone, ite_self]
      rfl

/-! ## The search -/

theorem ways_none (inside : s.atEdge = false ∨ ¬s.Faces isWord) :
    (pattern.ways s).head? = none := by
  have matched := head?_ways_map pattern id s
  rw [Option.map_id_fun, id, pattern_none inside] at matched
  exact matched

/-- No declaration starts at characters that are word characters behind another one, or
are none. -/
theorem search?_skip {word : Bool} {last? : Option Char} {chars : List Char}
    (same : ∀ c ∈ chars, isWord c = word) (before : word = true → last?.any isWord = true)
    (rest : List Char) :
    pattern.search? last? (chars ++ rest) = pattern.search? (chars.getLast?.or last?) rest := by
  induction chars generalizing last? with
  | nil => rfl
  | cons c chars ih =>
    obtain ⟨kind, others⟩ := List.forall_mem_cons.mp same
    have passed : (pattern.ways ⟨last?, c :: (chars ++ rest), none⟩).head? = none := by
      refine ways_none ?_
      cases word with
      | true =>
        left
        rw [Spot.atEdge, before rfl, List.head?_cons, Option.any_some, kind]
        rfl
      | false =>
        right
        rintro ⟨_, ⟨⟩, word⟩
        rw [kind] at word
        cases word
    have inside : word = true → (some c).any isWord = true := fun h => kind.trans h
    rw [List.cons_append, search?, passed, Option.none_or, ih others inside, List.getLast?_cons]
    cases chars.getLast? <;> rfl

/-- The first match captures what is found in the runs of the text.  The induction is on
the runs. -/
theorem search?_eq {last? : Option Char} (h : Maximal rs)
    (before : ∀ run ∈ rs.head?, run.isWord = true → last?.any isWord = false) :
    (pattern.search? last? (rs.flatMap Run.chars)).map Spot.captured? = (findIn? rs).map some := by
  induction rs generalizing last? with
  | nil =>
    rw [List.flatMap_nil, search?, ways_none (.inr (not_faces_word .nil rfl nofun))]
    rfl
  | cons run rest ih =>
    have proper := h.proper run (.head _)
    have kinds : ∀ c ∈ run.chars, isWord c = run.isWord := fun c mem => proper.isWord_of_mem mem
    obtain ⟨c, chars, spelled⟩ := List.exists_cons_of_ne_nil proper.chars_ne_nil
    rw [spelled] at kinds
    obtain ⟨kind, others⟩ := List.forall_mem_cons.mp kinds
    have starts : ((pattern.ways ⟨last?, (run :: rest).flatMap Run.chars, none⟩).head?).map
        Spot.captured? = (startsAt? run rest).map some :=
      (head?_ways_map pattern Spot.captured? _).trans (pattern_run h rfl (before run rfl))
    have behind : (pattern.search? (some c) (chars ++ rest.flatMap Run.chars)).map Spot.captured? =
        (findIn? rest).map some := by
      have inside : run.isWord = true → (some c).any isWord = true := fun word => kind.trans word
      rw [search?_skip others inside]
      refine ih h.tail fun next first word => ?_
      have apart := h.apart.rel_head? first
      have last : (chars.getLast?.or (some c)).any isWord = run.isWord := by
        cases hlast : chars.getLast? with
        | none => exact kind
        | some d => exact others d (List.mem_of_getLast? hlast)
      rw [last]
      cases next with
      | word w => exact Run.apart_word.mp apart
      | blank gap => cases word
      | other d => cases word
    rw [List.flatMap_cons, spelled, List.cons_append] at starts ⊢
    rw [search?, Option.map_or, starts, behind, findIn?]
    cases startsAt? run rest <;> rfl

/-! ## The main machine -/

theorem capture?_pattern (text : List Char) : pattern.capture? text = findIn? (runs text) := by
  refine capture?_eq ?_
  have found := search?_eq (maximal_runs text) (fun _ _ _ => (rfl : Option.any isWord none = false))
  rwa [flatMap_chars_runs] at found

/-- The main machine of a program is what the first match of the pattern captures.  This
is the name of the first declaration, and there is none if and only if there is no
declaration. -/
theorem find?_spec (program : String) :
    find? program = (pattern.capture? program.toList).map String.ofList ∧
    (∀ name, find? program = some name ↔
      ∃ d : Declaration program.toList, d.First ∧ d.name = name.toList) ∧
    (find? program = none ↔ IsEmpty (Declaration program.toList)) := by
  refine ⟨?_, find?_eq_some_iff program, find?_eq_none_iff program⟩
  rw [capture?_pattern, find?]

/-- The second `machine` is the name. -/
example : pattern.capture? "main machine machine X".toList = some "machine".toList := by
  rw [capture?_pattern]
  decide

end StagedBuild.MainMachine
