import Mathlib.Data.List.Chain
import StagedBuild.MainMachine

/-!
# Maximal runs

`Maximal` says that some runs are of the right characters and that no two words
and no two gaps stand together.  The runs of a text are maximal, and maximal runs
are the runs of their text (`maximal_runs`, `runs_flatMap`).  So a text can be
taken apart at any place between two runs.

`Maximal.ends` and `Maximal.starts` say by its runs whether a text begins or ends
with a word character.
-/

namespace StagedBuild.MainMachine

/-- Word characters, at least one. -/
def IsWord (chars : List Char) : Prop := chars ≠ [] ∧ ∀ c ∈ chars, isWord c = true

/-- Blanks, at least one. -/
def IsGap (chars : List Char) : Prop := chars ≠ [] ∧ ∀ c ∈ chars, isBlank c = true

namespace Run

/-- The characters of a run are those of its kind. -/
def Proper : Run → Prop
  | .word chars => IsWord chars
  | .blank chars => IsGap chars
  | .other c => isWord c = false ∧ isBlank c = false

/-- Two runs that may stand together. -/
def Apart : Run → Run → Prop
  | .word _, .word _ => False
  | .blank _, .blank _ => False
  | _, _ => True

/-- Whether a run is a word. -/
def isWord : Run → Bool
  | .word _ => true
  | _ => false

theorem apart_word {run : Run} {chars : List Char} :
    run.Apart (.word chars) ↔ run.isWord = false := by
  cases run <;> simp [Apart, isWord]

theorem word_apart {run : Run} {chars : List Char} :
    (Run.word chars).Apart run ↔ run.isWord = false := by
  cases run <;> simp [Apart, isWord]

theorem Proper.chars_ne_nil {run : Run} (h : run.Proper) : run.chars ≠ [] := by
  cases run with
  | word chars => exact h.1
  | blank chars => exact h.1
  | other c => exact List.cons_ne_nil _ _

/-- The characters of a word are word characters, and those of other runs are not. -/
theorem Proper.isWord_of_mem {run : Run} (h : run.Proper) {c : Char} (mem : c ∈ run.chars) :
    StagedBuild.isWord c = run.isWord := by
  cases run with
  | word chars => exact h.2 c mem
  | blank chars => exact not_isWord_of_isBlank (h.2 c mem)
  | other d =>
    rw [List.mem_singleton.mp mem]
    exact h.1

end Run

/-- Runs of the right characters, as long as they can be. -/
structure Maximal (rs : List Run) : Prop where
  /-- Each run has the characters of its kind. -/
  proper : ∀ run ∈ rs, run.Proper
  /-- No two words and no two gaps stand together. -/
  apart : rs.IsChain Run.Apart

namespace Maximal

variable {rs before after : List Run} {run : Run}

theorem nil : Maximal [] := ⟨nofun, .nil⟩

theorem cons (proper : run.Proper) (apart : ∀ next ∈ rs.head?, run.Apart next) (h : Maximal rs) :
    Maximal (run :: rs) :=
  ⟨List.forall_mem_cons.mpr ⟨proper, h.proper⟩, h.apart.cons apart⟩

theorem tail (h : Maximal (run :: rs)) : Maximal rs :=
  ⟨(List.forall_mem_cons.mp h.proper).2, h.apart.tail⟩

theorem append (first : Maximal before) (second : Maximal after)
    (apart : ∀ last ∈ before.getLast?, ∀ next ∈ after.head?, last.Apart next) :
    Maximal (before ++ after) :=
  ⟨List.forall_mem_append.mpr ⟨first.proper, second.proper⟩,
    first.apart.append second.apart apart⟩

theorem left (h : Maximal (before ++ after)) : Maximal before :=
  ⟨(List.forall_mem_append.mp h.proper).1, h.apart.left_of_append⟩

theorem right (h : Maximal (before ++ after)) : Maximal after :=
  ⟨(List.forall_mem_append.mp h.proper).2, h.apart.right_of_append⟩

end Maximal

/-! ## The runs of a text -/

namespace Run

/-- The run of one character. -/
def ofChar (c : Char) : Run :=
  if StagedBuild.isWord c then .word [c] else if isBlank c then .blank [c] else .other c

/-- A word or a gap with one more character in front. -/
def push (c : Char) : Run → Run
  | .word chars => .word (c :: chars)
  | .blank chars => .blank (c :: chars)
  | .other d => .other d

theorem ofChar_word {c : Char} (h : StagedBuild.isWord c = true) : ofChar c = .word [c] := by
  rw [ofChar, if_pos h]

theorem ofChar_blank {c : Char} (h : isBlank c = true) : ofChar c = .blank [c] := by
  simp [ofChar, h, not_isWord_of_isBlank]

theorem proper_ofChar (c : Char) : (ofChar c).Proper := by
  unfold ofChar
  split
  · next word => exact ⟨nofun, List.forall_mem_singleton.mpr word⟩
  · next word =>
    split
    · next blank => exact ⟨nofun, List.forall_mem_singleton.mpr blank⟩
    · next blank => exact ⟨eq_false_of_ne_true word, eq_false_of_ne_true blank⟩

theorem apart_push {c : Char} {run next : Run} : (run.push c).Apart next ↔ run.Apart next := by
  cases run <;> cases next <;> exact Iff.rfl

/-- A character that may not stand apart from a run is of the kind of the run. -/
theorem kind_of_not_apart {c : Char} {run : Run} (same : ¬(ofChar c).Apart run) :
    (StagedBuild.isWord c = true ∧ ∃ chars, run = .word chars) ∨
    (isBlank c = true ∧ ∃ chars, run = .blank chars) := by
  unfold ofChar at same
  split at same
  · next word =>
    cases run with
    | word chars => exact .inl ⟨word, chars, rfl⟩
    | blank chars => exact absurd trivial same
    | other d => exact absurd trivial same
  · split at same
    · next blank =>
      cases run with
      | word chars => exact absurd trivial same
      | blank chars => exact .inr ⟨blank, chars, rfl⟩
      | other d => exact absurd trivial same
    · cases run <;> exact absurd trivial same

theorem proper_push {c : Char} {run : Run} (same : ¬(ofChar c).Apart run) (h : run.Proper) :
    (run.push c).Proper := by
  rcases kind_of_not_apart same with ⟨word, chars, rfl⟩ | ⟨blank, chars, rfl⟩
  · exact ⟨nofun, List.forall_mem_cons.mpr ⟨word, h.2⟩⟩
  · exact ⟨nofun, List.forall_mem_cons.mpr ⟨blank, h.2⟩⟩

end Run

section AddChar

variable {c : Char} {rs : List Run}

/-- A character makes the run longer that it may not stand apart from. -/
theorem addChar_push {run : Run} (same : ¬(Run.ofChar c).Apart run) :
    addChar c (run :: rs) = run.push c :: rs := by
  rcases Run.kind_of_not_apart same with ⟨word, chars, rfl⟩ | ⟨blank, chars, rfl⟩
  · simp only [addChar, word, if_true, Run.push]
  · have word := not_isWord_of_isBlank blank
    simp [addChar, word, blank, Run.push]

/-- A character that may stand apart is a run. -/
theorem addChar_apart (apart : ∀ next ∈ rs.head?, (Run.ofChar c).Apart next) :
    addChar c rs = Run.ofChar c :: rs := by
  unfold Run.ofChar at apart ⊢
  split at apart
  · next word =>
    rcases rs with _ | ⟨run, rest⟩
    · simp [addChar, word]
    · have apart := apart run rfl
      cases run with
      | word chars => exact apart.elim
      | blank chars => simp [addChar, word]
      | other d => simp [addChar, word]
  · next word =>
    split at apart
    · next blank =>
      rcases rs with _ | ⟨run, rest⟩
      · simp [addChar, word, blank]
      · have apart := apart run rfl
        cases run with
        | word chars => simp [addChar, word, blank]
        | blank chars => exact apart.elim
        | other d => simp [addChar, word, blank]
    · next blank => simp [addChar, word, blank]

end AddChar

theorem maximal_addChar (c : Char) {rs : List Run} (h : Maximal rs) : Maximal (addChar c rs) := by
  by_cases apart : ∀ next ∈ rs.head?, (Run.ofChar c).Apart next
  · rw [addChar_apart apart]
    exact h.cons (Run.proper_ofChar c) apart
  · cases rs with
    | nil => exact absurd nofun apart
    | cons run rest =>
      have same : ¬(Run.ofChar c).Apart run := fun h => apart (by rintro _ ⟨⟩; exact h)
      rw [addChar_push same]
      exact h.tail.cons (Run.proper_push same (h.proper run (.head _))) fun next first =>
        Run.apart_push.mpr (h.apart.rel_head? first)

theorem maximal_runs (text : List Char) : Maximal (runs text) := by
  induction text with
  | nil => exact .nil
  | cons c rest ih => exact maximal_addChar c ih

/-- Characters of one kind are taken together, for words and for gaps alike. -/
theorem foldr_addChar_kind (kind : List Char → Run)
    (push : ∀ c chars, (kind chars).push c = kind (c :: chars))
    (same : ∀ first second, ¬(kind first).Apart (kind second)) {c : Char} {rest : List Char}
    {rs : List Run} (one : ∀ d ∈ c :: rest, Run.ofChar d = kind [d])
    (apart : ∀ next ∈ rs.head?, (kind (c :: rest)).Apart next) :
    (c :: rest).foldr addChar rs = kind (c :: rest) :: rs := by
  have first : Run.ofChar c = kind [c] := one c (.head _)
  induction rest generalizing c with
  | nil =>
    have alone : ∀ next ∈ rs.head?, (Run.ofChar c).Apart next := by
      rw [first]
      exact apart
    rw [List.foldr_cons, List.foldr_nil, addChar_apart alone, first]
  | cons d rest ih =>
    have ones := (List.forall_mem_cons.mp one).2
    have apart' : ∀ next ∈ rs.head?, (kind (d :: rest)).Apart next := by
      intro next hnext
      have longer := apart next hnext
      rw [← push] at longer
      exact Run.apart_push.mp longer
    have joins : ¬(Run.ofChar c).Apart (kind (d :: rest)) := by
      rw [first]
      exact same _ _
    rw [List.foldr_cons, ih ones apart' (ones d (.head _)), addChar_push joins, push]

/-- The characters of a run in front of others are taken together again. -/
theorem foldr_addChar {run : Run} {rs : List Run} (proper : run.Proper)
    (apart : ∀ next ∈ rs.head?, run.Apart next) : run.chars.foldr addChar rs = run :: rs := by
  cases run with
  | word chars =>
    cases chars with
    | nil => exact absurd rfl proper.1
    | cons c rest =>
      exact foldr_addChar_kind .word (fun _ _ => rfl) (fun _ _ => id)
        (fun d mem => Run.ofChar_word (proper.2 d mem)) apart
  | blank chars =>
    cases chars with
    | nil => exact absurd rfl proper.1
    | cons c rest =>
      exact foldr_addChar_kind .blank (fun _ _ => rfl) (fun _ _ => id)
        (fun d mem => Run.ofChar_blank (proper.2 d mem)) apart
  | other c =>
    have one : Run.ofChar c = .other c := by simp [Run.ofChar, proper.1, proper.2]
    have alone : ∀ next ∈ rs.head?, (Run.ofChar c).Apart next := by
      rw [one]
      exact apart
    rw [Run.chars, List.foldr_cons, List.foldr_nil, addChar_apart alone, one]

/-- Maximal runs are the runs of their text. -/
theorem runs_flatMap {rs : List Run} (h : Maximal rs) : runs (rs.flatMap Run.chars) = rs := by
  induction rs with
  | nil => rfl
  | cons run rest ih =>
    rw [List.flatMap_cons, runs, List.foldr_append, ← runs, ih h.tail]
    exact foldr_addChar (h.proper run (.head _)) h.apart.rel_head?

/-! ## Both ends -/

section Ends

variable {rs : List Run}

/-- A text ends in a word character if and only if its last run is a word. -/
theorem Maximal.ends (h : Maximal rs) :
    (∀ c ∈ (rs.flatMap Run.chars).getLast?, isWord c = false) ↔
      ∀ run ∈ rs.getLast?, run.isWord = false := by
  rcases List.eq_nil_or_concat rs with rfl | ⟨before, last, rfl⟩
  · simp
  · have proper := h.proper last (by simp)
    obtain ⟨c, hlast⟩ := Option.isSome_iff_exists.mp
      (List.getLast?_isSome.mpr proper.chars_ne_nil)
    have kind := proper.isWord_of_mem (List.mem_of_getLast? hlast)
    simp [hlast, kind]

/-- A text begins with a word character if and only if its first run is a word. -/
theorem Maximal.starts (h : Maximal rs) :
    (∀ c ∈ (rs.flatMap Run.chars).head?, isWord c = false) ↔
      ∀ run ∈ rs.head?, run.isWord = false := by
  cases rs with
  | nil => simp
  | cons first rest =>
    have proper := h.proper first (.head _)
    obtain ⟨c, chars, hfirst⟩ := List.exists_cons_of_ne_nil proper.chars_ne_nil
    have kind := proper.isWord_of_mem (hfirst ▸ List.mem_cons_self)
    simp [hfirst, kind]

end Ends

end StagedBuild.MainMachine
