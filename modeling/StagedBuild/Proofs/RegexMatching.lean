import Mathlib.Data.List.Basic
import StagedBuild.Text.Regex

/-!
# How a pattern is matched

`Regex.andThen?` is what comes of the most preferred way of a pattern behind which a
continuation succeeds.  It has an equation for each kind of pattern, and the first
match is its case with a continuation that always succeeds (`search?_map`).

`andThen?_oneOrMore` is about one or more characters of a kind.  They are all that
stand together, if no other ways are of use to the continuation.
-/

namespace StagedBuild.Regex

variable {α : Type}

namespace Spot

variable (s : Spot)

@[simp] theorem past_ahead (chars : List Char) : (s.past chars).ahead = s.ahead.drop chars.length :=
  rfl

@[simp] theorem past_nil : s.past [] = s := rfl

theorem past_append (front back : List Char) : s.past (front ++ back) = (s.past front).past back := by
  simp only [past, List.getLast?_append, List.length_append, List.drop_drop, Option.or_assoc]

theorem past_cons (c : Char) (chars : List Char) : s.past (c :: chars) = (s.past [c]).past chars :=
  s.past_append [c] chars

/-- The text behind characters that stand ahead. -/
theorem ahead_past {front back : List Char} (split : s.ahead = front ++ back) :
    (s.past front).ahead = back := by
  rw [past_ahead, split, List.drop_left]

end Spot

section Lists

variable {β γ : Type} (l : List β)

theorem findSome?_flatMap (f : β → List γ) (k : γ → Option α) :
    (l.flatMap f).findSome? k = l.findSome? fun x => (f x).findSome? k := by
  induction l with
  | nil => rfl
  | cons x rest ih =>
    rw [List.flatMap_cons, List.findSome?_append, ih, List.findSome?_cons]
    cases (f x).findSome? k <;> rfl

theorem findSome?_filter (p : β → Bool) (k : β → Option α) :
    (l.filter p).findSome? k = l.findSome? fun x => if p x then k x else none := by
  induction l with
  | nil => rfl
  | cons x rest ih =>
    cases fits : p x with
    | true => simp only [List.filter_cons_of_pos fits, List.findSome?_cons, fits, ih, if_true]
    | false =>
      rw [List.filter_cons_of_neg (by simp [fits]), ih, List.findSome?_cons]
      simp only [fits, Bool.false_eq_true, if_false]

end Lists

theorem ends_eq (greedy : Bool) (step : Spot → List Spot) (s : Spot) :
    ends greedy step s = arrange greedy
      (((step s).filter (·.ahead.length < s.ahead.length)).flatMap (ends greedy step)) s := by
  rw [ends, List.flatMap_subtype (fun _ _ => rfl), List.unattach_attach]

/-- What comes of the most preferred way of a pattern behind which a continuation
succeeds. -/
def andThen? (r : Regex) (k : Spot → Option α) (s : Spot) : Option α := (r.ways s).findSome? k

section Equations

variable (k : Spot → Option α) (s : Spot)

theorem andThen?_wordEdge : wordEdge.andThen? k s = if s.atEdge then k s else none := by
  rw [andThen?, ways]
  split
  · rw [List.findSome?_singleton]
  · rfl

theorem andThen?_char (fits : Char → Bool) :
    (char fits).andThen? k s = (s.ahead.head?.filter fits).bind fun c => k (s.past [c]) := by
  rw [andThen?, ways]
  cases s.ahead.head?.filter fits with
  | none => rfl
  | some c => rw [Option.toList_some, List.map_singleton, List.findSome?_singleton, Option.bind_some]

theorem andThen?_text (chars : List Char) :
    (text chars).andThen? k s = if chars <+: s.ahead then k (s.past chars) else none := by
  rw [andThen?, ways]
  simp only [List.isPrefixOf_iff_prefix]
  split
  · rw [List.findSome?_singleton]
  · rfl

theorem andThen?_seq (first second : Regex) :
    (seq first second).andThen? k s = first.andThen? (second.andThen? k) s := by
  rw [andThen?, ways, findSome?_flatMap]
  rfl

theorem andThen?_group (part : Regex) :
    (group part).andThen? k s = part.andThen? (fun t => k (t.capture s)) s := by
  rw [andThen?, ways, List.findSome?_map]
  rfl

/-- What comes of a round that takes something, and of the further ones. -/
def anotherRound (greedy : Bool) (part : Regex) : Option α :=
  part.andThen? (fun t =>
    if t.ahead.length < s.ahead.length then (rounds greedy part).andThen? k t else none) s

theorem andThen?_rounds (greedy : Bool) (part : Regex) :
    (rounds greedy part).andThen? k s =
      if greedy then (anotherRound k s greedy part).or (k s)
      else (k s).or (anotherRound k s greedy part) := by
  have more : (((part.ways s).filter (·.ahead.length < s.ahead.length)).flatMap
      (ends greedy part.ways)).findSome? k = anotherRound k s greedy part := by
    rw [findSome?_flatMap, findSome?_filter]
    simp only [decide_eq_true_eq]
    rfl
  rw [andThen?, ways, ends_eq, arrange, ← more]
  split
  · rw [List.findSome?_append, List.findSome?_singleton]
  · rw [List.findSome?_cons]
    cases k s <;> rfl

end Equations

/-! ## Characters of a kind -/

/-- The next character is of a kind. -/
def Spot.Faces (s : Spot) (fits : Char → Bool) : Prop := ∃ c ∈ s.ahead.head?, fits c = true

section Kinds

variable {k : Spot → Option α} {s : Spot} {fits : Char → Bool}

theorem andThen?_char_none (other : ¬s.Faces fits) : (char fits).andThen? k s = none := by
  have missing : s.ahead.head?.filter fits = none :=
    Option.filter_eq_none_iff.mpr fun c first fit => other ⟨c, first, fit⟩
  rw [andThen?_char, missing, Option.bind_none]

theorem andThen?_char_cons {c : Char} {rest : List Char} (ahead : s.ahead = c :: rest)
    (fit : fits c = true) : (char fits).andThen? k s = k (s.past [c]) := by
  rw [andThen?_char, ahead, List.head?_cons, Option.filter_some, if_pos fit, Option.bind_some]

theorem andThen?_oneOrMore_none (other : ¬s.Faces fits) :
    (oneOrMore (char fits)).andThen? k s = none := by
  rw [oneOrMore, andThen?_seq, andThen?_char_none other]

/-- All characters of a kind that stand together are taken, if the continuation has no
use for fewer of them. -/
theorem andThen?_rounds_run {run rest : List Char} (all : ∀ c ∈ run, fits c = true)
    (stops : ∀ c ∈ rest.head?, fits c = false) (split : s.ahead = run ++ rest)
    (best : ∀ t : Spot, t.Faces fits → (k (s.past run)).or (k t) = k (s.past run)) :
    (rounds true (char fits)).andThen? k s = k (s.past run) := by
  rw [andThen?_rounds, if_pos rfl]
  induction run generalizing s with
  | nil =>
    have other : ¬s.Faces fits := by
      rintro ⟨c, first, fit⟩
      rw [split, List.nil_append] at first
      rw [stops c first] at fit
      cases fit
    rw [anotherRound, andThen?_char_none other, Option.none_or, Spot.past_nil]
  | cons c run ih =>
    obtain ⟨fit, others⟩ := List.forall_mem_cons.mp all
    have next : (s.past [c]).ahead = run ++ rest := s.ahead_past split
    have shorter : (s.past [c]).ahead.length < s.ahead.length := by
      rw [next, split, List.cons_append, List.length_cons]
      exact Nat.lt_succ_self _
    rw [s.past_cons] at best ⊢
    rw [anotherRound, andThen?_char_cons split fit, if_pos shorter, andThen?_rounds, if_pos rfl,
      ih others next best]
    exact best s ⟨c, by rw [split]; rfl, fit⟩

theorem andThen?_oneOrMore_run {run rest : List Char} (some_char : run ≠ [])
    (all : ∀ c ∈ run, fits c = true) (stops : ∀ c ∈ rest.head?, fits c = false)
    (split : s.ahead = run ++ rest)
    (best : ∀ t : Spot, t.Faces fits → (k (s.past run)).or (k t) = k (s.past run)) :
    (oneOrMore (char fits)).andThen? k s = k (s.past run) := by
  obtain ⟨c, more, rfl⟩ := List.exists_cons_of_ne_nil some_char
  obtain ⟨fit, others⟩ := List.forall_mem_cons.mp all
  have next : (s.past [c]).ahead = more ++ rest := s.ahead_past split
  rw [s.past_cons] at best ⊢
  rw [oneOrMore, andThen?_seq, andThen?_char_cons split fit]
  exact andThen?_rounds_run others stops next best

end Kinds

/-! ## The first match -/

/-- The match from a spot is the most preferred way for a continuation that always
succeeds. -/
theorem head?_ways_map (r : Regex) (f : Spot → α) (s : Spot) :
    (r.ways s).head?.map f = r.andThen? (fun t => some (f t)) s := by
  rw [andThen?]
  cases r.ways s <;> rfl

/-- What is captured by the first match, if all matches capture something. -/
theorem capture?_eq {r : Regex} {text : List Char} {found : Option (List Char)}
    (matched : (r.search? none text).map Spot.captured? = found.map some) :
    r.capture? text = found := by
  have both : r.capture? text = ((r.search? none text).map Spot.captured?).bind id := by
    rw [Option.bind_map]
    rfl
  rw [both, matched]
  cases found <;> rfl

end StagedBuild.Regex
