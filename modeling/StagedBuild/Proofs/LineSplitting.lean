import StagedBuild.Proofs.Parts
import StagedBuild.Text.Lines

/-!
# What taking lines apart does to a text

`unified` is `unify` as a recursion, oldest first, and `unified_cases` gives its
three steps.  A part without line ends is found in a line of a text if and only if
it is found in the text (`infix_cut_unify_iff`).  No line holds a line end
(`isLine_of_mem_normalize`).
-/

namespace StagedBuild

namespace Lines

/-! ## Parts and line ends -/

/-- The text with every line end as one line feed, oldest first. -/
def unified : List Char → List Char
  | [] => []
  | '\r' :: '\n' :: rest => '\n' :: unified rest
  | c :: rest => (if c = '\r' then '\n' else c) :: unified rest

theorem unifyFrom_eq (done text : List Char) :
    unifyFrom done text = done.reverse ++ unified text := by
  induction done, text using unifyFrom.induct with
  | case1 done => rw [unifyFrom, unified, List.append_nil]
  | case2 done rest ih =>
    rw [unifyFrom, unified, ih, List.reverse_cons, List.append_assoc, List.singleton_append]
  | case3 done c rest single ih =>
    rw [unifyFrom.eq_3 _ _ _ single, unified.eq_3 _ _ single, ih, List.reverse_cons,
      List.append_assoc, List.singleton_append]

/-- The steps of the recursion: the end, both characters of a line end, and any other
character. -/
theorem unified_cases (text : List Char) :
    (text = [] ∧ unified text = []) ∨
    (∃ rest, text = '\r' :: '\n' :: rest ∧ unified text = '\n' :: unified rest) ∨
    ∃ c rest, text = c :: rest ∧
      unified text = (if c = '\r' then '\n' else c) :: unified rest := by
  cases text using unified.fun_cases with
  | case1 => exact .inl ⟨rfl, rfl⟩
  | case2 rest => exact .inr (.inl ⟨rest, rfl, rfl⟩)
  | case3 c rest single => exact .inr (.inr ⟨c, rest, rfl, unified.eq_3 _ _ single⟩)

theorem unify_eq (text : List Char) : unify text = unified text := unifyFrom_eq [] text

section Parts

variable {part : List Char}

/-- A part without line ends is in front of a text if and only if it is in front of
the unified text. -/
theorem prefix_unified_iff (return_notMem : '\r' ∉ part) (feed_notMem : '\n' ∉ part)
    {text : List Char} : part <+: unified text ↔ part <+: text := by
  induction part generalizing text with
  | nil => simp
  | cons d part ih =>
    have returned := not_prefix_cons_of_notMem (List.cons_ne_nil d part) return_notMem
    have fed := not_prefix_cons_of_notMem (List.cons_ne_nil d part) feed_notMem
    rcases unified_cases text with ⟨rfl, h⟩ | ⟨rest, rfl, h⟩ | ⟨c, rest, rfl, h⟩
    · rw [h]
    · rw [h]
      exact iff_of_false (fed _) (returned _)
    · rw [h]
      split
      · next same =>
        rw [same]
        exact iff_of_false (fed _) (returned _)
      · rw [List.cons_prefix_cons, List.cons_prefix_cons,
          ih (fun mem => return_notMem (.tail _ mem)) fun mem => feed_notMem (.tail _ mem)]

/-- A part without line ends is in a text if and only if it is in the unified text. -/
theorem infix_unified_iff (ne : part ≠ []) (return_notMem : '\r' ∉ part)
    (feed_notMem : '\n' ∉ part) {text : List Char} :
    part <:+: unified text ↔ part <:+: text := by
  induction text using unified.induct with
  | case1 => rfl
  | case2 rest ih =>
    rw [unified, infix_cons_of_notMem ne feed_notMem, infix_cons_of_notMem ne return_notMem,
      infix_cons_of_notMem ne feed_notMem, ih]
  | case3 c rest single ih =>
    have front : part <+: unified (c :: rest) ↔ part <+: c :: rest :=
      prefix_unified_iff return_notMem feed_notMem
    rw [unified.eq_3 _ _ single] at front ⊢
    rw [List.infix_cons_iff, List.infix_cons_iff, front, ih]

/-- A part without line ends is in a line of a text if and only if it is in the
text. -/
theorem infix_cut_unify_iff (ne : part ≠ []) (return_notMem : '\r' ∉ part)
    (feed_notMem : '\n' ∉ part) (text : List Char) :
    (∃ line ∈ cut (unify text), part <:+: line) ↔ part <:+: text := by
  rw [unify_eq, ← infix_unified_iff ne return_notMem feed_notMem,
    ← infix_piecesAt_iff ne feed_notMem, cut]
  split
  · next last =>
    -- The piece that is left out is empty, so nothing is found in it.
    obtain ⟨pieces, hpieces⟩ := List.getLast?_eq_some_iff.mp last
    rw [hpieces, List.dropLast_concat]
    simp [ne]
  · rfl

end Parts

/-! ## What lines hold -/

/-- A text that no line end takes apart. -/
structure IsLine (line : String) : Prop where
  /-- It has no carriage return. -/
  return_notMem : '\r' ∉ line.toList
  /-- It has no line feed. -/
  feed_notMem : '\n' ∉ line.toList

instance (line : String) : Decidable (IsLine line) :=
  decidable_of_iff ('\r' ∉ line.toList ∧ '\n' ∉ line.toList)
    ⟨fun h => ⟨h.1, h.2⟩, fun h => ⟨h.return_notMem, h.feed_notMem⟩⟩

theorem return_notMem_unified (text : List Char) : '\r' ∉ unified text := by
  induction text using unified.induct with
  | case1 => exact List.not_mem_nil
  | case2 rest ih =>
    rw [unified, List.mem_cons, not_or]
    exact ⟨by decide, ih⟩
  | case3 c rest single ih =>
    rw [unified.eq_3 _ _ single, List.mem_cons, not_or]
    refine ⟨?_, ih⟩
    split
    · decide
    · next other => exact Ne.symm other

theorem mem_piecesAt_of_mem_cut {text line : List Char} (mem : line ∈ cut text) :
    line ∈ piecesAt '\n' text := by
  rw [cut] at mem
  split at mem
  · exact (List.dropLast_sublist _).subset mem
  · exact mem

theorem isLine_of_mem_normalize {text line : String} (mem : line ∈ normalize text) :
    IsLine line := by
  rw [normalize, unify_eq] at mem
  obtain ⟨chars, inCut, rfl⟩ := List.mem_map.mp mem
  have piece := mem_piecesAt_of_mem_cut inCut
  refine ⟨?_, ?_⟩
  · rw [String.toList_ofList]
    intro inside
    exact return_notMem_unified text.toList (mem_of_mem_piecesAt piece inside)
  · rw [String.toList_ofList]
    exact separator_notMem piece

end Lines

end StagedBuild
