import StagedBuild.Text.Bytes

/-!
# Parts of lists

An element that is not in a part may be left out in front of a list where the part
is searched.  So a part without the separator is found in the pieces of a list if
and only if it is found in the list (`infix_piecesAt_iff`), and in two lists with
the separator between them if and only if it is found in one of them
(`infix_append_cons_iff`).
-/

namespace StagedBuild

section Fronts

variable {α : Type} {part : List α} {c : α}

/-- A part does not begin with what is not in it. -/
theorem not_prefix_cons_of_notMem (ne : part ≠ []) (clean : c ∉ part) (rest : List α) :
    ¬part <+: c :: rest := by
  obtain ⟨d, others, rfl⟩ := List.exists_cons_of_ne_nil ne
  rw [List.cons_prefix_cons]
  rintro ⟨rfl, _⟩
  exact clean (.head _)

theorem infix_cons_of_notMem (ne : part ≠ []) (clean : c ∉ part) {rest : List α} :
    part <:+: c :: rest ↔ part <:+: rest := by
  rw [List.infix_cons_iff, or_iff_right (not_prefix_cons_of_notMem ne clean rest)]

/-- A part is in front of a list that goes on behind a separator if and only if it is
in front of what stands before that. -/
theorem prefix_append_cons_iff (clean : c ∉ part) {before behind : List α} :
    part <+: before ++ c :: behind ↔ part <+: before := by
  induction part generalizing before with
  | nil => simp
  | cons d part ih =>
    rw [List.mem_cons, not_or] at clean
    obtain ⟨ne, clean⟩ := clean
    cases before with
    | nil => simp [List.cons_prefix_cons, Ne.symm ne]
    | cons e before => rw [List.cons_append, List.cons_prefix_cons, List.cons_prefix_cons, ih clean]

/-- A part without a separator is found on one side of it. -/
theorem infix_append_cons_iff (ne : part ≠ []) (clean : c ∉ part) {before behind : List α} :
    part <:+: before ++ c :: behind ↔ part <:+: before ∨ part <:+: behind := by
  induction before with
  | nil => simp [infix_cons_of_notMem ne clean, ne]
  | cons d before ih =>
    rw [List.cons_append, List.infix_cons_iff, List.infix_cons_iff, ih, or_assoc]
    rw [← List.cons_append, prefix_append_cons_iff clean]

end Fronts

/-! ## Pieces -/

section Pieces

variable {α : Type} [BEq α] [LawfulBEq α] {separator : α} {part whole : List α}

theorem piecesAt_separator (separator : α) (rest : List α) :
    piecesAt separator (separator :: rest) = [] :: piecesAt separator rest := by
  simp [piecesAt]

theorem piecesAt_other {c : α} (other : c ≠ separator) (rest : List α) :
    ∃ piece others, piecesAt separator rest = piece :: others ∧
      piecesAt separator (c :: rest) = (c :: piece) :: others := by
  obtain ⟨piece, others, hpieces⟩ := List.exists_cons_of_ne_nil (piecesAt_ne_nil separator rest)
  refine ⟨piece, others, hpieces, ?_⟩
  rw [piecesAt] at hpieces
  simp [piecesAt, other, hpieces]

/-- A part without the separator is in front of a list if and only if it is in front
of the first piece. -/
theorem prefix_piecesAt_iff (clean : separator ∉ part) {piece : List α} {others : List (List α)}
    (h : piecesAt separator whole = piece :: others) : part <+: whole ↔ part <+: piece := by
  induction part generalizing whole piece others with
  | nil => simp
  | cons c part ih =>
    rw [List.mem_cons, not_or] at clean
    obtain ⟨ne, clean⟩ := clean
    cases whole with
    | nil =>
      cases h
      exact Iff.rfl
    | cons d rest =>
      by_cases same : d = separator
      · subst same
        rw [piecesAt_separator] at h
        cases h
        simp [List.cons_prefix_cons, Ne.symm ne]
      · obtain ⟨first, rest', hrest, hwhole⟩ := piecesAt_other same rest
        rw [hwhole] at h
        cases h
        rw [List.cons_prefix_cons, List.cons_prefix_cons, ih clean hrest]

/-- A part without the separator is in a piece if and only if it is in the list. -/
theorem infix_piecesAt_iff (ne : part ≠ []) (clean : separator ∉ part) :
    (∃ piece ∈ piecesAt separator whole, part <:+: piece) ↔ part <:+: whole := by
  induction whole with
  | nil => simp [piecesAt]
  | cons c rest ih =>
    by_cases same : c = separator
    · subst same
      rw [piecesAt_separator, infix_cons_of_notMem ne clean, ← ih]
      simp [ne]
    · obtain ⟨piece, others, hrest, hwhole⟩ := piecesAt_other same rest
      rw [List.infix_cons_iff, prefix_piecesAt_iff clean hwhole, ← ih, hrest, hwhole]
      simp [List.infix_cons_iff, or_assoc]

theorem piecesAt_append_cons (separator : α) (before behind : List α) :
    piecesAt separator (before ++ separator :: behind) =
      piecesAt separator before ++ piecesAt separator behind := by
  induction before with
  | nil => rw [List.nil_append, piecesAt_separator]; rfl
  | cons c before ih =>
    rw [List.cons_append]
    by_cases same : c = separator
    · subst same
      rw [piecesAt_separator, piecesAt_separator, ih, List.cons_append]
    · obtain ⟨piece, others, hbefore, hwhole⟩ := piecesAt_other same before
      obtain ⟨piece', others', hbefore', hwhole'⟩ :=
        piecesAt_other same (before ++ separator :: behind)
      rw [ih, hbefore, List.cons_append] at hbefore'
      cases hbefore'
      rw [hwhole, hwhole', List.cons_append]

/-- A list without the separator is its one piece. -/
theorem piecesAt_of_notMem (clean : separator ∉ whole) : piecesAt separator whole = [whole] := by
  induction whole with
  | nil => rfl
  | cons c rest ih =>
    rw [List.mem_cons, not_or] at clean
    obtain ⟨piece, others, hrest, hwhole⟩ := piecesAt_other (Ne.symm clean.1) rest
    rw [ih clean.2] at hrest
    cases hrest
    exact hwhole

/-- No piece holds the separator. -/
theorem separator_notMem {piece : List α} (mem : piece ∈ piecesAt separator whole) :
    separator ∉ piece := by
  induction whole generalizing piece with
  | nil =>
    simp only [piecesAt, List.foldr_nil, List.mem_singleton] at mem
    subst mem
    exact List.not_mem_nil
  | cons c rest ih =>
    by_cases same : c = separator
    · subst same
      rw [piecesAt_separator] at mem
      rcases List.mem_cons.mp mem with rfl | mem
      · exact List.not_mem_nil
      · exact ih mem
    · obtain ⟨first, others, hrest, hwhole⟩ := piecesAt_other same rest
      rw [hwhole] at mem
      rw [hrest] at ih
      rcases List.mem_cons.mp mem with rfl | mem
      · rw [List.mem_cons, not_or]
        exact ⟨Ne.symm same, ih (.head _)⟩
      · exact ih (.tail _ mem)

theorem mem_of_mem_piecesAt {piece : List α} (mem : piece ∈ piecesAt separator whole) {c : α}
    (inside : c ∈ piece) : c ∈ whole := by
  induction whole generalizing piece with
  | nil =>
    simp only [piecesAt, List.foldr_nil, List.mem_singleton] at mem
    subst mem
    exact inside
  | cons d rest ih =>
    by_cases same : d = separator
    · subst same
      rw [piecesAt_separator] at mem
      rcases List.mem_cons.mp mem with rfl | mem
      · cases inside
      · exact .tail _ (ih mem inside)
    · obtain ⟨first, others, hrest, hwhole⟩ := piecesAt_other same rest
      rw [hwhole] at mem
      rw [hrest] at ih
      rcases List.mem_cons.mp mem with rfl | mem
      · rcases List.mem_cons.mp inside with rfl | inside
        · exact .head _
        · exact .tail _ (ih (.head _) inside)
      · exact .tail _ (ih (.tail _ mem) inside)

theorem mem_joinPieces {α : Type} {separator c : α} {pieces : List (List α)}
    (mem : c ∈ joinPieces separator pieces) : c = separator ∨ ∃ piece ∈ pieces, c ∈ piece := by
  induction pieces with
  | nil => cases mem
  | cons piece others ih =>
    cases others with
    | nil => exact .inr ⟨piece, .head _, mem⟩
    | cons next others =>
      simp only [joinPieces, List.mem_append, List.mem_cons] at mem
      rcases mem with mem | rfl | mem
      · exact .inr ⟨piece, .head _, mem⟩
      · exact .inl rfl
      · rcases ih mem with same | ⟨other, mem', inside⟩
        · exact .inl same
        · exact .inr ⟨other, .tail _ mem', inside⟩

end Pieces

end StagedBuild
