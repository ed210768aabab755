import StagedBuild.Proofs.LineSplitting

/-!
# Lines in one pass

`scan` takes a text apart in one pass.  A line ends at a line feed, at a carriage
return with a line feed behind it and at a carriage return without one, and the text
that is left at the end is a line if it is not empty.  The symbols may be characters or
bytes, so `Ends` names the two that end lines.

`normalize` makes several passes: it replaces one kind of line end after the other
(`unify_eq_replaceAll`) and then cuts at the line feeds.  The lines are the same
(`normalize_eq_scan`).

In the other direction, lines may be written with any line end behind each.  They are
read back if no line feed comes right behind a carriage return that stands for a line
end alone (`normalize_terminated`).
-/

namespace StagedBuild

namespace Lines

/-! ## Symbols that end lines -/

/-- The symbols that end lines. -/
structure Ends (α : Type) where
  /-- The carriage return. -/
  ret : α
  /-- The line feed. -/
  feed : α
  /-- They are two. -/
  ne : ret ≠ feed

/-- The characters that end lines. -/
def charEnds : Ends Char := ⟨'\r', '\n', by decide⟩

/-- The bytes that end lines. -/
def byteEnds : Ends UInt8 := ⟨0x0D, Bytes.lineFeed, by decide⟩

/-- What may end a line. -/
inductive LineEnd where
  /-- A carriage return and a line feed. -/
  | both
  /-- A line feed. -/
  | feed
  /-- A carriage return. -/
  | ret
deriving DecidableEq, Repr

namespace LineEnd

/-- The symbols of a line end. -/
def symbols {α : Type} (ends : Ends α) : LineEnd → List α
  | .both => [ends.ret, ends.feed]
  | .feed => [ends.feed]
  | .ret => [ends.ret]

/-- The text of a line end. -/
def text : LineEnd → String
  | .both => "\r\n"
  | .feed => "\n"
  | .ret => "\r"

theorem toList_text (e : LineEnd) : e.text.toList = e.symbols charEnds := by
  cases e <;> rfl

/-- A line end is all of one: no line feed comes right behind a lone carriage return. -/
def Whole {α : Type} (ends : Ends α) (e : LineEnd) (behind : List α) : Prop :=
  e = .ret → behind.head? ≠ some ends.feed

instance {α : Type} [DecidableEq α] (ends : Ends α) (e : LineEnd) (behind : List α) :
    Decidable (e.Whole ends behind) :=
  inferInstanceAs (Decidable (e = .ret → behind.head? ≠ some ends.feed))

end LineEnd

/-- Symbols that no line end takes apart. -/
structure Ends.Clean {α : Type} (ends : Ends α) (line : List α) : Prop where
  /-- No carriage return is there. -/
  ret_notMem : ends.ret ∉ line
  /-- No line feed is there. -/
  feed_notMem : ends.feed ∉ line

namespace Ends

variable {α : Type} {ends : Ends α}

theorem clean_nil : ends.Clean [] := ⟨List.not_mem_nil, List.not_mem_nil⟩

theorem clean_cons {c : α} {line : List α} :
    ends.Clean (c :: line) ↔ (c ≠ ends.ret ∧ c ≠ ends.feed) ∧ ends.Clean line := by
  constructor
  · rintro ⟨ret, feed⟩
    rw [List.mem_cons, not_or] at ret feed
    exact ⟨⟨Ne.symm ret.1, Ne.symm feed.1⟩, ret.2, feed.2⟩
  · rintro ⟨⟨not_ret, not_feed⟩, clean⟩
    refine ⟨?_, ?_⟩
    · rw [List.mem_cons, not_or]
      exact ⟨Ne.symm not_ret, clean.ret_notMem⟩
    · rw [List.mem_cons, not_or]
      exact ⟨Ne.symm not_feed, clean.feed_notMem⟩

end Ends

theorem clean_iff_isLine {line : String} : charEnds.Clean line.toList ↔ IsLine line :=
  ⟨fun h => ⟨h.ret_notMem, h.feed_notMem⟩, fun h => ⟨h.return_notMem, h.feed_notMem⟩⟩

/-! ## The pass -/

section Scan

variable {α : Type} [DecidableEq α] (ends : Ends α) {line rest : List α} {c : α}

/-- The lines of a text in one pass, behind an open line.  A carriage return before a
line feed is passed over, and the line feed ends the line. -/
def scanFrom (line : List α) : List α → List (List α)
  | [] => if line = [] then [] else [line]
  | c :: rest =>
      if c = ends.ret ∧ rest.head? = some ends.feed then scanFrom line rest
      else if c = ends.ret ∨ c = ends.feed then line :: scanFrom [] rest
      else scanFrom (line ++ [c]) rest

/-- The lines of a text in one pass. -/
def scan (text : List α) : List (List α) := scanFrom ends [] text

theorem scanFrom_feed (line rest : List α) :
    scanFrom ends line (ends.feed :: rest) = line :: scan ends rest := by
  have other : ¬(ends.feed = ends.ret ∧ rest.head? = some ends.feed) :=
    fun h => ends.ne h.1.symm
  rw [scanFrom, if_neg other, if_pos (.inr rfl), scan]

theorem scanFrom_both (line rest : List α) :
    scanFrom ends line (ends.ret :: ends.feed :: rest) = line :: scan ends rest := by
  rw [scanFrom, if_pos ⟨rfl, rfl⟩, scanFrom_feed ends]

theorem scanFrom_ret (alone : rest.head? ≠ some ends.feed) (line : List α) :
    scanFrom ends line (ends.ret :: rest) = line :: scan ends rest := by
  rw [scanFrom, if_neg fun h => alone h.2, if_pos (.inl rfl), scan]

theorem scanFrom_other (not_ret : c ≠ ends.ret) (not_feed : c ≠ ends.feed) (line rest : List α) :
    scanFrom ends line (c :: rest) = scanFrom ends (line ++ [c]) rest := by
  rw [scanFrom, if_neg fun h => not_ret h.1, if_neg fun h => h.elim not_ret not_feed]

variable {ends}

/-- A line end ends the open line. -/
theorem scanFrom_end {e : LineEnd} (whole : e.Whole ends rest) (line : List α) :
    scanFrom ends line (e.symbols ends ++ rest) = line :: scan ends rest := by
  cases e with
  | both => exact scanFrom_both ends line rest
  | feed => exact scanFrom_feed ends line rest
  | ret => exact scanFrom_ret ends (whole rfl) line

/-- Symbols that end no line go on with the open one. -/
theorem scanFrom_clean {piece : List α} (clean : ends.Clean piece) (line rest : List α) :
    scanFrom ends line (piece ++ rest) = scanFrom ends (line ++ piece) rest := by
  induction piece generalizing line with
  | nil => rw [List.nil_append, List.append_nil]
  | cons c piece ih =>
    obtain ⟨⟨not_ret, not_feed⟩, others⟩ := Ends.clean_cons.mp clean
    rw [List.cons_append, scanFrom_other ends not_ret not_feed, ih others, List.append_assoc,
      List.singleton_append]

/-- The first line of a text is what stands before its first line end. -/
theorem scan_line {e : LineEnd} (clean : ends.Clean line) (whole : e.Whole ends rest) :
    scan ends (line ++ (e.symbols ends ++ rest)) = line :: scan ends rest := by
  rw [scan, scanFrom_clean clean, List.nil_append, scanFrom_end whole]

/-- A text without line ends is its only line, if it is not empty. -/
theorem scan_last (clean : ends.Clean line) :
    scan ends line = if line = [] then [] else [line] := by
  have open_line := scanFrom_clean clean [] []
  rw [List.append_nil, List.nil_append] at open_line
  rw [scan, open_line, scanFrom]

/-- Every text has no line end, or a first one. -/
theorem first_line (ends : Ends α) (text : List α) :
    ends.Clean text ∨ ∃ line e rest, text = line ++ (LineEnd.symbols ends e ++ rest) ∧
      ends.Clean line ∧ e.Whole ends rest := by
  induction text with
  | nil => exact .inl Ends.clean_nil
  | cons c rest ih =>
    by_cases feed : c = ends.feed
    · subst feed
      exact .inr ⟨[], .feed, rest, rfl, Ends.clean_nil, nofun⟩
    by_cases ret : c = ends.ret
    · subst ret
      by_cases split : rest.head? = some ends.feed
      · obtain ⟨behind, rfl⟩ := List.head?_eq_some_iff.mp split
        exact .inr ⟨[], .both, behind, rfl, Ends.clean_nil, nofun⟩
      · exact .inr ⟨[], .ret, rest, rfl, Ends.clean_nil, fun _ => split⟩
    rcases ih with clean | ⟨line, e, behind, rfl, clean, whole⟩
    · exact .inl (Ends.clean_cons.mpr ⟨⟨ret, feed⟩, clean⟩)
    · exact .inr ⟨c :: line, e, behind, rfl, Ends.clean_cons.mpr ⟨⟨ret, feed⟩, clean⟩, whole⟩

end Scan

/-! ## Several passes -/

/-- A text with each occurrence of a part replaced, from the left.  `skip` is the
number of symbols that still belong to the last occurrence. -/
def replaceFrom {α : Type} [BEq α] (old new : List α) : Nat → List α → List α
  | _, [] => []
  | skip + 1, _ :: rest => replaceFrom old new skip rest
  | 0, c :: rest =>
      if old.isPrefixOf (c :: rest) then new ++ replaceFrom old new (old.length - 1) rest
      else c :: replaceFrom old new 0 rest

/-- A text with each occurrence of a part replaced. -/
def replaceAll {α : Type} [BEq α] (old new text : List α) : List α := replaceFrom old new 0 text

/-- The line ends are unified by two replacements, first of those with both characters
and then of the lone carriage returns. -/
theorem unify_eq_replaceAll (text : List Char) :
    unify text = replaceAll ['\r'] ['\n'] (replaceAll ['\r', '\n'] ['\n'] text) := by
  rw [unify_eq]
  induction text using unified.induct with
  | case1 => rfl
  | case2 rest ih =>
    rw [unified, ih]
    rfl
  | case3 c rest single ih =>
    have kept : replaceAll ['\r', '\n'] ['\n'] (c :: rest) =
        c :: replaceAll ['\r', '\n'] ['\n'] rest := by
      refine if_neg fun found => ?_
      obtain ⟨behind, same⟩ := List.isPrefixOf_iff_prefix.mp found
      cases same
      exact single _ rfl rfl
    have next : ∀ others : List Char, replaceAll ['\r'] ['\n'] (c :: others) =
        (if c = '\r' then '\n' else c) :: replaceAll ['\r'] ['\n'] others := by
      intro others
      by_cases ret : c = '\r'
      · subst ret
        rfl
      · have other : ¬['\r'].isPrefixOf (c :: others) = true := by
          simp [List.isPrefixOf, Ne.symm ret]
        rw [if_neg ret]
        exact if_neg other
    rw [unified.eq_3 _ _ single, kept, next, ih]

theorem cut_append_feed {line : List Char} (clean : '\n' ∉ line) (rest : List Char) :
    cut (line ++ '\n' :: rest) = line :: cut rest := by
  have ne := piecesAt_ne_nil '\n' rest
  rw [cut, cut, piecesAt_append_cons, piecesAt_of_notMem clean, List.singleton_append,
    List.getLast?_cons_of_ne_nil ne, List.dropLast_cons_of_ne_nil ne]
  split <;> rfl

/-- The passes give the lines of the one pass, behind any open line. -/
theorem cut_unified {line : List Char} (clean : '\n' ∉ line) (text : List Char) :
    cut (line ++ unified text) = scanFrom charEnds line text := by
  induction text using unified.induct generalizing line with
  | case1 =>
    rw [unified, List.append_nil, cut, piecesAt_of_notMem clean, scanFrom]
    by_cases empty : line = []
    · rw [if_pos empty, empty]
      rfl
    · rw [if_neg empty]
      exact if_neg fun same => empty (Option.some.inj same)
  | case2 rest ih =>
    have rest_eq := ih List.not_mem_nil
    rw [List.nil_append] at rest_eq
    rw [unified, cut_append_feed clean, rest_eq]
    exact (scanFrom_both charEnds line rest).symm
  | case3 c rest single ih =>
    have rest_eq := ih List.not_mem_nil
    rw [List.nil_append] at rest_eq
    rw [unified.eq_3 _ _ single]
    by_cases ret : c = '\r'
    · have alone : rest.head? ≠ some '\n' := by
        intro split
        obtain ⟨behind, rfl⟩ := List.head?_eq_some_iff.mp split
        exact single behind ret rfl
      rw [if_pos ret, cut_append_feed clean, rest_eq, ret]
      exact (scanFrom_ret charEnds alone line).symm
    rw [if_neg ret]
    by_cases feed : c = '\n'
    · rw [feed, cut_append_feed clean, rest_eq]
      exact (scanFrom_feed charEnds line rest).symm
    · have longer : '\n' ∉ line ++ [c] := by simp [clean, Ne.symm feed]
      have whole := ih longer
      rw [List.append_assoc, List.singleton_append] at whole
      rw [whole]
      exact (scanFrom_other charEnds ret feed line rest).symm

/-- The lines of a text are those of one pass. -/
theorem normalize_eq_scan (text : String) :
    normalize text = (scan charEnds text.toList).map String.ofList := by
  have pass : cut ([] ++ unified text.toList) = scanFrom charEnds [] text.toList :=
    cut_unified List.not_mem_nil text.toList
  rw [List.nil_append] at pass
  rw [normalize, unify_eq, pass, scan]

/-! ## Lines with any ends -/

/-- The text of some lines, each with its line end. -/
def terminated : List (String × LineEnd) → String
  | [] => ""
  | (line, e) :: others => line ++ e.text ++ terminated others

/-- No line feed comes right behind a lone carriage return that ends a line. -/
def Separate : List (String × LineEnd) → Prop
  | [] => True
  | (_, e) :: others => e.Whole charEnds (terminated others).toList ∧ Separate others

instance : (lines : List (String × LineEnd)) → Decidable (Separate lines)
  | [] => inferInstanceAs (Decidable True)
  | (_, e) :: others =>
      have : Decidable (Separate others) := instDecidableSeparate others
      inferInstanceAs (Decidable (e.Whole charEnds (terminated others).toList ∧ Separate others))

theorem toList_terminated_cons (line : String) (e : LineEnd) (others : List (String × LineEnd)) :
    (terminated ((line, e) :: others)).toList =
      line.toList ++ (e.symbols charEnds ++ (terminated others).toList) := by
  rw [terminated, String.toList_append, String.toList_append, e.toList_text, List.append_assoc]

/-- Lines are read back from their text, whatever ends each. -/
theorem normalize_terminated {lines : List (String × LineEnd)}
    (clean : ∀ line ∈ lines, IsLine line.1) (separate : Separate lines) :
    normalize (terminated lines) = lines.map Prod.fst := by
  induction lines with
  | nil => rfl
  | cons first others ih =>
    obtain ⟨line, e⟩ := first
    obtain ⟨whole, others_separate⟩ := separate
    have rest := ih (fun other mem => clean other (.tail _ mem)) others_separate
    have line_clean := clean_iff_isLine.mpr (clean _ (.head _))
    rw [normalize_eq_scan] at rest ⊢
    rw [toList_terminated_cons, scan_line line_clean whole, List.map_cons, rest,
      String.ofList_toList]
    rfl

end Lines

end StagedBuild
