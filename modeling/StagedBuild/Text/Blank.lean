import StagedBuild.Text.WordChar

/-!
# Blank characters

The blank characters are those of the Unicode property White_Space.
`not_isWord_of_isBlank` says that none of them is a word character, so a run of
blanks and a run of word characters never share a character.
-/

namespace StagedBuild

/-- The blank characters, first and last of each range. -/
def blankRanges : List (Nat × Nat) := [
  (0x09, 0x0D), (0x20, 0x20), (0x85, 0x85), (0xA0, 0xA0), (0x1680, 0x1680), (0x2000, 0x200A),
  (0x2028, 0x2029), (0x202F, 0x202F), (0x205F, 0x205F), (0x3000, 0x3000)]

/-- Whether a character is blank. -/
def isBlank (c : Char) : Bool :=
  blankRanges.any fun (first, last) => first ≤ c.toNat && c.toNat ≤ last

/-- The code points of the blank characters. -/
def blankCodes : List Nat :=
  blankRanges.flatMap fun (first, last) => List.range' first (last + 1 - first)

theorem toNat_mem_blankCodes {c : Char} (h : isBlank c = true) : c.toNat ∈ blankCodes := by
  simp only [isBlank, List.any_eq_true, Bool.and_eq_true, decide_eq_true_eq] at h
  obtain ⟨r, hr, hlo, hhi⟩ := h
  simp only [blankCodes, List.mem_flatMap, List.mem_range'_1]
  exact ⟨r, hr, hlo, by omega⟩

/-- No blank character is a word character. -/
theorem not_isWord_of_isBlank {c : Char} (h : isBlank c = true) : isWord c = false := by
  have hall : blankCodes.all (fun n => !isWord (Char.ofNat n)) = true := by decide +kernel
  have := List.all_eq_true.mp hall _ (toNat_mem_blankCodes h)
  simpa [Char.ofNat_toNat] using this

end StagedBuild
