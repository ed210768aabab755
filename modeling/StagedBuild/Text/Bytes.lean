/-!
# Byte strings

Paths, arguments, file contents and captured output are strings of bytes.
Nothing in them has to be valid text.  A byte string is a list of bytes, so the
list library is its theory.

`ofString` gives the UTF-8 form of a text.  `isPartOf` searches a contiguous
part, and `isPartOf_iff` says that it finds exactly those.
-/

namespace StagedBuild

/-- A string of bytes. -/
abbrev Bytes := List UInt8

namespace Bytes

/-- The UTF-8 form of a list of characters. -/
def ofChars (text : List Char) : Bytes := text.flatMap String.utf8EncodeChar

/-- The UTF-8 form of a text. -/
def ofString (text : String) : Bytes := ofChars text.toList

/-- The characters whose code points are the bytes. -/
def toCodes (bytes : Bytes) : List Char := bytes.map fun b => Char.ofNat b.toNat

/-- The bytes that are the code points of the characters. -/
def ofCodes (codes : List Char) : Bytes := codes.map fun c => UInt8.ofNat c.toNat

/-- The line feed. -/
def lineFeed : UInt8 := 0x0A

/-- The byte that separates the components of a path. -/
def slash : UInt8 := 0x2F

/-- The byte `.`. -/
def dot : UInt8 := 0x2E

end Bytes

/-! ## Contiguous parts -/

/-- Whether `part` occurs contiguously in a list. -/
def isPartOf {α : Type} [BEq α] (part : List α) : List α → Bool
  | [] => part.isEmpty
  | c :: rest => part.isPrefixOf (c :: rest) || isPartOf part rest

theorem isPartOf_iff {α : Type} [BEq α] [LawfulBEq α] {part whole : List α} :
    isPartOf part whole = true ↔ part <:+: whole := by
  induction whole with
  | nil => simp [isPartOf]
  | cons c rest ih =>
    simp [isPartOf, ih, List.infix_cons_iff]

/-! ## Pieces between separators -/

/-- The pieces of a list between the occurrences of a separator.  There is one
piece more than there are separators. -/
def piecesAt {α : Type} [BEq α] (separator : α) (whole : List α) : List (List α) :=
  whole.foldr
    (fun c pieces =>
      if c == separator then [] :: pieces
      else match pieces with
        | [] => [[c]]
        | piece :: others => (c :: piece) :: others)
    [[]]

/-- Pieces written one after the other with a separator between them. -/
def joinPieces {α : Type} (separator : α) : List (List α) → List α
  | [] => []
  | [piece] => piece
  | piece :: others => piece ++ separator :: joinPieces separator others

theorem piecesAt_ne_nil {α : Type} [BEq α] (separator : α) (whole : List α) :
    piecesAt separator whole ≠ [] := by
  cases whole with
  | nil => simp [piecesAt]
  | cons c rest =>
    simp only [piecesAt, List.foldr_cons]
    split
    · simp
    · split <;> simp

/-- Nothing is lost: the pieces joined again are the list. -/
theorem joinPieces_piecesAt {α : Type} [BEq α] [LawfulBEq α] (separator : α) (whole : List α) :
    joinPieces separator (piecesAt separator whole) = whole := by
  induction whole with
  | nil => rfl
  | cons c rest ih =>
    have hne := piecesAt_ne_nil separator rest
    simp only [piecesAt, List.foldr_cons] at ih hne ⊢
    split
    · next h =>
      cases hp : rest.foldr _ [[]] with
      | nil => exact absurd hp hne
      | cons p ps => rw [hp] at ih; simp [joinPieces, ih, eq_of_beq h]
    · cases hp : rest.foldr _ [[]] with
      | nil => exact absurd hp hne
      | cons p ps =>
        rw [hp] at ih
        cases ps with
        | nil => simp [joinPieces] at ih ⊢; exact ih
        | cons q qs => simp [joinPieces] at ih ⊢; exact ih

end StagedBuild
