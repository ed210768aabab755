import StagedBuild.Text.Bytes

/-!
# Reading bytes as text

Tool output, file contents and paths are shown as text even where they are not
valid UTF-8.  Valid characters are kept.  Each maximal part that starts a
character and does not end it, and each byte that starts none, becomes one
replacement character.

The reader is a machine with one state between characters and one state inside
a character.  The state inside holds how many bytes are owed, the range of the
next one and the value read so far.  The ranges of the second byte rule out
overlong forms, surrogates and values above U+10FFFF.  A byte outside its range
ends the part that it breaks, and is then read between characters.
-/

namespace StagedBuild.Utf8

/-- Stands for a part that is not valid. -/
def replacement : Char := '\uFFFD'

/-- Where the reader stands. -/
inductive State where
  /-- Between characters. -/
  | start
  /-- Inside a character: `owed + 1` bytes are missing, the next one lies from
  `low` to `high`, and `code` is the value of the bits read so far. -/
  | within (owed low high code : Nat)
deriving DecidableEq, Repr

/-- The state after the first byte of a character of several bytes. -/
def lead? (b : Nat) : Option State :=
  if 0xC2 ≤ b ∧ b ≤ 0xDF then some (.within 0 0x80 0xBF (b - 0xC0))
  else if b = 0xE0 then some (.within 1 0xA0 0xBF 0)
  else if b = 0xED then some (.within 1 0x80 0x9F 0xD)
  else if 0xE1 ≤ b ∧ b ≤ 0xEF then some (.within 1 0x80 0xBF (b - 0xE0))
  else if b = 0xF0 then some (.within 2 0x90 0xBF 0)
  else if 0xF1 ≤ b ∧ b ≤ 0xF3 then some (.within 2 0x80 0xBF (b - 0xF0))
  else if b = 0xF4 then some (.within 2 0x80 0x8F 4)
  else none

/-- A byte read between characters: the text it completes and the next state. -/
def first (b : Nat) : List Char × State :=
  if b ≤ 0x7F then ([Char.ofNat b], .start)
  else match lead? b with
    | some state => ([], state)
    | none => ([replacement], .start)

/-- One byte: the text it completes and the next state. -/
def step : State → Nat → List Char × State
  | .start, b => first b
  | .within owed low high code, b =>
      if low ≤ b ∧ b ≤ high then
        match owed with
        | 0 => ([Char.ofNat (code * 64 + (b - 0x80))], .start)
        | owed + 1 => ([], .within owed 0x80 0xBF (code * 64 + (b - 0x80)))
      else
        let (text, state) := first b
        (replacement :: text, state)

/-- What the end of the bytes adds: one replacement for an open character. -/
def finish : State → List Char
  | .start => []
  | .within .. => [replacement]

/-- The text of some bytes from a state, and the state after them.  The text is
newest first. -/
def feed (state : State) (text : List Char) (bytes : Bytes) : List Char × State :=
  bytes.foldl
    (fun (text, state) b =>
      let (more, next) := step state b.toNat
      (more.reverse ++ text, next))
    (text, state)

/-- The characters of a byte string. -/
def decodeChars (bytes : Bytes) : List Char :=
  let (text, state) := feed .start [] bytes
  (finish state ++ text).reverse

/-- The text of a byte string. -/
def decode (bytes : Bytes) : String := String.ofList (decodeChars bytes)

/-! ## Tests -/

/-- A cut character and a byte that starts none are one replacement each. -/
example : decodeChars [0xE2, 0x82, 0x41, 0x80] = [replacement, 'A', replacement] := by decide

/-- The parts of a surrogate are three. -/
example : decodeChars [0xED, 0xA0, 0x80] = [replacement, replacement, replacement] := by decide

example : decodeChars (Bytes.ofString "é日🙂") = "é日🙂".toList := by decide

end StagedBuild.Utf8
