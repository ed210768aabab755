import StagedBuild.Text.Bytes

/-!
# Patterns

A pattern matches byte strings.  `*` matches any bytes, `?` one byte and a set in
brackets one byte of it.  Quoted bytes match themselves.
-/

namespace StagedBuild.Shell

/-- A byte of a word and whether it is quoted. -/
abbrev Marked := List (UInt8 × Bool)

/-- A piece of a pattern. -/
inductive PatternPiece where
  /-- One byte. -/
  | byte (b : UInt8)
  /-- Any one byte. -/
  | any
  /-- Any bytes. -/
  | many
  /-- A byte in one of the ranges, or in none. -/
  | set (negated : Bool) (ranges : List (UInt8 × UInt8))
deriving DecidableEq, Repr

/-- A pattern. -/
abbrev Pattern := List PatternPiece

namespace Pattern

/-- Whether a byte is in one of some ranges. -/
def inRanges (ranges : List (UInt8 × UInt8)) (b : UInt8) : Bool :=
  ranges.any fun (low, high) => low ≤ b && b ≤ high

/-- Whether a pattern matches all of a byte string. -/
def isMatch : Pattern → Bytes → Bool
  | [], s => s.isEmpty
  | .byte b :: rest, s =>
      match s with
      | c :: s => b == c && isMatch rest s
      | [] => false
  | .any :: rest, s =>
      match s with
      | _ :: s => isMatch rest s
      | [] => false
  | .set negated ranges :: rest, s =>
      match s with
      | c :: s => (inRanges ranges c != negated) && isMatch rest s
      | [] => false
  | .many :: rest, s => (List.range (s.length + 1)).any fun n => isMatch rest (s.drop n)

/-- The ranges of a set up to its bracket, and what follows. -/
def readSet (ranges : List (UInt8 × UInt8)) : Marked → Option (List (UInt8 × UInt8) × Marked)
  | [] => none
  | (0x5D, false) :: rest =>
      if ranges.isEmpty then readSet [(0x5D, 0x5D)] rest else some (ranges.reverse, rest)
  | (low, _) :: (0x2D, false) :: (high, quoted) :: rest =>
      if high = 0x5D && !quoted then some (((0x2D, 0x2D) :: (low, low) :: ranges).reverse, rest)
      else readSet ((low, high) :: ranges) rest
  | (b, _) :: rest => readSet ((b, b) :: ranges) rest

/-- The pattern of a word. -/
def ofMarkedFor : Nat → Marked → Pattern
  | 0, _ => []
  | _, [] => []
  | fuel + 1, (b, true) :: rest => .byte b :: ofMarkedFor fuel rest
  | fuel + 1, (0x2A, false) :: rest => .many :: ofMarkedFor fuel rest
  | fuel + 1, (0x3F, false) :: rest => .any :: ofMarkedFor fuel rest
  | fuel + 1, (0x5B, false) :: rest =>
      let (negated, inner) := match rest with
        | (0x21, false) :: inner => (true, inner)
        | inner => (false, inner)
      match readSet [] inner with
      | some (ranges, behind) => .set negated ranges :: ofMarkedFor fuel behind
      | none => .byte 0x5B :: ofMarkedFor fuel rest
  | fuel + 1, (b, false) :: rest => .byte b :: ofMarkedFor fuel rest

/-- The pattern of a word. -/
def ofMarked (word : Marked) : Pattern := ofMarkedFor word.length word

/-- Whether a pattern is more than bytes. -/
def isOpen (pattern : Pattern) : Bool :=
  pattern.any fun
    | .byte _ => false
    | _ => true

/-- A value without the part at one end that matches. -/
def trim (atEnd longest : Bool) (pattern : Pattern) (value : Bytes) : Bytes :=
  let lengths := List.range (value.length + 1)
  let lengths := if longest then lengths.reverse else lengths
  let part (n : Nat) : Bytes := if atEnd then value.drop (value.length - n) else value.take n
  match lengths.find? fun n => isMatch pattern (part n) with
  | some n => if atEnd then value.take (value.length - n) else value.drop n
  | none => value

end Pattern

end StagedBuild.Shell
