import StagedBuild.Machine.Shell.Numbers

/-!
# What `echo` and `printf` print

`echo` puts spaces between its arguments and reads escapes in them.  `printf`
fills its arguments into a format, and uses the format again as long as
arguments are left.
-/

namespace StagedBuild.Shell

namespace Printing

/-- The byte that a simple escape stands for. -/
def escape? : Char → Option UInt8
  | 'a' => some 7
  | 'b' => some 8
  | 'f' => some 12
  | 'n' => some 10
  | 'r' => some 13
  | 't' => some 9
  | 'v' => some 11
  | '\\' => some 0x5C
  | _ => none

/-- Whether a character is an octal digit. -/
def isOctal (c : Char) : Bool := '0' ≤ c && c ≤ '7'

/-- The byte of octal digits. -/
def octal (digits : List Char) : UInt8 :=
  UInt8.ofNat (digits.foldl (fun n d => n * 8 + (d.toNat - 0x30)) 0)

/-- A text with its escapes read, and whether it may go on: `\c` stops it.
`leading` says that a zero may stand before an octal number. -/
def unescape (leading : Bool) (done : Bytes) : Nat → List Char → Bytes × Bool
  | 0, _ => (done.reverse, true)
  | _, [] => (done.reverse, true)
  | fuel + 1, '\\' :: 'c' :: rest =>
      if leading then (done.reverse, false)
      else unescape leading (0x63 :: 0x5C :: done) fuel rest
  | fuel + 1, '\\' :: c :: rest =>
      match escape? c with
      | some b => unescape leading (b :: done) fuel rest
      | none =>
          if leading && c = '0' then
            let digits := (rest.take 3).takeWhile isOctal
            unescape leading (octal digits :: done) fuel (rest.drop digits.length)
          else if isOctal c then
            let digits := ((c :: rest).take 3).takeWhile isOctal
            unescape leading (octal digits :: done) fuel ((c :: rest).drop digits.length)
          else unescape leading (UInt8.ofNat c.toNat :: 0x5C :: done) fuel rest
  | fuel + 1, c :: rest => unescape leading (UInt8.ofNat c.toNat :: done) fuel rest

/-- A text with its escapes read. -/
def unescaped (leading : Bool) (text : Bytes) : Bytes × Bool :=
  unescape leading [] (text.length + 1) text.toCodes

/-- What `echo` prints. -/
def echo (args : List Bytes) : Bytes :=
  let silent := args.head? = some (Bytes.ofString "-n")
  let (text, more) := unescaped true (joinPieces 0x20 (if silent then args.drop 1 else args))
  if more && !silent then text ++ [Bytes.lineFeed] else text

/-! ## Formats -/

/-- A place in a format that takes an argument. -/
structure Place where
  /-- Fill up on the right and not on the left. -/
  left : Bool
  /-- Fill up with zeros. -/
  zeros : Bool
  /-- Show the sign of positive numbers. -/
  plus : Bool
  /-- The least width. -/
  width : Nat
  /-- The greatest length of a text. -/
  precision : Option Nat
  /-- What is shown. -/
  kind : Char
deriving DecidableEq, Repr

/-- A piece of a format. -/
inductive FormatPiece where
  /-- Text that is printed. -/
  | text (bytes : Bytes)
  /-- A place that takes an argument. -/
  | place (place : Place)
deriving DecidableEq, Repr

/-- The number that digits at the start stand for, and what follows. -/
def leadingNat (chars : List Char) : Nat × List Char :=
  let digits := chars.takeWhile Char.isDigit
  (digits.foldl (fun n c => n * 10 + (c.toNat - 0x30)) 0, chars.drop digits.length)

/-- The place behind a percent sign, and what follows. -/
def readPlace (chars : List Char) : Option (Place × List Char) :=
  let flags := chars.takeWhile fun c => ['-', '0', '+', ' ', '#'].contains c
  let (width, rest) := leadingNat (chars.drop flags.length)
  let (precision, rest) := match rest with
    | '.' :: rest =>
        let (n, rest) := leadingNat rest
        (some n, rest)
    | rest => (none, rest)
  match rest with
  | kind :: rest =>
      some (⟨flags.contains '-', flags.contains '0', flags.contains '+', width, precision, kind⟩, rest)
  | [] => none

/-- The pieces of a format. -/
def formatPieces : Nat → List Char → List FormatPiece
  | 0, _ => []
  | _, [] => []
  | fuel + 1, '%' :: '%' :: rest => .text [0x25] :: formatPieces fuel rest
  | fuel + 1, '%' :: rest =>
      match readPlace rest with
      | some (place, rest) => .place place :: formatPieces fuel rest
      | none => [.text [0x25]]
  | fuel + 1, chars =>
      let run := chars.takeWhile (· ≠ '%')
      .text (unescaped false (Bytes.ofCodes run)).1 :: formatPieces fuel (chars.drop run.length)

/-- The digits of a number in a base, in lower case. -/
def digitsIn (base n : Nat) : Bytes := Bytes.ofString (String.ofList (Nat.toDigits base n))

/-- A text filled up to the width of a place. -/
def fillUp (place : Place) (numeric : Bool) (text : Bytes) : Bytes :=
  let missing := place.width - text.length
  if place.left then text ++ List.replicate missing 0x20
  else if place.zeros && numeric then
    match text with
    | 0x2D :: digits => 0x2D :: List.replicate missing 0x30 ++ digits
    | digits => List.replicate missing 0x30 ++ digits
  else List.replicate missing 0x20 ++ text

/-- A number that an argument stands for, and what is wrong with it. -/
def argNumber (arg : Bytes) : Int × Option String :=
  let chars := Bytes.toCodes (arg.dropWhile fun b => b == 0x20 || b == 0x09)
  let (negative, digits) := match chars with
    | '-' :: digits => (true, digits)
    | '+' :: digits => (false, digits)
    | digits => (false, digits)
  match chars with
  | [] => (0, none)
  | '\'' :: c :: _ => (c.toNat, none)
  | '"' :: c :: _ => (c.toNat, none)
  | _ =>
      if (digits.head?.any Char.isDigit) then
        let (n, rest) := leadingNumber digits
        (if negative then -(n : Int) else n,
          if rest.isEmpty then none else some "not completely converted")
      else (0, some "expected numeric value")

/-- A number as it is when it has no sign. -/
def unsigned (n : Int) : Nat := (BitVec.ofInt 64 n).toNat

/-- What is printed. -/
structure Filled where
  /-- The text. -/
  text : Bytes
  /-- What is wrong. -/
  complaints : List Bytes := []

/-- What is printed at a place for an argument. -/
def shownAt (place : Place) (arg : Bytes) : Filled :=
  let number (written : Int → Bytes) : Filled :=
    let (n, wrong?) := argNumber arg
    ⟨fillUp place true (written n), wrong?.toList.map fun wrong => arg ++ Bytes.ofString (": " ++ wrong)⟩
  match place.kind with
  | 's' => ⟨fillUp place false ((place.precision.map fun p => arg.take p).getD arg), []⟩
  | 'b' => ⟨fillUp place false (unescaped true arg).1, []⟩
  | 'c' => ⟨fillUp place false (arg.take 1), []⟩
  | 'o' => number fun n => digitsIn 8 (unsigned n)
  | 'x' => number fun n => digitsIn 16 (unsigned n)
  | 'X' => number fun n =>
      Bytes.ofString (String.ofList ((Nat.toDigits 16 (unsigned n)).map Char.toUpper))
  | 'u' => number fun n => natText (unsigned n)
  | _ => number fun n => (if place.plus && 0 ≤ n then [0x2B] else []) ++ intText n

/-- The format filled in once, and the arguments left. -/
def fillOnce : List FormatPiece → List Bytes → Filled × List Bytes
  | [], args => (⟨[], []⟩, args)
  | .text bytes :: rest, args =>
      let (more, args) := fillOnce rest args
      (⟨bytes ++ more.text, more.complaints⟩, args)
  | .place place :: rest, args =>
      let here := shownAt place (args.head?.getD [])
      let (more, left) := fillOnce rest (args.drop 1)
      (⟨here.text ++ more.text, here.complaints ++ more.complaints⟩, left)

/-- The format filled in as often as arguments are left. -/
def fillAll (pieces : List FormatPiece) : Nat → List Bytes → Filled
  | 0, _ => ⟨[], []⟩
  | fuel + 1, args =>
      let (filled, left) := fillOnce pieces args
      if left.isEmpty || left.length = args.length then filled
      else
        let more := fillAll pieces fuel left
        ⟨filled.text ++ more.text, filled.complaints ++ more.complaints⟩

/-- What `printf` prints. -/
def printf (format : Bytes) (args : List Bytes) : Filled :=
  fillAll (formatPieces (format.length + 1) format.toCodes) (args.length + 1) args

end Printing

end StagedBuild.Shell
