import StagedBuild.Disk.Listing
import StagedBuild.Machine.Shell.Printing
import StagedBuild.Machine.Utility.Basic

/-!
# Small programs that print texts
-/

namespace StagedBuild

namespace Machine

namespace Utility

/-- Print files. -/
def cat : Utility := fun args => do say (← allContents {} (options args).2)

/-- Print arguments. -/
def echo : Utility := fun args => say (Shell.Printing.echo args)

/-- Print arguments in a format. -/
def printf : Utility
  | [] => needOperand
  | format :: args => do
      let filled := Shell.Printing.printf format args
      say filled.text
      filled.complaints.forM fun wrong => complain "" wrong ""

/-- The count that `-n N`, `-c N` or `-N` asks for, whether of bytes, and the
other arguments. -/
def countOf (usual : Nat) : List Bytes → Nat × Bool × List Bytes
  | (0x2D :: letters) :: rest =>
      match letters, rest with
      | [0x6E], count :: rest => ((Shell.natOf? count).getD usual, false, rest)
      | [0x63], count :: rest => ((Shell.natOf? count).getD usual, true, rest)
      | 0x6E :: digits, rest => ((Shell.natOf? digits).getD usual, false, rest)
      | 0x63 :: digits, rest => ((Shell.natOf? digits).getD usual, true, rest)
      | digits, rest => ((Shell.natOf? digits).getD usual, false, rest)
  | rest => (usual, false, rest)

/-- The start of a text, by bytes or by lines. -/
def firstOf (count : Nat) (ofBytes : Bool) (text : Bytes) : Bytes :=
  if ofBytes then text.take count
  else
    let lengths := ((piecesAt Bytes.lineFeed text).take count).map (·.length + 1)
    text.take (lengths.foldl Nat.add 0)

/-- What is said of a file whose start or end cannot be read. -/
def unopened : Unreadable := ⟨"cannot open '", "' for reading: "⟩

/-- Print the start of files. -/
def head : Utility := fun args => do
  let (count, ofBytes, paths) := countOf 10 args
  say (firstOf count ofBytes (← allContents unopened paths))

/-- Print the end of files. -/
def tail : Utility := fun args => do
  let (count, ofBytes, paths) := countOf 10 args
  let text ← allContents unopened paths
  let all := if ofBytes then text.length else (linesOf text).length
  say (text.drop (firstOf (all - count) ofBytes text).length)

/-- The number of words between blanks. -/
def wordCount (text : Bytes) : Nat :=
  let blank (b : UInt8) : Bool := b == 0x20 || (0x09 ≤ b && b ≤ 0x0D)
  (text.foldl (fun (count, inside) b =>
    if blank b then (count, false) else (if inside then count else count + 1, true)) (0, false)).1

/-- Count the lines, words and bytes of a file. -/
def wc : Utility := fun args => do
  let (letters, paths) := options args
  let text ← allContents {} paths
  if (← get).status ≠ 0 then return
  let counts := [('l', text.count Bytes.lineFeed), ('w', wordCount text), ('c', text.length)]
  let shown := if letters.isEmpty then counts else counts.filter fun (letter, _) => has letters letter
  let width := if shown.length = 1 then 1
    else if paths.isEmpty then 7 else (Shell.natText text.length).length
  let numbers := shown.map fun (_, n) =>
    let digits := Shell.natText n
    List.replicate (width - digits.length) 0x20 ++ digits
  sayLine (joinPieces 0x20 (numbers ++ paths.take 1))

/-- Print the lines of files in order. -/
def sort : Utility := fun args => do
  let (letters, paths) := options args
  let lines := (linesOf (← allContents ⟨"cannot read: ", ": "⟩ paths)).mergeSort Disk.bytesLe
  if (← get).status ≠ 0 then return ← endWith 2
  let lines := if has letters 'r' then lines.reverse else lines
  let lines := if has letters 'u' then lines.eraseDups else lines
  say (lines.flatMap (· ++ [Bytes.lineFeed]))

/-- Print the input and write it to files. -/
def tee : Utility := fun args => do
  let (letters, paths) := options args
  let text ← allContents {} []
  say text
  paths.forM fun path => do
    let written ← tryOnDisk do
      let loc ← if has letters 'a' then Disk.openKept path false else Disk.openEmptied path false
      let before := (← get).dataAt loc
      Disk.fill loc (before ++ text) (match (← get).get? loc with
        | some (.file _ executable) => executable
        | _ => false)
    match written with
    | .ok () => pure ()
    | .error cause => complain "" path (": " ++ cause.text)

/-- Wait. -/
def sleep : Utility := fun args =>
  match args.find? fun arg => arg.any fun b => b < 0x2E || 0x39 < b with
  | some arg => misuse "invalid time interval '" arg "'"
  | none => if args.isEmpty then needOperand else pure ()

/-- Print numbers from a first to a last. -/
def seq : Utility := fun args => do
  if args.isEmpty then return ← needOperand
  if let some arg := args.find? fun arg => (Shell.intOf? arg).isNone then
    return ← misuse "invalid floating point argument: '" arg "'"
  let numbers := args.filterMap Shell.intOf?
  let (first, step, last) := match numbers with
    | [last] => (1, 1, last)
    | [first, last] => (first, 1, last)
    | [first, step, last] => (first, step, last)
    | _ => (1, 1, 0)
  if step ≠ 0 then
    let count := ((last - first).fdiv step + 1).toNat
    say ((List.range count).flatMap fun (n : Nat) =>
      Shell.intText (first + step * n) ++ [Bytes.lineFeed])

/-- Print the value of an expression, and fail if it is zero or empty. -/
def expr : Utility := fun args => do
  let evaluated := Shell.Arithmetic.evaluate [] (Bytes.toCodes (joinPieces 0x20 args))
  match args with
  | [] => needOperand
  | [a, [0x3D], b] => do
      sayLine (Shell.intText (Shell.Arithmetic.ofBool (a == b)))
      endWith (if a == b then 0 else 1)
  | [a] => do
      sayLine a
      endWith (if a.isEmpty || a == [0x30] then 1 else 0)
  | _ =>
      match evaluated with
      | .ok (n, _) => do
          sayLine (Shell.intText n)
          endWith (if n = 0 then 1 else 0)
      | .error .divisionByZero => do
          complain "division by zero" [] ""
          endWith 2
      | .error _ => do
          complain "syntax error" [] ""
          endWith 2

end Utility

end Machine

end StagedBuild
