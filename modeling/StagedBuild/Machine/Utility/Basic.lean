import StagedBuild.Disk.Operations

/-!
# Small programs

A small program is a function of its arguments, of what it can read and of the
disk.  It prints on two channels, may change the disk and ends with a status.
-/

namespace StagedBuild

namespace Machine

/-- A channel that programs print on. -/
inductive Printed where
  /-- Results. -/
  | result
  /-- Complaints. -/
  | complaint
deriving DecidableEq, Repr

/-- A run of a program. -/
structure Job where
  /-- The name that it is called by. -/
  name : Bytes
  /-- What it can read. -/
  input : Bytes
  /-- The disk. -/
  disk : Disk
  /-- What it has printed, the latest first. -/
  printed : List (Printed × Bytes) := []
  /-- The status that it ends with. -/
  status : Nat := 0

/-- A program: what it does for some arguments. -/
abbrev Utility := List Bytes → StateM Job Unit

namespace Utility

/-! ## Printing and failing -/

/-- Print. -/
def say (text : Bytes) : StateM Job Unit :=
  modify fun job => { job with printed := (.result, text) :: job.printed }

/-- Print a line. -/
def sayLine (text : Bytes) : StateM Job Unit := say (text ++ [Bytes.lineFeed])

/-- End with a status. -/
def endWith (status : Nat) : StateM Job Unit := modify fun job => { job with status := status }

/-- Complain about something and end with 1. -/
def complain (text : String) (what : Bytes) (reason : String) : StateM Job Unit := do
  let line := Bytes.ofString (": " ++ text) ++ what ++ Bytes.ofString (reason ++ "\n")
  modify fun job => { job with printed := (.complaint, job.name ++ line) :: job.printed }
  endWith 1

/-- Say that the arguments make no sense, and end with 1. -/
def misuse (text : String) (what : Bytes) (rest : String) : StateM Job Unit := do
  let name := Path.display (← get).name
  complain text what (rest ++ "\nTry '" ++ name ++ " --help' for more information.")

/-- Complain that operands are missing. -/
def needOperand : StateM Job Unit := misuse "missing operand" [] ""

/-- Do something with the operands, of which there has to be one. -/
def forOperands (paths : List Path) (work : Path → StateM Job Unit) : StateM Job Unit :=
  if paths.isEmpty then needOperand else paths.forM work

/-- Complain about a path. -/
def complainOf (text : String) (path : Path) (cause : IoError) : StateM Job Unit :=
  complain (text ++ " '") path ("': " ++ cause.text)

/-- Do an operation on the disk. -/
def tryOnDisk {α : Type} (operation : DiskM α) : StateM Job (Except IoError α) := fun job =>
  let (outcome, disk) := operation job.disk
  (outcome, { job with disk := disk })

/-- Do an operation on the disk or complain about a path. -/
def onDisk (text : String) (path : Path) (operation : DiskM Unit) : StateM Job Unit := do
  match ← tryOnDisk operation with
  | .ok () => pure ()
  | .error cause => complainOf text path cause

/-! ## Arguments -/

/-- Letters of options at the start, and the other arguments. -/
def options : List Bytes → List UInt8 × List Bytes
  | [] => ([], [])
  | arg :: rest =>
      match arg with
      | 0x2D :: c :: letters =>
          if c = 0x2D && letters.isEmpty then ([], rest)
          else
            let (more, operands) := options rest
            (c :: letters ++ more, operands)
      | _ => ([], arg :: rest)

/-- Whether a letter is among the options. -/
def has (letters : List UInt8) (c : Char) : Bool := letters.contains (UInt8.ofNat c.toNat)

/-- A path into a directory if the path leads to one, and the path itself else. -/
def into (disk : Disk) (destination source : Path) : Path :=
  if disk.isFolder destination then destination.join (source.fileName?.getD []) else destination

/-- What is said of a file that cannot be read, before its path and behind it. -/
structure Unreadable where
  /-- Before its path. -/
  before : String := ""
  /-- Behind its path. -/
  behind : String := ": "

/-- The bytes of a file, or of the input for `-`. -/
def contents (wording : Unreadable) (path : Path) : StateM Job (Option Bytes) := do
  if path = [0x2D] then
    let job ← get
    set { job with input := [] }
    return some job.input
  match ← tryOnDisk (Disk.readFile path) with
  | .ok data => return some data
  | .error cause => do
      complain wording.before path (wording.behind ++ cause.text)
      return none

/-- The bytes of some files one after the other, or of the input if there are
none. -/
def allContents (wording : Unreadable) (paths : List Path) : StateM Job Bytes := do
  let datas ← (if paths.isEmpty then [[0x2D]] else paths).mapM (contents wording)
  return (datas.map (·.getD [])).flatten

/-- The lines of a text.  A last line without a line end is a line too. -/
def linesOf (text : Bytes) : List Bytes :=
  let pieces := piecesAt Bytes.lineFeed text
  if pieces.getLast? = some [] then pieces.dropLast else pieces

end Utility

end Machine

end StagedBuild
