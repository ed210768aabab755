import StagedBuild.Machine.Basic

/-!
# Loading programs

A file that may be executed is a program image or starts with a line `#!` that
names an interpreter and perhaps one argument for it.  The interpreter is then
loaded, with the path of the file and the arguments behind it.  An interpreter
may have one itself, up to `interpreterLimit` of them.

A program that is named by a path is loaded from there.  One that is named by a
word is searched in the directories of a search path.  Directories that do not
have it are passed over, and so are files that may not be executed, but if
nothing else is found these are the cause.
-/

namespace StagedBuild

namespace Machine

/-- A system program with its arguments.  The first argument is the name it is
called by. -/
structure Loaded where
  /-- The name of the system program. -/
  name : Bytes
  /-- The arguments. -/
  args : List Bytes
deriving DecidableEq, Repr

namespace Loader

/-- How many interpreters may be loaded for one file. -/
def interpreterLimit : Nat := 5

/-- A blank in an interpreter line. -/
def isGap (b : UInt8) : Bool := b == 0x20 || b == 0x09

/-- The interpreter that the first line of a file names, and its argument.  A line
that names none and does not end stands for the working directory. -/
def interpreterOf? (data : Bytes) : Option (Path × List Bytes) :=
  match data with
  | 0x23 :: 0x21 :: rest =>
      let line := (rest.takeWhile (· != Bytes.lineFeed)).dropWhile isGap
      let line := (line.reverse.dropWhile isGap).reverse
      let interpreter := line.takeWhile (!isGap ·)
      let arg := (line.drop interpreter.length).dropWhile isGap
      if interpreter.isEmpty then
        if rest.contains Bytes.lineFeed then none else some (Path.here, [])
      else some (interpreter, if arg.isEmpty then [] else [arg])
  | _ => none

/-- Load the file at a path, with so many interpreters at most. -/
def loadFor (disk : Disk) : Nat → Path → List Bytes → Except IoError Loaded
  | 0, _, _ => .error .tooManyLinks
  | limit + 1, path, args =>
      match disk.stat path with
      | .error cause => .error cause
      | .ok (_, .file data true) =>
          match imageName? data with
          | some name => .ok ⟨name, args⟩
          | none =>
              match interpreterOf? data with
              | some (interpreter, first) =>
                  loadFor disk limit interpreter (interpreter :: first ++ path :: args.drop 1)
              | none => .error .badProgramFormat
      | .ok _ => .error .permissionDenied

/-- Load the file at a path. -/
def load (disk : Disk) (path : Path) (args : List Bytes) : Except IoError Loaded :=
  loadFor disk (interpreterLimit + 1) path args

/-- The search path of an environment that has none. -/
def usualSearchPath : Bytes := Bytes.ofString "/bin:/usr/bin"

/-- The path of a word in a directory of a search path.  The empty directory is
the working directory. -/
def placed (folder name : Bytes) : Path :=
  if folder.isEmpty then name else folder ++ Bytes.slash :: name

/-- Load a word from the first directory that has it.  `denied` says whether a
file was passed over that may not be executed. -/
def loadFrom (disk : Disk) (name : Bytes) (args : List Bytes) (denied : Bool) :
    List Bytes → Except IoError Loaded
  | [] => .error (if denied then .permissionDenied else .notFound)
  | folder :: later =>
      match load disk (placed folder name) args with
      | .ok loaded => .ok loaded
      | .error .notFound => loadFrom disk name args denied later
      | .error .notADirectory => loadFrom disk name args denied later
      | .error .permissionDenied => loadFrom disk name args true later
      | .error cause => .error cause

/-- Load a program by its path or by its name. -/
def find (disk : Disk) (searchPath : Option Bytes) (program : Path) (args : List Bytes) :
    Except IoError Loaded :=
  if program.isEmpty then .error .notFound
  else if program.contains Bytes.slash then load disk program args
  else if Disk.nameLimit < program.length then .error .nameTooLong
  else loadFrom disk program args false (piecesAt 0x3A (searchPath.getD usualSearchPath))

end Loader

end Machine

end StagedBuild
