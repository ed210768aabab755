import StagedBuild.Machine.Shell.Steps

/-!
# What a shell is to do

A shell runs the text of its first operand, the file that its first operand
names, or what it can read.  Its arguments say which, and what flags are set.
-/

namespace StagedBuild.Shell

/-- What a shell is to do. -/
structure Task where
  /-- The flags to set. -/
  flags : List UInt8 := []
  /-- Whether the first operand is the text of a script and not its path. -/
  inline : Bool := false
  /-- Whether the script is read from the first channel. -/
  fromInput : Bool := false
  /-- The operands. -/
  operands : List Bytes := []

/-- The task in the arguments of a shell. -/
def Task.ofArgs (task : Task) : List Bytes → Task
  | [] => task
  | arg :: rest =>
      match arg with
      | [0x2D] => { task with operands := rest }
      | [0x2D, 0x2D] => { task with operands := rest }
      | 0x2D :: letters =>
          let task := { task with
            flags := task.flags ++ letters
            inline := task.inline || letters.contains 0x63
            fromInput := task.fromInput || letters.contains 0x73 }
          task.ofArgs rest
      | 0x2B :: _ => task.ofArgs rest
      | _ => { task with operands := arg :: rest }

/-- The letters that a shell can be given. -/
def taskLetters : Bytes := Bytes.ofString "abCcefhiIlmnsuvVxE"

/-- The text that a shell runs, after its name and its arguments are set. -/
def Task.text (task : Task) : Run Bytes := do
  if let some letter := task.flags.find? (!taskLetters.contains ·) then
    modify fun shell => { shell with line := 0 }
    abort (Bytes.ofString "Illegal option -" ++ [letter])
  modify fun shell => task.flags.foldl (Builtin.withFlag · true ·) shell
  let give (name : Bytes) (args : List Bytes) : Run Unit :=
    modify fun shell => { shell with name := name, args := args }
  match task.inline, (if task.fromInput then [] else task.operands) with
  | true, [] => do
      modify fun shell => { shell with line := 0 }
      abort (Bytes.ofString "-c requires an argument")
  | true, text :: rest => do
      give (rest.head?.getD (← get).name) (rest.drop 1)
      return text
  | false, [] => do
      let text := (← get).readable 0
      leaveReadable 0 []
      give (← get).name task.operands
      return text
  | false, path :: rest => do
      match (Disk.readFile path (← get).disk).1 with
      | .ok text => do
          give path rest
          return text
      | .error cause => do
          modify fun shell => { shell with line := 0 }
          abort (openComplaint false path cause)

end StagedBuild.Shell
