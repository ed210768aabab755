import StagedBuild.Machine.Shell.Conditions
import StagedBuild.Machine.Shell.Printing
import StagedBuild.Machine.Shell.State

/-!
# Commands of the shell itself

These commands work on the state of the shell and run no other commands.  A
*special* command ends the shell if it cannot be done.
-/

namespace StagedBuild.Shell

namespace Builtin

/-- The text of a byte string with one character a byte. -/
def nameOf (bytes : Bytes) : String := String.ofList bytes.toCodes

/-- A name and the value behind its first `=`, if it has one. -/
def splitAssignment (arg : Bytes) : Bytes × Option Bytes :=
  let name := arg.takeWhile (· != 0x3D)
  (name, if name.length = arg.length then none else some (arg.drop (name.length + 1)))

/-- The number in an argument.  Anything else ends the shell. -/
def numberIn (command : String) (arg : Bytes) : Run Nat :=
  match intOf? arg with
  | some (.ofNat n) => pure n
  | _ => abort (Bytes.ofString (command ++ ": Illegal number: ") ++ arg)

/-- Complain about how a command was used. -/
def misuse (status : Nat) (text : String) : Run Unit := do
  complain (Bytes.ofString text)
  finish status

/-! ## Flow -/

/-- The status that an argument asks for, or the last one. -/
def finishWith (command : String) (args : List Bytes) : Run Unit := do
  match args with
  | [] => pure ()
  | arg :: _ => do finish (← numberIn command arg)

/-- Leave the shell. -/
def exit (args : List Bytes) : Run Unit := do
  finishWith "exit" args
  throw .exit

/-- Leave a function. -/
def leaveFunction (args : List Bytes) : Run Unit := do
  finishWith "return" args
  throw .function

/-- Leave loops or their rounds.  There is nothing to leave outside of loops. -/
def leaveLoops (command : String) (leave : Nat → Leave) (args : List Bytes) : Run Unit := do
  let count ← match args with
    | [] => pure 1
    | arg :: _ => numberIn command arg
  finish 0
  let loops := (← get).loops
  if loops = 0 then pure () else throw (leave (min count loops))

/-! ## Arguments and flags -/

/-- Drop arguments. -/
def shift (args : List Bytes) : Run Unit := do
  let count ← match args with
    | [] => pure 1
    | arg :: _ => numberIn "shift" arg
  let shell ← get
  if shell.args.length < count then abort (Bytes.ofString "shift: can't shift that many")
  else do
    set { shell with args := shell.args.drop count }
    finish 0

/-- Set or clear a flag by its letter. -/
def withFlag (shell : State) (value : Bool) (letter : UInt8) : State :=
  if letter = 0x65 then { shell with stopAtFailure := value }
  else if letter = 0x75 then { shell with needsValues := value }
  else if letter = 0x66 then { shell with plainNames := value }
  else shell

/-- The letter of a flag by its long name. -/
def letterOf (long : Bytes) : UInt8 :=
  match nameOf long with
  | "errexit" => 0x65
  | "nounset" => 0x75
  | "noglob" => 0x66
  | _ => 0

/-- Set flags, and the arguments if there are any. -/
def setFlags : List Bytes → Run Unit
  | [] => finish 0
  | arg :: rest =>
      match arg with
      | [0x2D, 0x2D] => do
          modify fun shell => { shell with args := rest }
          finish 0
      | [sign, 0x6F] =>
          match rest with
          | long :: rest => do
              modify fun shell => withFlag shell (sign == 0x2D) (letterOf long)
              setFlags rest
          | [] => finish 0
      | 0x2D :: letters => do
          modify fun shell => letters.foldl (fun shell c => withFlag shell true c) shell
          setFlags rest
      | 0x2B :: letters => do
          modify fun shell => letters.foldl (fun shell c => withFlag shell false c) shell
          setFlags rest
      | _ => do
          modify fun shell => { shell with args := arg :: rest }
          finish 0

/-! ## Variables -/

/-- Mark variables and give them values. -/
def declare (change : Variable → Variable) (args : List Bytes) : Run Unit := do
  args.forM fun arg => do
    let (name, value?) := splitAssignment arg
    if let some value := value? then assign name value
    if arg.head? != some 0x2D then mark name change
  finish 0

/-- Hide variables while the function runs. -/
def hide (args : List Bytes) : Run Unit := do
  args.forM fun arg => do
    let (name, value?) := splitAssignment arg
    let shell ← get
    match shell.hidden with
    | [] => abort (Bytes.ofString "local: not in a function")
    | inner :: outer => do
        set { shell with hidden := ((name, shell.bindings.lookup name) :: inner) :: outer }
        match value? with
        | some value => assign name value
        | none => pure ()
  finish 0

/-- Forget variables, or functions. -/
def unset (args : List Bytes) : Run Unit := do
  let functions := args.head? == some (Bytes.ofString "-f")
  args.forM fun name =>
    modify fun shell =>
      if functions then { shell with functions := shell.functions.filter (·.1 != name) }
      else shell.put name none
  finish 0

/-- Take the backslashes away that quote the byte behind them. -/
def withoutBackslashes : Bytes → Bytes
  | 0x5C :: b :: rest => b :: withoutBackslashes rest
  | [0x5C] => []
  | b :: rest => b :: withoutBackslashes rest
  | [] => []

/-- Share the fields of a line out to some names.  The last one gets the rest. -/
def shareOut (separators : Bytes) : List Bytes → Bytes → List (Bytes × Bytes)
  | [], _ => []
  | [name], line =>
      let text := line.dropWhile separators.contains
      [(name, (text.reverse.dropWhile separators.contains).reverse)]
  | name :: names, line =>
      let text := line.dropWhile separators.contains
      let field := text.takeWhile (!separators.contains ·)
      (name, field) :: shareOut separators names (text.drop (field.length + 1))

/-- Read a line into variables. -/
def read (args : List Bytes) : Run Unit := do
  let raw := args.head? == some (Bytes.ofString "-r")
  let names := args.filter (·.head? != some 0x2D)
  let shell ← get
  let text := shell.readable 0
  let line := text.takeWhile (· != Bytes.lineFeed)
  leaveReadable 0 (text.drop (line.length + 1))
  let shown := if raw then line else withoutBackslashes line
  (shareOut shell.separators names shown).forM fun (name, value) => assign name value
  finishBy (line.length < text.length)

/-! ## The rest -/

/-- Print a text and succeed, unless the channel is closed. -/
def printing (name : String) (text : Bytes) : Run Unit := do
  if ((← get).channels.lookup 1).isSome then
    write 1 text
    finish 0
  else misuse 1 (name ++ ": " ++ name ++ ": I/O error")

/-- Print arguments in a format. -/
def printf : List Bytes → Run Unit
  | [] => misuse 2 "printf: usage: printf format [arg ...]"
  | [0x2D, 0x2D] :: format :: args => printf (format :: args)
  | format :: args => do
      let filled := Printing.printf format args
      printing "printf" filled.text
      filled.complaints.forM fun wrong => do
        complain (Bytes.ofString "printf: " ++ wrong)
        finish 1

/-- Change the working directory. -/
def changeFolder (args : List Bytes) : Run Unit := do
  let shell ← get
  let valueOf (name : String) : Bytes := (shell.value? (Bytes.ofString name)).getD []
  let target := match args with
    | [] => valueOf "HOME"
    | [0x2D] :: _ => valueOf "OLDPWD"
    | target :: _ => target
  if args.head? = some [0x2D] then writeLine 1 target
  match shell.disk.stat (if target.isEmpty then Path.here else target) with
  | .ok (loc, .folder) => do
      modify fun shell => { shell with disk := { shell.disk with home := loc } }
      assign (Bytes.ofString "OLDPWD") (Disk.pathOf shell.disk.home)
      assign (Bytes.ofString "PWD") (Disk.pathOf loc)
      finish 0
  | _ => do
      complain (Bytes.ofString "cd: can't cd to " ++ target)
      finish 2

/-- Ask for files, texts and numbers. -/
def test (name : String) (args : List Bytes) : Run Unit := do
  match Conditions.evaluate (← get).disk args with
  | .ok holds => finishBy holds
  | .error fault => do
      complain (Bytes.ofString (name ++ ": ") ++ fault.text)
      finish 2

/-- Ask for files, texts and numbers, up to a bracket. -/
def bracket (args : List Bytes) : Run Unit :=
  if args.getLast? = some [0x5D] then test "[" args.dropLast
  else misuse 2 "[: missing ]"

/-- What a command of the shell does that runs no others. -/
def ofName? (name : Bytes) : Option (List Bytes → Run Unit) :=
  match nameOf name with
  | ":" => some fun _ => finish 0
  | "true" => some fun _ => finish 0
  | "false" => some fun _ => finish 1
  | "echo" => some fun args => printing "echo" (Printing.echo args)
  | "printf" => some printf
  | "pwd" => some fun _ => do printing "pwd" (Disk.pathOf (← get).disk.home ++ [Bytes.lineFeed])
  | "cd" => some changeFolder
  | "exit" => some exit
  | "return" => some leaveFunction
  | "break" => some (leaveLoops "break" .loops)
  | "continue" => some (leaveLoops "continue" fun count => .round (count - 1))
  | "shift" => some shift
  | "set" => some setFlags
  | "unset" => some unset
  | "export" => some (declare ({ · with exported := true }))
  | "readonly" => some (declare ({ · with fixed := true }))
  | "local" => some hide
  | "read" => some read
  | "test" => some (test "test")
  | "[" => some bracket
  | "umask" => some fun args => do
      if args.isEmpty then writeLine 1 (Bytes.ofString "0022")
      finish 0
  | "times" => some fun _ => do
      writeLine 1 (Bytes.ofString "0m0.00s 0m0.00s\n0m0.00s 0m0.00s")
      finish 0
  | "wait" => some fun _ => finish 0
  | _ => none

/-- The special commands. -/
def special : List String := [":", ".", "break", "continue", "eval", "exec", "exit", "export",
  "readonly", "return", "set", "shift", "trap", "unset"]

/-- Whether a name is that of a special command. -/
def isSpecial (name : Bytes) : Bool := special.contains (nameOf name)

/-- The numbers of signals by their names. -/
def signals : List (String × Nat) :=
  [("EXIT", 0), ("HUP", 1), ("INT", 2), ("QUIT", 3), ("ILL", 4), ("TRAP", 5), ("ABRT", 6),
   ("BUS", 7), ("FPE", 8), ("KILL", 9), ("USR1", 10), ("SEGV", 11), ("USR2", 12), ("PIPE", 13),
   ("ALRM", 14), ("TERM", 15), ("CHLD", 17), ("CONT", 18)]

/-- The number of a signal that is given by its name or its number. -/
def signalOf? (text : Bytes) : Option Nat :=
  match natOf? text with
  | some n => some n
  | none =>
      let name := nameOf text
      signals.lookup (if name.startsWith "SIG" then (name.drop 3).toString else name)

/-- Signals that a process ignores unless it is told otherwise. -/
def isIgnored (signal : Nat) : Bool := signal = 17 || signal = 18

/-- The signal and the processes that the arguments of `kill` name. -/
def killArgs (args : List Bytes) : Option Nat × List Bytes :=
  match args with
  | [0x2D, 0x73] :: name :: rest => (signalOf? name, rest)
  | (0x2D :: name) :: rest => (signalOf? name, rest)
  | rest => (some 15, rest)

/-- Set what is done at signals. -/
def trap (args : List Bytes) : Run Unit := do
  match args with
  | [] => finish 0
  | action :: names => do
      let numbers := names.filterMap signalOf?
      modify fun shell =>
        let others := shell.traps.filter fun (number, _) => !numbers.contains number
        let added := if action = [0x2D] then [] else numbers.map fun number => (number, action)
        { shell with traps := added ++ others }
      finish 0

end Builtin

end StagedBuild.Shell
