import StagedBuild.Machine.Shell.Builtins
import StagedBuild.Machine.Shell.Fields

/-!
# Steps that run no commands

The steps of a shell between its commands: it opens channels, takes the values of
parameters and expressions, runs a small program, and says how commands are
found.
-/

namespace StagedBuild.Shell

/-- Use up the fuel: end the process. -/
def useUp {α : Type} : Run α := do throw (.killed (← get).number 24)

/-! ## Channels -/

/-- The channel that a path stands for. -/
def channelOf? (path : Path) : Option Nat :=
  match Builtin.nameOf path with
  | "/dev/stdin" => some 0
  | "/dev/stdout" => some 1
  | "/dev/stderr" => some 2
  | _ => none

/-- Let a channel lead where another one leads.  `-` closes it. -/
def copyChannel (number : Nat) (target : Bytes) : Run Bool := do
  match natOf? target with
  | some other =>
      match (← get).channels.lookup other with
      | some channel => do
          connect number channel
          return true
      | none => do
          complain (natText other ++ Bytes.ofString ": Bad file descriptor")
          finish 2
          return false
  | none => do
      if target = [0x2D] then disconnect number
      return true

/-- What a file that cannot be opened is said to be. -/
def openComplaint (making : Bool) (path : Path) (cause : IoError) : Bytes :=
  let missing := cause == .notFound || cause == .notADirectory
  let reason := if missing then (if making then "Directory nonexistent" else "No such file")
    else cause.text
  Bytes.ofString (if making then "cannot create " else "cannot open ") ++ path ++
    Bytes.ofString (": " ++ reason)

/-- Let a channel lead to a file that is opened for writing. -/
def openOutput (number : Nat) (path : Path) (opening : DiskM Location) : Run Bool := do
  match channelOf? path with
  | some other => copyChannel number (natText other)
  | none => do
      let shell ← get
      let (outcome, disk) := opening shell.disk
      set { shell with disk := disk }
      match outcome with
      | .ok loc => do
          connect number (.file loc)
          return true
      | .error cause => do
          complain (openComplaint true path cause)
          finish 2
          return false

/-- Let a channel read from a text. -/
def openText (number : Nat) (text : Bytes) : Run Bool := do
  connect number (.source (← newSource text))
  return true

/-- Redirect a channel.  What fails is complained about. -/
def openChannel (number : Nat) (direction : Direction) (target : Bytes) : Run Bool := do
  match direction with
  | .copy => copyChannel number target
  | .document => openText number target
  | .output => openOutput number target (Disk.openEmptied target false)
  | .append => openOutput number target (Disk.openKept target false)
  | .input =>
      match channelOf? target with
      | some other => copyChannel number (natText other)
      | none =>
          match (Disk.readFile target (← get).disk).1 with
          | .ok text => openText number text
          | .error cause => do
              complain (openComplaint false target cause)
              finish 2
              return false

/-! ## Values -/

/-- The value of a parameter, joined if it is a list. -/
def parameterText? (shell : State) (name : Bytes) : Option Bytes :=
  match name with
  | [0x40] => if shell.args.isEmpty then none else some (joinPieces 0x20 shell.args)
  | [0x2A] => if shell.args.isEmpty then none else some (joinPieces 0x20 shell.args)
  | name => shell.parameter? name

/-- The grains of the arguments. -/
def argumentGrains (quoted joined : Bool) : Run (List Grain) := do
  let shell ← get
  if quoted && joined then
    match shell.separators with
    | separator :: _ => return .here :: grainsOf true true (joinPieces separator shell.args)
    | [] => return .here :: grainsOf true true shell.args.flatten
  else
    match shell.args with
    | [] => return if quoted then [.gone] else []
    | first :: rest =>
        let mark : List Grain := if quoted then [.here] else []
        return mark ++ grainsOf quoted true first ++
          rest.flatMap fun arg => .cut :: mark ++ grainsOf quoted true arg

/-- The grains of a value that is there, or an error where values are needed. -/
def valueGrains (quoted : Bool) (name : Bytes) (value? : Option Bytes) : Run (List Grain) := do
  let shell ← get
  match value? with
  | some value => return grainsOf quoted true value
  | none =>
      if shell.needsValues && name ≠ [0x40] && name ≠ [0x2A] then
        abort (name ++ Bytes.ofString ": parameter not set")
      else return []

/-- Mark the grains of a word that stands for a missing value. -/
def asValue (grains : List Grain) : List Grain :=
  grains.map fun
    | .byte b quoted _ => .byte b quoted true
    | grain => grain

/-- The number in a variable.  An empty one counts as zero. -/
def numberIn? (value : Bytes) : Option Int :=
  if value.isEmpty then some 0
  else match Printing.argNumber value with
    | (n, none) => some n
    | (_, some _) => none

/-- The value of an expression.  What it assigns is assigned. -/
def arithmetic (text : Bytes) : Run Bytes := do
  let shell ← get
  let values : Arithmetic.Values := shell.bindings.filterMap fun (name, held) =>
    (numberIn? held.value).map fun n => (Bytes.toCodes name, n)
  let misread? := shell.bindings.find? fun (name, held) =>
    (numberIn? held.value).isNone && Arithmetic.uses text.toCodes (Bytes.toCodes name)
  if let some (_, held) := misread? then
    abort (Bytes.ofString "Illegal number: " ++ held.value)
  match Arithmetic.evaluate values text.toCodes with
  | .ok (n, after) => do
      let assigned := after.take (after.length - values.length)
      assigned.reverse.forM fun (name, n) => assign (Bytes.ofCodes name) (intText n)
      return intText n
  | .error fault =>
      abort (Bytes.ofString ("arithmetic expression: " ++ fault.text ++ ": \"") ++ text ++ [0x22])

/-- Take the line ends at the end away, and zero bytes. -/
def withoutLineEnds (text : Bytes) : Bytes :=
  ((text.filter (· != 0)).reverse.dropWhile (· == Bytes.lineFeed)).reverse

/-! ## Programs -/

/-- Run a small program. -/
def runUtility (utility : Machine.Utility) (args : List Bytes) : Run Unit := do
  let shell ← get
  let job : Machine.Job :=
    { name := args.head?.getD [], input := shell.readable 0, disk := shell.disk }
  let ((), job) := utility (args.drop 1) job
  set { shell with disk := job.disk }
  leaveReadable 0 job.input
  job.printed.reverse.forM fun
    | (.result, text) => write 1 text
    | (.complaint, text) => write 2 text
  finish job.status

/-- Say why a program does not run. -/
def complainOfProgram (place : String) (name : Bytes) (cause : IoError) : Run Unit := do
  match cause with
  | .notFound | .notADirectory => do
      complain (Bytes.ofString place ++ name ++ Bytes.ofString ": not found")
      finish 127
  | cause => do
      complain (Bytes.ofString place ++ name ++ Bytes.ofString (": " ++ cause.text))
      finish 126

/-- The path of a program in the search path. -/
def State.programPath? (shell : State) (name : Bytes) : Option Path :=
  if name.contains Bytes.slash then (if shell.disk.isProgram name then some name else none)
  else
    let searchPath := (shell.value? (Bytes.ofString "PATH")).getD []
    ((piecesAt 0x3A searchPath).map (Machine.Loader.placed · name)).find? shell.disk.isProgram

/-- The commands of the shell that run other commands. -/
def runners : List String := [".", "command", "eval", "exec", "kill", "trap", "type"]

/-- Whether a name is that of a command of the shell. -/
def isOwn (name : Bytes) : Bool :=
  (Builtin.ofName? name).isSome || runners.contains (Builtin.nameOf name)

/-- Whether there is one simple command. -/
def isOne : List Command → Bool
  | [.simple ..] => true
  | _ => false

/-- Print how a command is found. -/
def locate (name : Bytes) : Run Unit := do
  let shell ← get
  if (shell.functions.lookup name).isSome || isOwn name then
    Builtin.printing "command" (name ++ [Bytes.lineFeed])
  else
    match shell.programPath? name with
    | some path => Builtin.printing "command" (path ++ [Bytes.lineFeed])
    | none => finish 127

/-- Print what commands are. -/
def describe (names : List Bytes) : Run Unit := do
  finish 0
  names.forM fun name => do
    let shell ← get
    let say (text : String) : Run Unit := writeLine 1 (name ++ Bytes.ofString text)
    if (shell.functions.lookup name).isSome then say " is a shell function"
    else if Builtin.isSpecial name then say " is a special shell builtin"
    else if isOwn name then say " is a shell builtin"
    else
      match shell.programPath? name with
      | some path => writeLine 1 (name ++ Bytes.ofString " is " ++ path)
      | none => do
          say ": not found"
          finish 127

end StagedBuild.Shell
