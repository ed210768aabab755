import StagedBuild.Machine.Loader
import StagedBuild.Machine.Shell.Pattern
import StagedBuild.Machine.Shell.Syntax

/-!
# The state of a shell

A shell has channels, numbered from 0.  A channel is written to a *stream*, which
is kept in memory, or to a file, or it is read from a *source*.  Streams and
sources are shared by all shells of a machine, and so is the disk.  Everything
else belongs to one shell.

A step of a shell may *leave* what it is part of: a loop, a function or the
shell.
-/

namespace StagedBuild.Shell

/-- Where a channel leads. -/
inductive Channel where
  /-- To the stream of a number. -/
  | stream (number : Nat)
  /-- To the end of a file. -/
  | file (loc : Location)
  /-- From the source of a number. -/
  | source (number : Nat)
deriving DecidableEq, Repr

/-- A variable. -/
structure Variable where
  /-- Its value. -/
  value : Bytes
  /-- Whether programs get it. -/
  exported : Bool := false
  /-- Whether it keeps its value. -/
  fixed : Bool := false
deriving DecidableEq, Repr

/-- A shell. -/
structure State where
  /-- The disk. -/
  disk : Disk
  /-- What each stream was given, in pieces, the latest first. -/
  streams : Array (List Bytes)
  /-- What each source still has. -/
  sources : Array Bytes
  /-- Where the channels lead. -/
  channels : List (Nat × Channel)
  /-- The variables. -/
  bindings : List (Bytes × Variable) := []
  /-- The functions. -/
  functions : List (Bytes × Command) := []
  /-- The variables that the running functions hide, innermost function first. -/
  hidden : List (List (Bytes × Option Variable)) := []
  /-- What is done at signals, by their numbers.  Signal 0 is the end. -/
  traps : List (Nat × Bytes) := []
  /-- The name of the script. -/
  name : Bytes := Bytes.ofString "sh"
  /-- The arguments. -/
  args : List Bytes := []
  /-- The status of the last command. -/
  status : Nat := 0
  /-- The status of the last command whose output was used, in this command. -/
  outputStatus : Nat := 0
  /-- The line of the command. -/
  line : Nat := 1
  /-- The number of the process. -/
  number : Nat := 1000
  /-- The numbers of the processes that wait for it. -/
  waiting : List Nat := []
  /-- Whether the command is all that the process does. -/
  alone : Bool := true
  /-- How many loops are running. -/
  loops : Nat := 0
  /-- Whether a failure ends the shell. -/
  stopAtFailure : Bool := false
  /-- Whether a variable without a value is an error. -/
  needsValues : Bool := false
  /-- Whether patterns stand for themselves. -/
  plainNames : Bool := false
  /-- Whether the status of the command is asked for. -/
  tested : Bool := false

/-- What a step leaves. -/
inductive Leave where
  /-- The shell. -/
  | exit
  /-- The process of a number, by a signal. -/
  | killed (number signal : Nat)
  /-- So many loops. -/
  | loops (count : Nat)
  /-- The round of a loop and so many loops in it. -/
  | round (count : Nat)
  /-- A function. -/
  | function
deriving DecidableEq, Repr

/-- A step of a shell. -/
abbrev Run := ExceptT Leave (StateM State)

/-! ## Status -/

/-- Set the status. -/
def finish (status : Nat) : Run Unit := modify fun shell => { shell with status := status % 256 }

/-- Set the status by a truth value. -/
def finishBy (holds : Bool) : Run Unit := finish (if holds then 0 else 1)

/-! ## Channels -/

/-- Append to the file at a location. -/
def appendTo (disk : Disk) (loc : Location) (text : Bytes) : Disk :=
  match disk.get? loc with
  | some (.file data executable) => disk.insert loc (.file (data ++ text) executable)
  | _ => disk

/-- Write to a channel.  A channel that is closed takes nothing. -/
def write (number : Nat) (text : Bytes) : Run Unit :=
  modify fun shell =>
    match shell.channels.lookup number with
    | some (.stream n) => { shell with streams := shell.streams.modify n (text :: ·) }
    | some (.file loc) => { shell with disk := appendTo shell.disk loc text }
    | _ => shell

/-- Write a line to a channel. -/
def writeLine (number : Nat) (text : Bytes) : Run Unit := write number (text ++ [Bytes.lineFeed])

/-- What can be read from a channel. -/
def State.readable (shell : State) (number : Nat) : Bytes :=
  match shell.channels.lookup number with
  | some (.source n) => shell.sources[n]?.getD []
  | _ => []

/-- Leave so much to be read from a channel. -/
def leaveReadable (number : Nat) (rest : Bytes) : Run Unit :=
  modify fun shell =>
    match shell.channels.lookup number with
    | some (.source n) => { shell with sources := shell.sources.setIfInBounds n rest }
    | _ => shell

/-- Let a channel lead elsewhere. -/
def connect (number : Nat) (channel : Channel) : Run Unit :=
  modify fun shell =>
    { shell with channels := (number, channel) :: shell.channels.filter (·.1 != number) }

/-- Close a channel. -/
def disconnect (number : Nat) : Run Unit :=
  modify fun shell => { shell with channels := shell.channels.filter (·.1 != number) }

/-- A new stream. -/
def newStream : Run Nat := do
  let shell ← get
  set { shell with streams := shell.streams.push [] }
  return shell.streams.size

/-- A new source of a text. -/
def newSource (text : Bytes) : Run Nat := do
  let shell ← get
  set { shell with sources := shell.sources.push text }
  return shell.sources.size

/-- What a stream was given. -/
def State.given (shell : State) (stream : Nat) : Bytes :=
  (shell.streams[stream]?.getD []).reverse.flatten

/-! ## Complaints -/

/-- Complain on the channel for complaints, with the script and the line. -/
def complain (text : Bytes) : Run Unit := do
  let shell ← get
  let place := shell.name ++ Bytes.ofString ": " ++ natText shell.line ++ Bytes.ofString ": "
  writeLine 2 (place ++ text)

/-- Complain and leave the shell. -/
def abort {α : Type} (text : Bytes) : Run α := do
  complain text
  finish 2
  throw .exit

/-! ## Variables -/

/-- The value of a variable. -/
def State.value? (shell : State) (name : Bytes) : Option Bytes :=
  (shell.bindings.lookup name).map (·.value)

/-- Put a variable in place of what the name stands for. -/
def State.put (shell : State) (name : Bytes) (new? : Option Variable) : State :=
  let others := shell.bindings.filter (·.1 != name)
  { shell with bindings := match new? with
    | some new => (name, new) :: others
    | none => others }

/-- Give a variable a value. -/
def assign (name value : Bytes) : Run Unit := do
  let old := ((← get).bindings.lookup name).getD ⟨[], false, false⟩
  if old.fixed then abort (name ++ Bytes.ofString ": is read only")
  else modify (·.put name (some { old with value := value }))

/-- Change how a variable is treated. -/
def mark (name : Bytes) (change : Variable → Variable) : Run Unit := do
  let old := ((← get).bindings.lookup name).getD ⟨[], false, false⟩
  modify (·.put name (some (change old)))

/-- The variables that programs get. -/
def State.exports (shell : State) : List (Bytes × Variable) :=
  shell.bindings.filter (·.2.exported)

/-- The flags as `$-` shows them. -/
def State.flags (shell : State) : Bytes :=
  (if shell.stopAtFailure then [0x65] else []) ++ (if shell.plainNames then [0x66] else []) ++
    (if shell.needsValues then [0x75] else [])

/-- What separates fields. -/
def State.separators (shell : State) : Bytes :=
  (shell.value? (Bytes.ofString "IFS")).getD [0x20, 0x09, 0x0A]

/-- The value of a parameter that is no list. -/
def State.parameter? (shell : State) (name : Bytes) : Option Bytes :=
  match name with
  | [0x3F] => some (natText shell.status)
  | [0x24] => some (natText shell.number)
  | [0x23] => some (natText shell.args.length)
  | [0x2D] => some shell.flags
  | [0x21] => some []
  | name =>
      match natOf? name with
      | some 0 => some shell.name
      | some (n + 1) => shell.args[n]?
      | none => shell.value? name

/-! ## Parts of a shell's work -/

/-- Do something in a copy of the shell.  Only what all shells share is kept, and
the status.  A signal that the copy sends to the shell reaches the shell. -/
def isolated (steps : Run Unit) : Run Unit := fun shell =>
  let (result, inner) := steps { shell with traps := [] }
  let shell := { shell with
    disk := { inner.disk with home := shell.disk.home }
    streams := inner.streams
    sources := inner.sources
    status := inner.status }
  match result with
  | .error (.killed number signal) => (.error (.killed number signal), shell)
  | _ => (.ok (), shell)

/-- Do something with its status asked for. -/
def whileTested (steps : Run Unit) : Run Unit := fun shell =>
  let (result, inner) := steps { shell with tested := true }
  (result, { inner with tested := shell.tested })

/-- Do something and let the channels lead where they led before, however it
ends. -/
def keepingChannels (steps : Run Unit) : Run Unit := fun shell =>
  let (result, inner) := steps shell
  (result, { inner with channels := shell.channels })

/-- Do something in a loop, and say whether the loop goes on. -/
def inLoop (steps : Run Unit) : Run Bool := fun shell =>
  let (result, inner) := steps { shell with loops := shell.loops + 1 }
  let inner := { inner with loops := shell.loops }
  match result with
  | .ok () => (.ok true, inner)
  | .error (.loops (count + 2)) => (.error (.loops (count + 1)), inner)
  | .error (.loops _) => (.ok false, inner)
  | .error (.round (count + 1)) => (.error (.round count), inner)
  | .error (.round 0) => (.ok true, inner)
  | .error leave => (.error leave, inner)

/-- Do something with other arguments, as a function does.  Variables that it
hides are shown again. -/
def inFunction (args : List Bytes) (steps : Run Unit) : Run Unit := fun shell =>
  let (result, inner) := steps { shell with args := args, hidden := [] :: shell.hidden }
  let showAgain (shell : State) (entry : Bytes × Option Variable) : State :=
    shell.put entry.1 entry.2
  let inner := (inner.hidden.head?.getD []).foldl showAgain
    { inner with args := shell.args, hidden := shell.hidden }
  match result with
  | .error .function => (.ok (), inner)
  | result => (result, inner)

/-- Do something with variables that are given back their values. -/
def withVariables (values : List (Bytes × Bytes)) (steps : Run Unit) : Run Unit := fun shell =>
  let give (shell : State) (entry : Bytes × Bytes) : State :=
    shell.put entry.1 (some ⟨entry.2, true, false⟩)
  let takeBack (inner : State) (entry : Bytes × Bytes) : State :=
    inner.put entry.1 (shell.bindings.lookup entry.1)
  let (result, inner) := steps (values.foldl give shell)
  (result, values.foldl takeBack inner)

/-- The search path of a shell whose environment has none. -/
def ownSearchPath : Bytes :=
  Bytes.ofString "/usr/local/sbin:/usr/local/bin:/usr/sbin:/usr/bin:/sbin:/bin"

/-- The variables of a new shell with the ones that it is given. -/
def startVariables (given : List (Bytes × Variable)) (home : Location) :
    List (Bytes × Variable) :=
  given.filter (·.1 != Bytes.ofString "PWD") ++
    [(Bytes.ofString "PWD", ⟨Disk.pathOf home, true, false⟩),
     (Bytes.ofString "PATH", ⟨ownSearchPath, false, false⟩)]

/-- What is said of a process that a signal ended. -/
def signalText (signal : Nat) : Option String :=
  match signal with
  | 1 => some "Hangup"
  | 3 => some "Quit"
  | 6 => some "Aborted"
  | 9 => some "Killed"
  | 11 => some "Segmentation fault"
  | 14 => some "Alarm clock"
  | 15 => some "Terminated"
  | _ => none

/-- Do something as a process of its own, which gets the exported variables.  Its
status is that of the command. -/
def asProcess (steps : Run Unit) : Run Unit := fun shell =>
  let child : State :=
    { disk := shell.disk
      streams := shell.streams
      sources := shell.sources
      channels := shell.channels
      bindings := startVariables shell.exports shell.disk.home
      number := shell.number + 1
      waiting := shell.number :: shell.waiting }
  let (result, inner) := steps child
  let shell := { shell with
    disk := { inner.disk with home := shell.disk.home }
    streams := inner.streams
    sources := inner.sources
    status := inner.status }
  match result with
  | .error (.killed number signal) =>
      if number = child.number then
        let text := if shell.alone then none else signalText signal
        let report : Run Unit := (text.map Bytes.ofString).forM (writeLine 2)
        report { shell with status := 128 + signal }
      else (.error (.killed number signal), shell)
  | _ => (.ok (), shell)

/-- Leave the shell if the last command failed and that matters. -/
def checkFailure : Run Unit := do
  let shell ← get
  if shell.stopAtFailure && !shell.tested && shell.status ≠ 0 then throw .exit

end StagedBuild.Shell
