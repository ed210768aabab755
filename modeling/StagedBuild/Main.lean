import StagedBuild.CommandLine.Session
import StagedBuild.Disk.Effect
import StagedBuild.Machine.Launch

/-!
# The command

The outer layer.  It reads the files that a build may use onto a disk, runs the
session there, prints what the session prints and writes back what was changed.
Nothing is decided here.
-/

namespace StagedBuild

namespace Command

/-- The variables that the command looks at. -/
def variableNames : List String := ["PATH", Toolchain.rootVariable, Toolchain.nativeBuildVariable]

/-- The files of the tools below a root. -/
def toolFiles (root : Path) : List Path :=
  let toolchain := Toolchain.ofRoot root
  [toolchain.domainCompiler, toolchain.modelChecker, toolchain.projectGenerator,
    toolchain.supportFile]

/-- The files that a build may use. -/
def filesFor (env : Environment) (program : Path) (arguments : Arguments) : List Path :=
  let around := ((Path.parent? program).bind Path.parent?).toList
  let roots := arguments.root.toList ++ (env.get? Toolchain.rootVariable).toList ++ around
  let folders := piecesAt 0x3A ((env.get? "PATH").getD [])
  arguments.input :: roots.flatMap toolFiles ++
    (env.get? Toolchain.nativeBuildVariable).toList ++
    folders.map fun folder => Path.join folder Toolchain.nativeBuildName

/-- Print bytes. -/
def print (stream : IO.FS.Stream) (bytes : Bytes) : IO Unit := do
  stream.write ⟨bytes.toArray⟩
  stream.flush

/-- Read a file onto a disk.  A file that cannot be read is left out. -/
def readOnto (disk : Disk) (path : Path) : IO Disk := do
  try
    let data ← IO.FS.readBinFile (Path.display path)
    return (Effect.write path data.toList true).apply disk
  catch _ => return disk

/-- Write the entries of a disk that are new or changed, and remove those that are
gone. -/
def writeBack (before after : Disk) : IO Unit := do
  for (loc, node) in after.entries.reverse do
    if before.get? loc != some node then
      let path := Path.display (Disk.pathOf loc)
      match node with
      | .folder => IO.FS.createDirAll path
      | .file data _ => IO.FS.writeBinFile path ⟨data.toArray⟩
      | _ => pure ()
  for (loc, _) in before.entries do
    if (after.get? loc).isNone then
      try IO.FS.removeFile (Path.display (Disk.pathOf loc)) catch _ => pure ()

/-- A time in milliseconds as text: seconds with two places. -/
def elapsedText (milliseconds : Nat) : String :=
  let hundredths := (milliseconds + 5) / 10
  let places := hundredths % 100
  toString (hundredths / 100) ++ "." ++ (if places < 10 then "0" else "") ++ toString places ++ "s"

/-- Run the build that some arguments ask for. -/
def build (arguments : Arguments) : IO UInt32 := do
  let started ← IO.monoMsNow
  let mut env : Environment := []
  for name in variableNames do
    if let some value ← IO.getEnv name then env := (name, Bytes.ofString value) :: env
  let program := Bytes.ofString (← IO.appPath).toString
  let home := Disk.namesOf (Bytes.ofString (← IO.currentDir).toString)
  let mut disk := Machine.disk home
  for path in filesFor env program arguments do disk ← readOnto disk path
  let setting : Session.Setting Unit :=
    { env := env, program := some program, tools := Machine.toolbox env, elapsed := "" }
  let first := Session.run setting arguments () disk
  writeBack disk first.disk
  let elapsed := elapsedText ((← IO.monoMsNow) - started)
  let outcome := Session.run { setting with elapsed := elapsed } arguments () disk
  print (← IO.getStdout) outcome.printed
  print (← IO.getStderr) outcome.complaints
  return UInt32.ofNat outcome.status

end Command

end StagedBuild

open StagedBuild in
/-- Do what the arguments ask for. -/
def main (args : List String) : IO UInt32 := do
  match Arguments.read (args.map Bytes.ofString) with
  | .build arguments => Command.build arguments
  | .help => do
      Command.print (← IO.getStdout) Terminal.helpText
      return 0
  | .version => do
      Command.print (← IO.getStdout) Terminal.versionLine
      return 0
  | .misused => do
      Command.print (← IO.getStderr) Terminal.misuseText
      return 2
