import StagedBuild.CommandLine.Arguments
import StagedBuild.CommandLine.Terminal
import StagedBuild.Environment
import StagedBuild.Pipeline

/-!
# A run of the command

A session reads the arguments and does what they ask for.  A build is checked in
this order: the request, the input, the tools.  Nothing is printed as a result
and no tool is called before all three are fine.

The exit status says how it went: 0 for a build that succeeded, 2 for one that
was refused, and 255 for one that failed.  A tool that is thrown out of its call ends
the command as any program that is thrown out, with 101.
-/

namespace StagedBuild

namespace Session

variable {σ : Type}

/-- What surrounds the command. -/
structure Setting (σ : Type) where
  /-- The variables. -/
  env : Environment
  /-- The path of the command itself. -/
  program : Option Path
  /-- What answers the calls of tools. -/
  tools : Toolbox σ
  /-- How long the build takes. -/
  elapsed : String
  /-- How the native build tool is looked up. -/
  which : Which := .inPath

/-- The error of an input that is not there. -/
def inputMissing (input : Path) (disk : Disk) : BuildError :=
  .invalidRequest ("input not found: " ++ Path.display input ++ " (current directory: " ++
    Path.display (Disk.pathOf disk.home) ++ ")")

/-- Check that the input is there. -/
def checkInput (input : Path) : Build σ Bytes Unit := do
  let disk ← Build.theDisk
  if disk.isThere input then pure () else Build.fail (inputMissing input disk)

/-- Find the tools. -/
def findTools (setting : Setting σ) (root : Option Path) : Build σ Bytes Toolchain := do
  Build.ofResult
    (Toolchain.discoverBy setting.which root setting.env (← Build.theDisk) setting.program)

/-- The build that some arguments ask for.  Its log is what is printed. -/
def build (setting : Setting σ) (arguments : Arguments) : Build σ Bytes Unit := do
  let request ← Build.ofResult (Request.make arguments.input arguments.output arguments.choice)
  checkInput arguments.input
  let toolchain ← findTools setting arguments.root
  Build.note [Terminal.header arguments.input]
  let pipeline : Pipeline σ Bytes :=
    { toolchain := toolchain, tools := setting.tools, observer := Terminal.observer }
  let report ← pipeline.run request
  Build.note [Terminal.summary request report setting.elapsed]

/-- How a build of the command ends. -/
structure Outcome (σ : Type) where
  /-- The exit status. -/
  status : Nat
  /-- What is printed as the result. -/
  printed : Bytes
  /-- What is printed as complaints. -/
  complaints : Bytes
  /-- The state of the tools. -/
  tools : σ
  /-- The disk. -/
  disk : Disk

/-- The exit status for the result of a build. -/
def statusOf : Except Stop Unit → Nat
  | .ok () => 0
  | .error (.failed error) => error.exitStatus
  | .error .thrown => 101

/-- The complaints about the result of a build. -/
def complaintsOf : Except Stop Unit → Bytes
  | .error (.failed error) => Terminal.complaint error
  | _ => []

/-- Run the build that some arguments ask for. -/
def run (setting : Setting σ) (arguments : Arguments) (tools : σ) (disk : Disk) : Outcome σ :=
  let ended := (build setting arguments).run tools disk
  { status := statusOf ended.result
    printed := ended.log.flatten
    complaints := complaintsOf ended.result
    tools := ended.tools
    disk := ended.disk }

end Session

end StagedBuild
