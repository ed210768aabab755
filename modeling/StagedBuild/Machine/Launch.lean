import StagedBuild.Machine.Shell.Evaluation
import StagedBuild.Machine.Start

/-!
# Running tools

A program that was started is run by the shell: it is a script, the shell itself or
one of the small programs.  `Machine.runToEnd` is the execution that does so, and
`Machine.toolbox` answers every call with it.
-/

namespace StagedBuild

namespace Machine

/-- The shell state that a tool is run from. -/
def stateFor (env : Environment) (disk : Disk) : Shell.State :=
  { disk := disk
    streams := #[[], []]
    sources := #[[]]
    channels := [(0, .source 0), (1, .stream 0), (2, .stream 1)]
    bindings := env.map fun (name, value) => (Bytes.ofString name, ⟨value, true, false⟩) }

/-- Run a program to its end. -/
def runToEnd : Execution := fun env disk loaded =>
  let (result, after) := Shell.runLoaded Shell.processFuel loaded (stateFor env disk)
  { succeeded := result.isOk && after.status == 0
    printed := after.given 0
    complaints := after.given 1
    disk := after.disk }

/-- The output of a call and the disk after it. -/
def answer (env : Environment) (call : Invocation) (disk : Disk) : ToolOutput × Disk :=
  answerBy runToEnd env call disk

/-- The tools that are programs on the disk. -/
def toolbox (env : Environment) : Toolbox Unit := toolboxBy runToEnd env

end Machine

end StagedBuild
