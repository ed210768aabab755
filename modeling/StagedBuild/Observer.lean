import StagedBuild.Build
import StagedBuild.Invocation
import StagedBuild.ToolOutput

/-!
# Watching a build

An observer says what a build adds to its log at each event.  Observers have no
other means, so what a build does is the same whoever watches.

`Observer.full` logs every event and every call of a tool as an `Event`.
`Observer.brief` leaves out the events that are optional to hear, and
`Observer.deaf` hears calls only.
-/

namespace StagedBuild

/-- How the call of a tool ends. -/
inductive Reply where
  /-- The tool ended, with what it printed. -/
  | ended (output : ToolOutput)
  /-- The tool was thrown out of its call. -/
  | thrown
deriving DecidableEq, Repr

/-- What a build logs at its events. -/
structure Observer (ε : Type) where
  /-- A stage starts. -/
  started : Stage → List ε
  /-- A stage is complete. -/
  completed : Stage → List ε
  /-- The main machine is known. -/
  foundMain : String → List ε := fun _ => []
  /-- A stage failed. -/
  failed : Stage → BuildError → List ε := fun _ _ => []
  /-- A tool was called, on this disk, and ended so. -/
  called : Invocation → Disk → Reply → List ε := fun _ _ _ => []
  /-- A support file is about to be unlinked. -/
  unlinking : Path → List ε := fun _ => []

/-- An event of a build or a call of a tool. -/
inductive Event where
  /-- A stage starts. -/
  | started (stage : Stage)
  /-- A stage is complete. -/
  | completed (stage : Stage)
  /-- The main machine is known. -/
  | foundMain (name : String)
  /-- A stage failed. -/
  | failed (stage : Stage) (error : BuildError)
  /-- A tool was called, on this disk, and ended so. -/
  | called (call : Invocation) (disk : Disk) (reply : Reply)
deriving DecidableEq, Repr

namespace Observer

/-- Hears everything. -/
def full : Observer Event where
  started stage := [.started stage]
  completed stage := [.completed stage]
  foundMain name := [.foundMain name]
  failed stage error := [.failed stage error]
  called call disk reply := [.called call disk reply]

/-- Hears stages start and complete, and calls. -/
def brief : Observer Event where
  started stage := [.started stage]
  completed stage := [.completed stage]
  called call disk reply := [.called call disk reply]

/-- Hears calls. -/
def deaf : Observer Event where
  started _ := []
  completed _ := []
  called call disk reply := [.called call disk reply]

end Observer

end StagedBuild
