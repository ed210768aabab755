import StagedBuild.Disk.Operations
import StagedBuild.BuildError

/-!
# Steps of a build

A step runs on a disk and on the state `σ` of the tools.  It changes both, adds
entries of a type `ε` to a log and gives a result.  A step may *stop*: with an
error, or because a tool was thrown out of its call.  Steps after a stop do not
run, and what was done before it stays.

The log is a result and not a state, so no step reads it.
-/

namespace StagedBuild

/-- Why a step stops. -/
inductive Stop where
  /-- With an error. -/
  | failed (error : BuildError)
  /-- A tool was thrown out of its call. -/
  | thrown
deriving DecidableEq, Repr

/-- How a step ends. -/
structure Ended (σ ε α : Type) where
  /-- What it logged, oldest first. -/
  log : List ε
  /-- Its result. -/
  result : Except Stop α
  /-- The state of the tools after it. -/
  tools : σ
  /-- The disk after it. -/
  disk : Disk

/-- A step of a build. -/
def Build (σ ε α : Type) : Type := σ → Disk → Ended σ ε α

namespace Build

variable {σ ε α β : Type}

/-- Run a step. -/
def run (step : Build σ ε α) (tools : σ) (disk : Disk) : Ended σ ε α := step tools disk

/-- The step that does nothing. -/
protected def pure (a : α) : Build σ ε α := fun tools disk => ⟨[], .ok a, tools, disk⟩

/-- One step after the other. -/
protected def bind (step : Build σ ε α) (next : α → Build σ ε β) : Build σ ε β :=
  fun tools disk =>
    let before := step tools disk
    match before.result with
    | .error stop => ⟨before.log, .error stop, before.tools, before.disk⟩
    | .ok a =>
        let after := next a before.tools before.disk
        ⟨before.log ++ after.log, after.result, after.tools, after.disk⟩

instance : Monad (Build σ ε) where
  pure := Build.pure
  bind := Build.bind

/-- Add entries to the log. -/
def note (entries : List ε) : Build σ ε Unit := fun tools disk => ⟨entries, .ok (), tools, disk⟩

/-- Stop. -/
def stop (why : Stop) : Build σ ε α := fun tools disk => ⟨[], .error why, tools, disk⟩

/-- Stop with an error. -/
def fail (error : BuildError) : Build σ ε α := stop (.failed error)

/-- Go on with the value of a result or stop with its error. -/
def ofResult : Except BuildError α → Build σ ε α
  | .ok a => pure a
  | .error e => fail e

/-- The result of a step, stopped or not. -/
def attempt (step : Build σ ε α) : Build σ ε (Except Stop α) := fun tools disk =>
  let ended := step tools disk
  ⟨ended.log, .ok ended.result, ended.tools, ended.disk⟩

/-- The disk as it is. -/
def theDisk : Build σ ε Disk := fun tools disk => ⟨[], .ok disk, tools, disk⟩

/-- The outcome of an operation on the disk. -/
def onDisk (operation : DiskM α) : Build σ ε (Except IoError α) := fun tools disk =>
  let (result, disk) := operation disk
  ⟨[], .ok result, tools, disk⟩

/-- An operation on the disk.  Its failure names the path. -/
def onFile (path : Path) (operation : DiskM α) : Build σ ε α := do
  match ← onDisk operation with
  | .ok a => pure a
  | .error cause => fail (.file path cause)

/-! ## What runs do -/

@[simp] theorem run_pure (a : α) (tools : σ) (disk : Disk) :
    (pure a : Build σ ε α).run tools disk = ⟨[], .ok a, tools, disk⟩ := rfl

theorem run_bind (step : Build σ ε α) (next : α → Build σ ε β) (tools : σ) (disk : Disk) :
    (step >>= next).run tools disk =
      match (step.run tools disk).result with
      | .error why =>
          ⟨(step.run tools disk).log, .error why, (step.run tools disk).tools,
            (step.run tools disk).disk⟩
      | .ok a =>
          let after := (next a).run (step.run tools disk).tools (step.run tools disk).disk
          ⟨(step.run tools disk).log ++ after.log, after.result, after.tools, after.disk⟩ := rfl

@[simp] theorem run_note (entries : List ε) (tools : σ) (disk : Disk) :
    (note entries : Build σ ε Unit).run tools disk = ⟨entries, .ok (), tools, disk⟩ := rfl

@[simp] theorem run_stop (why : Stop) (tools : σ) (disk : Disk) :
    (stop why : Build σ ε α).run tools disk = ⟨[], .error why, tools, disk⟩ := rfl

@[simp] theorem run_attempt (step : Build σ ε α) (tools : σ) (disk : Disk) :
    (attempt step).run tools disk =
      ⟨(step.run tools disk).log, .ok (step.run tools disk).result, (step.run tools disk).tools,
        (step.run tools disk).disk⟩ := rfl

@[simp] theorem run_theDisk (tools : σ) (disk : Disk) :
    (theDisk : Build σ ε Disk).run tools disk = ⟨[], .ok disk, tools, disk⟩ := rfl

@[simp] theorem run_onDisk (operation : DiskM α) (tools : σ) (disk : Disk) :
    (onDisk operation : Build σ ε _).run tools disk =
      ⟨[], .ok (operation disk).1, tools, (operation disk).2⟩ := rfl

end Build

end StagedBuild
