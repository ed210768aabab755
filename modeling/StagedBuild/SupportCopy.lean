import StagedBuild.Observer

/-!
# The copied support file

The model checker needs its support file in the output directory, and only while
it runs.  `SupportCopy.make` copies the file there.  The copy is *armed* from
then on: its path is to be unlinked once.  `remove` disarms the copy, unlinks
the path and reports a failure.  `drop` is for all other ways to be done with a
copy.  It unlinks the path of an armed copy, silently, and does nothing for a
disarmed one.

A failed copy names the source and a failed removal the copy.
-/

namespace StagedBuild

/-- A support file that was copied to a path. -/
structure SupportCopy where
  /-- Where the copy is. -/
  path : Path
  /-- Whether the path is still to be unlinked. -/
  armed : Bool
deriving DecidableEq, Repr

namespace SupportCopy

variable {σ ε : Type}

/-- Copy a support file. -/
def make (source destination : Path) : Build σ ε SupportCopy := do
  Build.onFile source (Disk.copyFile source destination)
  pure ⟨destination, true⟩

/-- Unlink the path of a copy. -/
def unlinkPath (observer : Observer ε) (path : Path) : Build σ ε (Except IoError Unit) := do
  Build.note (observer.unlinking path)
  Build.onDisk (Disk.unlink path)

/-- Be done with a copy. -/
def drop (observer : Observer ε) (copy : SupportCopy) : Build σ ε Unit := do
  if copy.armed then
    let _ ← unlinkPath observer copy.path
    pure ()

/-- Remove a copy and report a failure.  The disarmed copy is dropped
afterwards. -/
def remove (observer : Observer ε) (copy : SupportCopy) :
    Build σ ε (Except BuildError Unit) := do
  let disarmed := { copy with armed := false }
  let outcome ← unlinkPath observer disarmed.path
  drop observer disarmed
  pure (outcome.mapError (BuildError.file disarmed.path))

end SupportCopy

end StagedBuild
