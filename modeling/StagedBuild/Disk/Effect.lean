import StagedBuild.Disk.Operations

/-!
# Changes from outside

An effect is a change that a tool or a user makes to the working directory.  It
makes the directories it needs.  What cannot be done is left undone.
-/

namespace StagedBuild

/-- A change of the working directory. -/
inductive Effect where
  /-- Write a file with a permission. -/
  | write (path : Path) (data : Bytes) (executable : Bool)
  /-- Make a directory and those above it. -/
  | makeFolder (path : Path)
  /-- Make a link. -/
  | link (path target : Path)
  /-- Remove an entry and all below it. -/
  | remove (path : Path)
deriving DecidableEq, Repr

namespace Effect

/-- Make the directories above a path. -/
def makeAbove (p : Path) : DiskM Unit :=
  match p.parent? with
  | some above => Disk.makeFolders above
  | none => pure ()

/-- The operation of an effect. -/
def operation : Effect → DiskM Unit
  | .write path data executable => do
      makeAbove path
      Disk.writeFile path data executable
  | .makeFolder path => Disk.makeFolders path
  | .link path target => do
      makeAbove path
      Disk.makeLink path target
  | .remove path => Disk.removeAll path

/-- The disk after an effect. -/
def apply (disk : Disk) (effect : Effect) : Disk := (effect.operation disk).2

/-- The disk after some effects, one after the other. -/
def applyAll (disk : Disk) (effects : List Effect) : Disk := effects.foldl apply disk

end Effect

end StagedBuild
