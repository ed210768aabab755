import StagedBuild.Disk.Effect
import StagedBuild.SupportCopy

/-!
# Support files under names

A register holds support copies under names and is changed by *steps*.  A step
makes a copy, removes one or drops one, or the disk is changed from outside.  A
new copy under a taken name is made first, and then the old one is dropped.  A
copy that is not made leaves the register as it is.  `close` drops what is left,
ordered by name.

Many copies can be at one path, so copies are numbered in the order in which they
are made.  The log says what is done to the disk, and which copy does it.
-/

namespace StagedBuild

namespace Register

/-- A step on a register. -/
inductive Step where
  /-- Make a copy under a name. -/
  | make (name : String) (source destination : Path)
  /-- Remove the copy of a name. -/
  | remove (name : String)
  /-- Drop the copy of a name. -/
  | drop (name : String)
  /-- The disk is changed from outside. -/
  | outside (change : Disk → Disk)

/-- A change from outside by an effect. -/
def Step.change (effect : Effect) : Step := .outside (Effect.apply · effect)

/-- What a step answers. -/
inductive Answer where
  /-- A copy was made at a path. -/
  | made (path : Path)
  /-- A copy was removed. -/
  | removed
  /-- The step failed. -/
  | failed (error : BuildError)
  /-- There is nothing to say. -/
  | nothing
deriving DecidableEq, Repr

/-- How a copy is given up. -/
inductive Release where
  /-- It is removed, and a failure is reported. -/
  | removal
  /-- It is dropped. -/
  | drop
deriving DecidableEq, Repr

/-- What is done to the disk. -/
inductive Entry where
  /-- A copy is made. -/
  | copied (number : Nat) (source destination : Path)
  /-- A copy unlinks a path, or tries to. -/
  | unlinked (number : Nat) (how : Release) (path : Path)
  /-- The disk is changed from outside. -/
  | changed (change : Disk → Disk)

/-- A copy that is held. -/
structure Held where
  /-- The name that it has. -/
  name : String
  /-- Its number. -/
  number : Nat
  /-- The copy. -/
  copy : SupportCopy
deriving DecidableEq, Repr

end Register

/-- The copies that are still held, and how many were made. -/
structure Register where
  /-- The copies that are held, latest first. -/
  held : List Register.Held
  /-- The number of the next copy. -/
  made : Nat
deriving DecidableEq, Repr

namespace Register

/-- The register before any step. -/
def empty : Register := ⟨[], 0⟩

/-- Logs the unlinks of a copy. -/
def watcher (number : Nat) (how : Release) : Observer Entry where
  started _ := []
  completed _ := []
  unlinking path := [.unlinked number how path]

/-- The copy that a name has. -/
def heldAs? (register : Register) (name : String) : Option Held :=
  register.held.find? (·.name == name)

/-- A register without the copy of a name. -/
def without (register : Register) (name : String) : Register :=
  { register with held := register.held.filter (·.name != name) }

/-- A register with a new copy under a name. -/
def hold (register : Register) (name : String) (copy : SupportCopy) : Register :=
  ⟨⟨name, register.made, copy⟩ :: (register.without name).held, register.made + 1⟩

/-- Drop a copy. -/
def Held.drop (held : Held) : Build Unit Entry Unit := held.copy.drop (watcher held.number .drop)

/-- Drop the copy that a name has, if it has one. -/
def dropOf (register : Register) (name : String) : Build Unit Entry Unit :=
  match register.heldAs? name with
  | some held => held.drop
  | none => pure ()

/-- The answer to a step and the register after it. -/
def step (register : Register) : Step → Build Unit Entry (Answer × Register)
  | .make name source destination => do
      match ← Build.attempt (SupportCopy.make source destination) with
      | .ok copy => do
          Build.note [.copied register.made source destination]
          register.dropOf name
          pure (.made copy.path, register.hold name copy)
      | .error (.failed e) => pure (.failed e, register)
      | .error .thrown => Build.stop .thrown
  | .remove name =>
      match register.heldAs? name with
      | none => pure (.nothing, register)
      | some held => do
          match ← held.copy.remove (watcher held.number .removal) with
          | .ok () => pure (.removed, register.without name)
          | .error e => pure (.failed e, register.without name)
  | .drop name => do
      register.dropOf name
      pure (.nothing, register.without name)
  | .outside change => do
      Build.note [.changed change]
      let _ ← Build.onDisk (modify change)
      pure (.nothing, register)

/-- Whether a name stands before or at another, by their bytes. -/
def nameLe (a b : String) : Bool := decide (Bytes.ofString a ≤ Bytes.ofString b)

/-- The copies that are left, ordered by name. -/
def left (register : Register) : List Held :=
  register.held.mergeSort fun a b => nameLe a.name b.name

/-- Drop every copy that is left. -/
def close (register : Register) : Build Unit Entry Unit := register.left.forM Held.drop

/-- The answers to some steps, each with the disk after it, and the register
after them. -/
def steps (register : Register) : List Step → Build Unit Entry (List (Answer × Disk) × Register)
  | [] => pure ([], register)
  | next :: later => do
      let (answer, register) ← register.step next
      let disk ← Build.theDisk
      let (answers, register) ← register.steps later
      pure ((answer, disk) :: answers, register)

/-- The answers to some steps on an empty register, which is closed at the
end. -/
def session (todo : List Step) : Build Unit Entry (List (Answer × Disk)) := do
  let (answers, register) ← empty.steps todo
  register.close
  pure answers

end Register

end StagedBuild
