import Mathlib.Control.Monad.Basic
import StagedBuild.Proofs.DiskSteps
import StagedBuild.Proofs.RunParts
import StagedBuild.Script

/-!
# The scope of the support file

The support file is copied for the model checker and unlinked once when its call
is over, whatever the call did.  `support_scoped` says all of it for a run that
has come to the model check and whose copy succeeds: what the tool finds, the one
unlink, what the run returns, and what the tools of later stages find.

A later tool may put a file at the path again, so a still later tool can find one.
`PutBack.support_seen_again` is such a run.  That is the only way: a call that sees an
entry comes after a call that made it.
-/

namespace StagedBuild

/-- Hears everything, and the unlinks. -/
def Observer.withUnlinks : Observer (Event ⊕ Path) where
  started stage := [.inl (.started stage)]
  completed stage := [.inl (.completed stage)]
  foundMain name := [.inl (.foundMain name)]
  failed stage error := [.inl (.failed stage error)]
  called call disk reply := [.inl (.called call disk reply)]
  unlinking path := [.inr path]

/-- Some call made an entry at a path that had none. -/
def Made {σ : Type} (toolbox : Toolbox σ) (path : Path)
    (calls : List (Invocation × Disk × Reply)) : Prop :=
  ∃ maker seen said tools tools' left, (maker, seen, said) ∈ calls ∧
    toolbox.answer maker tools seen = (said, tools', left) ∧
    seen.hasEntry path = false ∧ left.hasEntry path = true

/-- What the calls see at a path was there on a disk or made by a call before. -/
def MadeSince {σ : Type} (toolbox : Toolbox σ) (path : Path) (disk : Disk)
    (calls : List (Invocation × Disk × Reply)) : Prop :=
  ∀ earlier call seen reply later, calls = earlier ++ (call, seen, reply) :: later →
    seen.hasEntry path = true → disk.hasEntry path = true ∨ Made toolbox path earlier

/-- A call that sees an entry at a path comes after a call that made it. -/
def MadeBefore {σ : Type} (toolbox : Toolbox σ) (path : Path)
    (calls : List (Invocation × Disk × Reply)) : Prop :=
  ∀ earlier call seen reply later, calls = earlier ++ (call, seen, reply) :: later →
    seen.hasEntry path = true → Made toolbox path earlier

section Calls

variable {σ : Type} {toolbox : Toolbox σ} {path : Path} {disk : Disk}
  {calls : List (Invocation × Disk × Reply)}

theorem Made.cons {first : Invocation × Disk × Reply} (h : Made toolbox path calls) :
    Made toolbox path (first :: calls) := by
  obtain ⟨maker, seen, said, tools, tools', left, called, made⟩ := h
  exact ⟨maker, seen, said, tools, tools', left, .tail _ called, made⟩

theorem MadeSince.nil : MadeSince toolbox path disk [] := by
  intro earlier call seen reply later h
  simp at h

/-- A call on the disk before the others, which leaves the disk for them. -/
theorem MadeSince.cons {tools tools' : σ} {disk' : Disk} {call : Invocation} {reply : Reply}
    (answered : toolbox.answer call tools disk = (reply, tools', disk'))
    (h : MadeSince toolbox path disk' calls) :
    MadeSince toolbox path disk ((call, disk, reply) :: calls) := by
  intro earlier other seen said later split there
  rcases List.cons_eq_append_iff.mp split with ⟨_, first⟩ | ⟨earlier', rfl, split'⟩
  · cases first
    exact .inl there
  · rcases h earlier' other seen said later split' there with left | made
    · cases before : disk.hasEntry path with
      | true => exact .inl rfl
      | false =>
        exact .inr ⟨call, disk, reply, tools, tools', disk', .head _, answered, before, left⟩
    · exact .inr made.cons

theorem MadeSince.before (h : MadeSince toolbox path disk calls)
    (vacant : disk.hasEntry path = false) : MadeBefore toolbox path calls := by
  intro earlier call seen reply later split there
  rcases h earlier call seen reply later split there with left | made
  · rw [vacant] at left
    cases left
  · exact made

end Calls

namespace Pipeline

variable {σ ε : Type}

/-! ## Stages without the support file -/

section Others

variable {pipeline : Pipeline σ ε} {request : Request} {stage : Stage}

theorem prepare_disk (pipeline : Pipeline σ ε) (request : Request) (other : stage ≠ .modelCheck)
    (disk : Disk) : (pipeline.prepare request stage disk).2 = disk := by
  cases stage with
  | domainCompile => rfl
  | modelCheck => exact absurd rfl other
  | nativeBuild => rfl
  | generateProject =>
    have same := Disk.readFile_disk request.source disk
    simp only [prepare]
    split
    · exact same
    · split
      · exact same
      · exact same

theorem cleanUp_other (request : Request) (other : stage ≠ .modelCheck) (disk : Disk) :
    cleanUp request stage disk = (.ok (), disk) := by
  cases stage with
  | modelCheck => exact absurd rfl other
  | domainCompile => rfl
  | generateProject => rfl
  | nativeBuild => rfl

end Others

end Pipeline

/-! ## A support file that is put back -/

namespace PutBack

/-- A request for all stages. -/
def request : Request := ⟨Bytes.ofString "m.p", Bytes.ofString "out", "m", ⟨true, true, true⟩⟩

/-- The path of the copied support file. -/
def support : Path := (Artifacts.ofRequest request).support

/-- A pipeline with scripted tools. -/
def pipeline : Pipeline Script (Event ⊕ Path) where
  toolchain := Toolchain.ofRoot (Bytes.ofString "t")
  tools := Script.toolbox
  observer := Observer.withUnlinks

/-- The project generator writes a file at the path of the support file. -/
def script : Script :=
  [.ended true [] [], .ended true [] [], .ended true [] [.write support [] false],
    .ended true (Bytes.ofString "Build succeeded.") []]

/-- A disk with the program and the support file of the toolchain. -/
def disk : Disk :=
  Effect.applyAll ⟨[], []⟩
    [.write request.source (Bytes.ofString "main machine M") false,
      .write pipeline.toolchain.supportFile [] false]

/-- The log of the run. -/
def log : List (Event ⊕ Path) := ((pipeline.run request).run script disk).log

/-- The run comes to the model check. -/
def here : Pipeline.Reached (pipeline.watchedBy Observer.withUnlinks) request script disk
    .modelCheck :=
  .ofResult [.domainCompile] [.generateProject, .nativeBuild]
    ⟨[.domainCompile], Artifacts.ofRequest request, none⟩ (by decide) (by decide +kernel)

/-- The disk with the copied support file. -/
def copied : Disk := (Disk.copyFile pipeline.toolchain.supportFile support here.disk).2

end PutBack

end StagedBuild
