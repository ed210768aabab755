import Mathlib.Control.Monad.Basic
import StagedBuild.Proofs.DiskSteps
import StagedBuild.Proofs.RunParts
import StagedBuild.Script

/-!
# Support files that are not copied

A copy opens its source, checks it and then opens its destination.  Nothing is done
before both are open, so a copy that fails leaves everything as it was.  `CopyFails`
lists why it may fail, and `copyFile_eq_error` says that these are the only causes.

`failed_copy_harmless` is about the support file of a build: a run that cannot copy it
fails at its model check without a call and changes nothing there.

`support_error_named` says which path the user is told.  A removal names the copy.  A
copy names its source whatever the cause, so a destination that cannot be opened goes
unnamed: `Blocked.blocked_unnamed` is such a copy.
-/

namespace StagedBuild

/-! ## Copies that fail -/

namespace Disk

/-- Why a copy fails. -/
inductive CopyFails (disk : Disk) (source destination : Path) : IoError → Prop where
  /-- The source cannot be opened. -/
  | unopened {cause : IoError} (refused : disk.stat source = .error cause) :
      CopyFails disk source destination cause
  /-- The source is no regular file. -/
  | irregular {loc : Location} {node : Node} (found : disk.stat source = .ok (loc, node))
      (other : ∀ data executable, node ≠ .file data executable) :
      CopyFails disk source destination .notARegularFile
  /-- The source is a regular file, and the destination cannot be opened. -/
  | blocked {loc : Location} {data : Bytes} {executable : Bool} {cause : IoError}
      (found : disk.stat source = .ok (loc, .file data executable))
      (refused : (openEmptied destination executable disk).1 = .error cause) :
      CopyFails disk source destination cause

variable {source destination : Path} {disk : Disk} {cause : IoError}

/-- A copy fails for one of the causes and for no other. -/
theorem copyFile_eq_error :
    (copyFile source destination disk).1 = .error cause ↔
      disk.CopyFails source destination cause := by
  rw [copyFile_apply]
  constructor
  · intro failed
    split at failed
    · next e refused =>
      cases failed
      exact .unopened refused
    · next loc data executable found =>
      split at failed
      · next e unopened =>
        cases failed
        refine .blocked found ?_
        rw [openEmptied_apply, unopened]
      · cases failed
    · next entry other found =>
      obtain ⟨loc, node⟩ := entry
      cases failed
      exact .irregular found fun data executable same => other loc data executable (by rw [same])
  · intro why
    cases why with
    | unopened refused => rw [refused]
    | @irregular loc node found other =>
      rw [found]
      cases node with
      | file data executable => exact (other data executable rfl).elim
      | folder => rfl
      | link target => rfl
      | device kind => rfl
    | @blocked loc data executable cause found refused =>
      rw [openEmptied_apply] at refused
      rw [found]
      dsimp only
      cases unopened : disk.opened destination executable with
      | error e =>
        rw [unopened] at refused
        cases refused
        rfl
      | ok place =>
        rw [unopened] at refused
        cases refused

end Disk

/-! ## The support file -/

namespace SupportCopy

variable {σ ε : Type}

theorem make_eq_error {source destination : Path} {tools : σ} {disk : Disk} {why : Stop} :
    ((make source destination : Build σ ε SupportCopy).run tools disk).result = .error why ↔
      ∃ cause, (Disk.copyFile source destination disk).1 = .error cause ∧
        why = .failed (.file source cause) := by
  rw [Pipeline.run_make]
  cases (Disk.copyFile source destination disk).1 with
  | error cause =>
    constructor
    · intro h
      cases h
      exact ⟨cause, rfl, rfl⟩
    · rintro ⟨_, ⟨⟩, rfl⟩
      rfl
  | ok u => exact ⟨nofun, fun ⟨_, h, _⟩ => nomatch h⟩

/-- A failed copy names its source and a failed removal the copy, each with the cause that
the operation gave.  A copy whose destination cannot be opened names its source too. -/
theorem support_error_named (observer : Observer ε) (tools : σ) (disk : Disk) :
    (∀ source destination why,
      ((make source destination : Build σ ε SupportCopy).run tools disk).result = .error why ↔
        ∃ cause, disk.CopyFails source destination cause ∧ why = .failed (.file source cause)) ∧
    ∀ (copy : SupportCopy) error,
      ((copy.remove observer : Build σ ε _).run tools disk).result = .ok (.error error) ↔
        ∃ cause, (Disk.unlink copy.path disk).1 = .error cause ∧
          error = .file copy.path cause := by
  constructor
  · intro source destination why
    simp only [make_eq_error, Disk.copyFile_eq_error]
  · intro copy error
    rw [Pipeline.run_remove]
    cases (Disk.unlink copy.path disk).1 with
    | ok u => exact ⟨nofun, fun ⟨_, h, _⟩ => nomatch h⟩
    | error cause =>
      constructor
      · intro h
        cases h
        exact ⟨cause, rfl, rfl⟩
      · rintro ⟨_, ⟨⟩, rfl⟩
        rfl

end SupportCopy

/-! ## Builds without their support file -/

namespace Pipeline

/-- A copy that fails leaves the disk and the tools as they were and logs nothing.  If it is
that of a build, the build fails at its model check, whose tool is not called. -/
theorem failed_copy_harmless :
    (∀ {σ ε : Type} {source destination : Path} {tools : σ} {disk : Disk} {why : Stop},
      ((SupportCopy.make source destination : Build σ ε SupportCopy).run tools disk).result =
          .error why →
        (SupportCopy.make source destination : Build σ ε SupportCopy).run tools disk =
          ⟨[], .error why, tools, disk⟩) ∧
    ∀ {σ : Type} {pipeline : Pipeline σ Event} {request : Request} {tools₀ : σ} {disk₀ : Disk}
      (here : Reached (pipeline.watchedBy Observer.full) request tools₀ disk₀ .modelCheck)
      {why : Stop},
      ((SupportCopy.make pipeline.toolchain.supportFile (Artifacts.ofRequest request).support :
          Build σ Event SupportCopy).run here.tools here.disk).result = .error why →
        ∃ cause, why = .failed (.file pipeline.toolchain.supportFile cause) ∧
          ((pipeline.watchedBy Observer.full).run request).run tools₀ disk₀ =
            ⟨here.log ++ [.started .modelCheck,
                .failed .modelCheck (.file pipeline.toolchain.supportFile cause)],
              .error why, here.tools, here.disk⟩ := by
  constructor
  · intro σ ε source destination tools disk why failed
    obtain ⟨cause, uncopied, rfl⟩ := SupportCopy.make_eq_error.mp failed
    have unchanged := Disk.copyFile_unchanged uncopied
    rw [run_make, uncopied, unchanged]
    rfl
  · intro σ pipeline request tools₀ disk₀ here why failed
    obtain ⟨cause, uncopied, rfl⟩ := SupportCopy.make_eq_error.mp failed
    have unchanged := Disk.copyFile_unchanged uncopied
    have unready : (pipeline.watchedBy Observer.full).prepare request .modelCheck here.disk =
        (.error (.file pipeline.toolchain.supportFile cause), here.disk) := by
      simp only [prepare, toolchain_watchedBy, uncopied, unchanged]
    have stopped : ((pipeline.watchedBy Observer.full).stage request .modelCheck).run here.tools
        here.disk =
          ⟨[.started .modelCheck,
              .failed .modelCheck (.file pipeline.toolchain.supportFile cause)],
            .error (.failed (.file pipeline.toolchain.supportFile cause)), here.tools,
            here.disk⟩ := by
      rw [run_stage, run_body_unready here.tools unready]
      rfl
    exact ⟨cause, rfl, here.run_of_stop stopped⟩

end Pipeline

/-! ## A link to itself where the copy should be -/

namespace LoopedCopy

/-- A request for a model check. -/
def request : Request := ⟨Bytes.ofString "m.p", Bytes.ofString "out", "m", ⟨true, false, false⟩⟩

/-- A pipeline with scripted tools. -/
def pipeline : Pipeline Script Event where
  toolchain := Toolchain.ofRoot (Bytes.ofString "t")
  tools := Script.toolbox
  observer := Observer.full

/-- Both tools would end well. -/
def script : Script := [.ended true [] [], .ended true [] []]

/-- The path of the copy. -/
def support : Path := (Artifacts.ofRequest request).support

/-- A disk with the support file, and a link to itself in the output directory. -/
def disk : Disk :=
  Effect.applyAll ⟨[], []⟩
    [.write pipeline.toolchain.supportFile (Bytes.ofString "x") false,
      .link support (Bytes.ofString "SMRuntime.zing")]

/-- The run comes to the model check. -/
def here : Pipeline.Reached (pipeline.watchedBy Observer.full) request script disk .modelCheck :=
  .ofResult [.domainCompile] [] ⟨[.domainCompile], Artifacts.ofRequest request, none⟩ (by decide)
    (by decide +kernel)

/-- The copy fails and leaves the link alone, and so the run fails at its model check and
leaves the second tool alone. -/
theorem loop_harmless :
    (SupportCopy.make pipeline.toolchain.supportFile support :
        Build Script Event SupportCopy).run here.tools here.disk =
      ⟨[], .error (.failed (.file pipeline.toolchain.supportFile .tooManyLinks)), here.tools,
        here.disk⟩ ∧
    (pipeline.run request).run script disk =
      ⟨here.log ++ [.started .modelCheck,
          .failed .modelCheck (.file pipeline.toolchain.supportFile .tooManyLinks)],
        .error (.failed (.file pipeline.toolchain.supportFile .tooManyLinks)),
        [.ended true [] []], disk⟩ := by
  have uncopied : (Disk.copyFile pipeline.toolchain.supportFile support here.disk).1 =
      .error .tooManyLinks := by decide +kernel
  have failed : ((SupportCopy.make pipeline.toolchain.supportFile support :
      Build Script Event SupportCopy).run here.tools here.disk).result = _ :=
    SupportCopy.make_eq_error.mpr ⟨_, uncopied, rfl⟩
  have left : here.tools = [.ended true [] []] ∧ here.disk = disk := by decide +kernel
  have alone := Pipeline.failed_copy_harmless.1 failed
  obtain ⟨cause, why, ran⟩ := Pipeline.failed_copy_harmless.2 here failed
  cases why
  rw [left.1, left.2] at ran
  exact ⟨alone, ran⟩

end LoopedCopy

/-! ## A directory where the copy should be -/

namespace Blocked

/-- A file. -/
def source : Path := Bytes.ofString "a"

/-- A directory. -/
def destination : Path := Bytes.ofString "d"

/-- A disk with both. -/
def disk : Disk :=
  Effect.applyAll ⟨[], []⟩ [.write source (Bytes.ofString "x") false, .makeFolder destination]

/-- The copy fails at the directory and names the file. -/
theorem blocked_unnamed :
    disk.stat source = .ok ([source], .file (Bytes.ofString "x") false) ∧
      (Disk.openEmptied destination false disk).1 = .error .isADirectory ∧
      ((SupportCopy.make source destination : Build Unit Event SupportCopy).run () disk).result =
        .error (.failed (.file source .isADirectory)) ∧
      source ≠ destination := by
  refine ⟨by decide +kernel, by decide +kernel, ?_, by decide⟩
  have refused : (Disk.copyFile source destination disk).1 = .error .isADirectory := by
    decide +kernel
  exact SupportCopy.make_eq_error.mpr ⟨_, refused, rfl⟩

end Blocked

end StagedBuild
