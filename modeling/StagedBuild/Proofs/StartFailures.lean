import StagedBuild.Machine.Launch
import StagedBuild.Proofs.DiskFrames
import StagedBuild.Proofs.NativeVerdict
import StagedBuild.Proofs.SupportScope

/-!
# Tools that do not start

A tool that does not start has printed a complaint, which names its program and
says why, and has failed.  For three of the stages that is a failure of the stage.
The native build is read by its output alone, and there the path of the program
counts like anything else that is printed.

`start_known` says that the machine does not start a program for a cause of its
own kind.  No such cause has the marker of success in its text, and neither can
the marker go across the colon in front of it.  So the complaint has the marker if
and only if the path of the program has it (`infix_startComplaint_iff`).

`run_of_unstarted` gives the run, for all tools that are launched: the stage fails with
the lines of the complaint, except for a native build whose program has the marker in
its path.  That build is reported as complete though nothing was built.
-/

namespace StagedBuild

/-! ## Causes -/

/-- A cause of a kind of its own. -/
def IoError.IsKnown : IoError → Prop
  | .other _ => False
  | _ => True

namespace Disk

variable {disk : Disk} {through : Bool} {cause : IoError}

theorem follow_known {jump : Location → List Bytes → Except IoError Found}
    (known : ∀ loc names cause, jump loc names = .error cause → cause.IsKnown)
    {loc : Location} {names : List Bytes}
    (h : follow disk through jump loc names = .error cause) : cause.IsKnown := by
  induction names generalizing loc with
  | nil => cases h
  | cons name rest ih =>
    rw [follow] at h
    split at h
    · exact ih h
    split at h
    · exact ih h
    split at h
    · cases h
      trivial
    split at h
    · split at h
      · cases h
      · cases h
        trivial
    · exact ih h
    · split at h
      · cases h
      · exact known _ _ _ h
    · split at h
      · cases h
      · cases h
        trivial

theorem walk_known {links : Nat} {loc : Location} {names : List Bytes}
    (h : walk disk through links loc names = .error cause) : cause.IsKnown := by
  induction links generalizing loc names cause with
  | zero =>
    refine follow_known ?_ h
    intro _ _ cause refused
    cases refused
    trivial
  | succ links ih =>
    refine follow_known ?_ h
    intro _ _ cause refused
    exact ih refused

theorem checkPath_known {p : Path} (h : checkPath p = .error cause) : cause.IsKnown := by
  rw [checkPath] at h
  split at h
  · cases h
    trivial
  split at h
  · cases h
    trivial
  split at h
  · cases h
    trivial
  · cases h

theorem stat_known {p : Path} (h : disk.stat p = .error cause) : cause.IsKnown := by
  rw [stat, find] at h
  cases checked : checkPath p with
  | error refusal =>
    rw [checked] at h
    cases h
    exact checkPath_known checked
  | ok u =>
    rw [checked] at h
    cases walked : walk disk true linkLimit (disk.startOf p) (stepsOf p) with
    | error refusal =>
      simp only [walked] at h
      cases h
      exact walk_known walked
    | ok found =>
      simp only [walked] at h
      cases found with
      | entry loc node => cases h
      | vacant loc =>
        cases h
        trivial

end Disk

namespace Machine

namespace Loader

variable {disk : Disk} {cause : IoError}

theorem loadFor_known {limit : Nat} {path : Path} {args : List Bytes}
    (h : loadFor disk limit path args = .error cause) : cause.IsKnown := by
  induction limit generalizing path args with
  | zero =>
    cases h
    trivial
  | succ limit ih =>
    rw [loadFor] at h
    split at h
    · next refused =>
      cases h
      exact Disk.stat_known refused
    · split at h
      · cases h
      · split at h
        · exact ih h
        · cases h
          trivial
    · cases h
      trivial

theorem loadFrom_known {name : Bytes} {args folders : List Bytes} {denied : Bool}
    (h : loadFrom disk name args denied folders = .error cause) : cause.IsKnown := by
  induction folders generalizing denied with
  | nil =>
    rw [loadFrom] at h
    cases denied with
    | false =>
      cases h
      trivial
    | true =>
      cases h
      trivial
  | cons folder later ih =>
    rw [loadFrom] at h
    split at h
    · cases h
    · exact ih h
    · exact ih h
    · exact ih h
    · next refused =>
      cases h
      exact loadFor_known refused

theorem find_known {searchPath : Option Bytes} {program : Path} {args : List Bytes}
    (h : find disk searchPath program args = .error cause) : cause.IsKnown := by
  rw [find] at h
  split at h
  · cases h
    trivial
  split at h
  · exact loadFor_known h
  split at h
  · cases h
    trivial
  · exact loadFrom_known h

end Loader

theorem enter_known {disk : Disk} {folder? : Option Path} {cause : IoError}
    (h : enter disk folder? = .error cause) : cause.IsKnown := by
  cases folder? with
  | none => cases h
  | some folder =>
    rw [enter] at h
    split at h
    · cases h
    · cases h
      trivial
    · next refused =>
      cases h
      exact Disk.stat_known refused

/-- What keeps a program from being started has a kind of its own. -/
theorem start_known {env : Environment} {disk : Disk} {call : Invocation} {cause : IoError}
    (h : start env disk call = .error cause) : cause.IsKnown := by
  rw [start] at h
  split at h
  · cases h
    trivial
  split at h
  · next refused =>
    cases h
    exact enter_known refused
  · split at h
    · next refused =>
      cases h
      exact Loader.find_known refused
    · cases h

/-! ## The complaint -/

/-- What is said of a cause behind the program and a colon. -/
def reasonOf : IoError → String
  | .notFound => " process not found"
  | cause => " failed to start: " ++ cause.message

theorem toList_startComplaint (program : Path) (cause : IoError) :
    (startComplaint program cause).toList =
      program.display.toList ++ ':' :: (reasonOf cause).toList := by
  have notFound : ": process not found" = ":" ++ " process not found" := rfl
  have failed : ": failed to start: " = ":" ++ " failed to start: " := rfl
  cases cause <;>
    simp [startComplaint, reasonOf, notFound, failed, String.toList_append]

/-- No cause with a kind of its own is described by the marker of success. -/
theorem not_infix_reasonOf {cause : IoError} (known : cause.IsKnown) :
    ¬BuildVerdict.succeededMarker.toList <:+: (reasonOf cause).toList := by
  have initial : 'B' ∈ BuildVerdict.succeededMarker.toList := by decide
  have lacking : 'B' ∉ (reasonOf cause).toList := by
    cases cause with
    | other text => exact known.elim
    | _ => decide +kernel
  intro inside
  exact lacking (inside.subset initial)

/-- A complaint holds the marker of success if and only if the path of the program
does. -/
theorem infix_startComplaint_iff (program : Path) {cause : IoError} (known : cause.IsKnown) :
    Bytes.ofString BuildVerdict.succeededMarker <:+:
        Bytes.ofString (startComplaint program cause) ↔
      Bytes.ofString BuildVerdict.succeededMarker <:+: program := by
  have marker := BuildVerdict.marker_succeeded
  have inBytes := Utf8.infix_decodeChars_iff marker.ascii marker.ne_nil
  have decoded : Utf8.decodeChars (Bytes.ofString (startComplaint program cause)) =
      (startComplaint program cause).toList := by
    have read := congrArg String.toList (Utf8.decode_ofString (startComplaint program cause))
    rwa [Utf8.decode, String.toList_ofList] at read
  have path : program.display.toList = Utf8.decodeChars program := by
    rw [Path.display, Utf8.decode, String.toList_ofList]
  have noColon : ':' ∉ BuildVerdict.succeededMarker.toList := by decide
  calc Bytes.ofString BuildVerdict.succeededMarker <:+:
        Bytes.ofString (startComplaint program cause)
    _ ↔ BuildVerdict.succeededMarker.toList <:+: (startComplaint program cause).toList := by
      rw [← decoded]
      exact (inBytes _).symm
    _ ↔ BuildVerdict.succeededMarker.toList <:+: program.display.toList := by
      rw [toList_startComplaint, infix_append_cons_iff marker.ne_nil noColon,
        or_iff_left (not_infix_reasonOf known)]
    _ ↔ Bytes.ofString BuildVerdict.succeededMarker <:+: program := by
      rw [path]
      exact inBytes program

end Machine

/-! ## The run -/

namespace Pipeline

/-- What a stage makes of a complaint. -/
theorem verdict_unstarted (stage : Stage) (program : Path) {cause : IoError}
    (known : cause.IsKnown) :
    verdict stage
        (ToolOutput.ofBytes false (Bytes.ofString (Machine.startComplaint program cause))) =
      if stage = .nativeBuild ∧ Bytes.ofString BuildVerdict.succeededMarker <:+: program then
        .ok ()
      else
        .error (.stageFailed stage (Lines.normalize (Machine.startComplaint program cause))) := by
  have text := Utf8.decode_ofString (Machine.startComplaint program cause)
  by_cases native : stage = .nativeBuild
  · subst native
    rw [verdict_ofBytes, text]
    simp [Machine.infix_startComplaint_iff program known]
  · rw [verdict_other native, checkExit]
    simp [ToolOutput.ofBytes, text, native]

variable {σ ε : Type} {pipeline : Pipeline σ ε} {request : Request} {env : Environment}
  {tools₀ : σ} {disk₀ : Disk} {stage : Stage}

/-- A stage whose tool does not start fails with the lines of the complaint, and the
run with it.  The exception is a native build whose program has the marker of
success in its path.  In any case the stage has cleaned up, and no support file is
left behind a model check: disks have no permissions, so what was copied can be
unlinked. -/
theorem run_of_unstarted (launches : pipeline.tools.Launches env)
    (here : Reached pipeline request tools₀ disk₀ stage) {main? : Option String} {disk₁ : Disk}
    {cause : IoError} (ready : pipeline.prepare request stage here.disk = (.ok main?, disk₁))
    (unstarted : Machine.start env disk₁ (pipeline.toolchain.callOf request stage main?) =
      .error cause) :
    let program := (pipeline.toolchain.callOf request stage main?).program
    let ended := (pipeline.run request).run tools₀ disk₀
    ended.disk = (cleanUp request stage disk₁).2 ∧
      (stage = .modelCheck →
        ended.disk.hasEntry (Artifacts.ofRequest request).support = false) ∧
      ended.result =
        if stage = .nativeBuild ∧ Bytes.ofString BuildVerdict.succeededMarker <:+: program then
          .ok (here.report.withStage .nativeBuild none)
        else
          .error (.failed (.stageFailed stage
            (Lines.normalize (Machine.startComplaint program cause)))) := by
  intro program ended
  obtain ⟨tools', answered⟩ := launches.unstarted here.tools unstarted
  have known := Machine.start_known unstarted
  have came := verdict_unstarted stage program known
  have dropped : stage = .modelCheck →
      (cleanUp request stage disk₁).2.hasEntry (Artifacts.ofRequest request).support = false := by
    rintro rfl
    obtain ⟨_, copied⟩ := prepare_modelCheck.mp ready
    have removed := Disk.unlink_of_copyFile copied
    exact Disk.not_hasEntry_of_unlink (Prod.ext removed rfl)
  by_cases fooled :
      stage = .nativeBuild ∧ Bytes.ofString BuildVerdict.succeededMarker <:+: program
  · rw [if_pos fooled] at came ⊢
    have passed := outcome_of_passed came (cleanUp request stage disk₁).1
    obtain ⟨rfl, _⟩ := fooled
    cases ready
    have run_eq := here.run_of_done (run_stage_called rfl answered passed)
    rw [later_of_nativeBuild here.planned] at run_eq
    exact ⟨congrArg Ended.disk run_eq, nofun, congrArg Ended.result run_eq⟩
  · rw [if_neg fooled] at came ⊢
    have refused := outcome_of_refused came (cleanUp request stage disk₁).1
    have run_eq := here.run_of_stop (run_stage_called ready answered refused)
    have disk_eq : ended.disk = (cleanUp request stage disk₁).2 := congrArg Ended.disk run_eq
    rw [disk_eq]
    exact ⟨rfl, dropped, congrArg Ended.result run_eq⟩

end Pipeline

/-! ## Native build tools that are not there -/

namespace NoBuildTool

/-- A request for a native build. -/
def request : Request := ⟨Bytes.ofString "m.p", Bytes.ofString "out", "m", ⟨false, true, true⟩⟩

/-- A pipeline with a native build tool at a path. -/
def pipeline (program : Path) : Pipeline Unit Event where
  toolchain := { Toolchain.ofRoot (Bytes.ofString "t") with nativeBuild := program }
  tools := Machine.toolbox []
  observer := Observer.full

/-- A disk with the program and the tools of the other stages, which do nothing. -/
def disk : Disk :=
  Effect.applyAll ⟨[], []⟩
    [.write request.source (Bytes.ofString "main machine M") false,
      .write (Bytes.ofString "t/Compiler/PCompiler") (Machine.imageOf "true") true,
      .write (Bytes.ofString "t/Compiler/PrtGen") (Machine.imageOf "true") true]

/-- The path of a tool that is not there. -/
def missing : Path := Bytes.ofString "b/MSBuild.exe"

/-- The run comes to the native build. -/
def here : Pipeline.Reached (pipeline missing) request () disk .nativeBuild :=
  .ofResult [.domainCompile, .generateProject] []
    ⟨[.domainCompile, .generateProject], Artifacts.ofRequest request, some "M"⟩ (by decide)
    (by decide +kernel)

theorem unstarted :
    Machine.start [] here.disk ((pipeline missing).toolchain.callOf request .nativeBuild none) =
      .error .notFound := by
  decide +kernel

/-- The run fails with the complaint. -/
theorem missing_tool_fails :
    (((pipeline missing).run request).run () disk).result =
      .error (.failed (.stageFailed .nativeBuild ["b/MSBuild.exe: process not found"])) := by
  have plain : ¬Bytes.ofString BuildVerdict.succeededMarker <:+: missing := by decide +kernel
  have launches := Machine.toolboxBy_launches Machine.runToEnd []
  have failed := (Pipeline.run_of_unstarted launches here rfl unstarted).2.2
  rw [if_neg (fun fooled => plain fooled.2)] at failed
  rw [failed]
  decide +kernel

/-- The path of another tool that is not there. -/
def fooling : Path := Bytes.ofString "b/Build succeeded./MSBuild.exe"

/-- The run comes to the native build. -/
def there : Pipeline.Reached (pipeline fooling) request () disk .nativeBuild :=
  .ofResult [.domainCompile, .generateProject] []
    ⟨[.domainCompile, .generateProject], Artifacts.ofRequest request, some "M"⟩ (by decide)
    (by decide +kernel)

/-- A run whose native build tool does not start is complete. -/
theorem missing_tool_succeeds :
    Machine.start [] there.disk
        ((pipeline fooling).toolchain.callOf request .nativeBuild none) = .error .notFound ∧
      (((pipeline fooling).run request).run () disk).result =
        .ok (there.report.withStage .nativeBuild none) :=
  ⟨by decide +kernel, by decide +kernel⟩

end NoBuildTool

end StagedBuild
