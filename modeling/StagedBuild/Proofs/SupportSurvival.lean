import StagedBuild.Proofs.DiskFrames
import StagedBuild.Proofs.SupportScope

/-!
# The support file of the toolchain

A run reads the support file of the toolchain and should leave it as it is.  It
does if its copy and the removal of the copy spare it.

* The copy goes to a path in the output directory.  If that path leads to the
  support file itself, the file is emptied before it is read.
* The removal takes away the entry that the path names then.  If the support file
  is that entry or is read through it, it is gone.

`support_survives_iff` says that these are the only ways: a run with tools that
leave the support file alone keeps it if and only if neither happens.  Nothing
rules them out, so a build into the directory of the support file loses it.
-/

namespace StagedBuild

namespace Pipeline

variable {σ ε : Type}

/-- No tool that a run calls changes what a path reads. -/
def LeavesAlone (pipeline : Pipeline σ ε) (request : Request) (tools₀ : σ) (disk₀ : Disk)
    (p : Path) : Prop :=
  ∀ {stage} (here : Reached pipeline request tools₀ disk₀ stage) {main? : Option String}
    {disk₁ disk₂ : Disk} {reply : Reply} {tools₂ : σ},
    pipeline.prepare request stage here.disk = (.ok main?, disk₁) →
    pipeline.tools.answer (pipeline.toolchain.callOf request stage main?) here.tools disk₁ =
      (reply, tools₂, disk₂) →
    disk₂.fileData? p = disk₁.fileData? p

variable {pipeline : Pipeline σ ε} {request : Request} {tools₀ : σ} {disk₀ : Disk} {p : Path}

/-! ## One stage -/

/-- Another stage than the model check keeps what the tools leave alone. -/
theorem fileData?_stage_other (alone : pipeline.LeavesAlone request tools₀ disk₀ p)
    {stage : Stage} (other : stage ≠ .modelCheck)
    (here : Reached pipeline request tools₀ disk₀ stage) :
    ((pipeline.stage request stage).run here.tools here.disk).disk.fileData? p =
      here.disk.fileData? p := by
  have unchanged := prepare_disk pipeline request other here.disk
  rcases stage_cases pipeline request stage here.tools here.disk with
    ⟨error, disk₁, unready, ran⟩ |
      ⟨main?, disk₁, reply, tools₂, disk₂, result, ready, answered, _, ran⟩
  · rw [ran, ← unchanged, unready]
  · have left := alone here ready answered
    rw [ran, cleanUp_other request other, left, ← unchanged, ready]

/-- The model check leaves the disk as it is if the copy fails. -/
theorem modelCheck_disk_uncopied {cause : IoError} {disk disk₁ : Disk} (tools : σ)
    (failed : Disk.copyFile pipeline.toolchain.supportFile (Artifacts.ofRequest request).support
      disk = (.error cause, disk₁)) :
    ((pipeline.stage request .modelCheck).run tools disk).disk = disk := by
  have same : disk₁ = disk := by
    have unchanged := Disk.copyFile_unchanged (congrArg Prod.fst failed)
    rwa [failed] at unchanged
  have unready : pipeline.prepare request .modelCheck disk =
      (.error (.file pipeline.toolchain.supportFile cause), disk₁) := by
    simp only [prepare, failed]
  rw [run_stage, run_body_unready tools unready, same]

/-- The model check unlinks the copy behind its call. -/
theorem modelCheck_disk {disk disk₁ disk₂ : Disk} {reply : Reply} {tools tools₂ : σ}
    (copied : Disk.copyFile pipeline.toolchain.supportFile (Artifacts.ofRequest request).support
      disk = (.ok (), disk₁))
    (answered : pipeline.tools.answer
      (pipeline.toolchain.modelCheckCall (Artifacts.ofRequest request)) tools disk₁ =
        (reply, tools₂, disk₂)) :
    ((pipeline.stage request .modelCheck).run tools disk).disk =
      (Disk.unlink (Artifacts.ofRequest request).support disk₂).2 := by
  rw [run_stage_called (prepare_modelCheck.mpr ⟨rfl, copied⟩) answered rfl]
  rfl

/-! ## The run -/

/-- A copy spares its source if the destination does not lead to it, and the removal
spares it if it takes no entry away that the source is read through. -/
structure Spares (pipeline : Pipeline σ ε) (request : Request) (data : Bytes)
    (before after : Disk) : Prop where
  /-- If the copy leads to the support file then nothing was in it. -/
  copy : before.stat (Artifacts.ofRequest request).support =
    before.stat pipeline.toolchain.supportFile → data = []
  /-- The support file is not read through the entry that is unlinked. -/
  removal : ¬after.Severs (Artifacts.ofRequest request).support pipeline.toolchain.supportFile

/-- After the model check a support file with some data still has them if and only if
it was spared. -/
theorem fileData?_modelCheck_iff {disk disk₁ disk₂ : Disk} {data : Bytes} {reply : Reply}
    {tools tools₂ : σ} (held : disk.fileData? pipeline.toolchain.supportFile = some data)
    (copied : Disk.copyFile pipeline.toolchain.supportFile (Artifacts.ofRequest request).support
      disk = (.ok (), disk₁))
    (answered : pipeline.tools.answer
      (pipeline.toolchain.modelCheckCall (Artifacts.ofRequest request)) tools disk₁ =
        (reply, tools₂, disk₂))
    (alone : disk₂.fileData? pipeline.toolchain.supportFile =
      disk₁.fileData? pipeline.toolchain.supportFile) :
    ((pipeline.stage request .modelCheck).run tools disk).disk.fileData?
        pipeline.toolchain.supportFile = some data ↔
      Spares pipeline request data disk disk₂ := by
  obtain ⟨meets, misses⟩ := Disk.fileData?_copyFile held copied
  rw [modelCheck_disk copied answered]
  constructor
  · intro kept
    have unsevered : ¬disk₂.Severs (Artifacts.ofRequest request).support
        pipeline.toolchain.supportFile := by
      intro severed
      rw [Disk.fileData?_unlink_severed severed] at kept
      cases kept
    refine ⟨fun meet => ?_, unsevered⟩
    have emptied := Disk.fileData?_unlink (alone.trans (meets meet)) unsevered
    rw [kept] at emptied
    exact Option.some.inj emptied
  · rintro ⟨copy, removal⟩
    refine Disk.fileData?_unlink (alone.trans ?_) removal
    by_cases meet : disk.stat (Artifacts.ofRequest request).support =
        disk.stat pipeline.toolchain.supportFile
    · rw [meets meet, copy meet]
    · exact misses meet

/-- A run whose tools leave the support file of the toolchain alone keeps it if and
only if its model check spares it, in case it comes to the model check and copies
the file. -/
theorem support_survives_iff (pipeline : Pipeline σ ε) (request : Request) (tools₀ : σ)
    (disk₀ : Disk) {data : Bytes}
    (held : disk₀.fileData? pipeline.toolchain.supportFile = some data)
    (alone : pipeline.LeavesAlone request tools₀ disk₀ pipeline.toolchain.supportFile) :
    ((pipeline.run request).run tools₀ disk₀).disk.fileData? pipeline.toolchain.supportFile =
        some data ↔
      ∀ (here : Reached pipeline request tools₀ disk₀ .modelCheck) {disk₁ disk₂ : Disk}
        {reply : Reply} {tools₂ : σ},
        Disk.copyFile pipeline.toolchain.supportFile (Artifacts.ofRequest request).support
          here.disk = (.ok (), disk₁) →
        pipeline.tools.answer (pipeline.toolchain.modelCheckCall (Artifacts.ofRequest request))
          here.tools disk₁ = (reply, tools₂, disk₂) →
        Spares pipeline request data here.disk disk₂ := by
  let keeps := fun disk : Disk => disk.fileData? pipeline.toolchain.supportFile = some data
  have made : keeps (Disk.makeFolders request.output disk₀).2 :=
    Disk.fileData?_makeFolders request.output held
  constructor
  · intro kept here disk₁ disk₂ reply tools₂ copied answered
    have held_here : keeps here.disk := by
      refine here.keeps_before keeps made ?_
      intro next there mem held
      have other : next ≠ .modelCheck := fun same => here.not_mem_before (same ▸ mem)
      exact (fileData?_stage_other alone other there).trans held
    let after := ((pipeline.stage request .modelCheck).run here.tools here.disk).disk
    have unchanged : ((pipeline.run request).run tools₀ disk₀).disk.fileData?
        pipeline.toolchain.supportFile = after.fileData? pipeline.toolchain.supportFile := by
      refine here.keeps_later (fun disk => disk.fileData? pipeline.toolchain.supportFile =
        after.fileData? pipeline.toolchain.supportFile) rfl ?_
      intro next there mem same
      have other : next ≠ .modelCheck := fun again => here.not_mem_later (again ▸ mem)
      exact (fileData?_stage_other alone other there).trans same
    have left := alone here (prepare_modelCheck.mpr ⟨rfl, copied⟩) answered
    exact (fileData?_modelCheck_iff held_here copied answered left).mp (unchanged.symm.trans kept)
  · intro spares
    refine run_keeps keeps made ?_
    intro stage here held
    by_cases other : stage = .modelCheck
    · subst other
      cases copy : Disk.copyFile pipeline.toolchain.supportFile
        (Artifacts.ofRequest request).support here.disk with
      | mk result disk₁ =>
        cases result with
        | error cause => rwa [modelCheck_disk_uncopied here.tools copy]
        | ok u =>
          cases answered : pipeline.tools.answer
            (pipeline.toolchain.modelCheckCall (Artifacts.ofRequest request)) here.tools disk₁ with
          | mk reply rest =>
            obtain ⟨tools₂, disk₂⟩ := rest
            have left := alone here (prepare_modelCheck.mpr ⟨rfl, copy⟩) answered
            exact (fileData?_modelCheck_iff held copy answered left).mpr
              (spares here copy answered)
    · exact (fileData?_stage_other alone other here).trans held

end Pipeline

/-! ## A build into the directory of the support file -/

namespace SupportFolder

/-- A request for a model check. -/
def request (output : Path) : Request := ⟨Bytes.ofString "m.p", output, "m", ⟨true, false, false⟩⟩

/-- A pipeline with tools that do nothing and end well. -/
def pipeline : Pipeline Unit Event where
  toolchain := Toolchain.ofRoot (Bytes.ofString "t")
  tools := ⟨fun _ tools disk => (.ended (ToolOutput.ofBytes true []), tools, disk)⟩
  observer := Observer.full

/-- The support file of the toolchain. -/
def supportFile : Path := pipeline.toolchain.supportFile

/-- What it holds. -/
def data : Bytes := Bytes.ofString "x"

/-- A disk with the program and the support file. -/
def disk : Disk :=
  Effect.applyAll ⟨[], []⟩
    [.write (Bytes.ofString "m.p") (Bytes.ofString "main machine M") false,
      .write supportFile data false]

theorem leavesAlone (output : Path) :
    pipeline.LeavesAlone (request output) () disk supportFile := by
  intro stage here main? disk₁ disk₂ reply tools₂ _ answered
  cases answered
  rfl

/-- The support file is lost. -/
theorem support_lost :
    disk.fileData? supportFile = some data ∧
      pipeline.LeavesAlone (request pipeline.toolchain.includeFolder) () disk supportFile ∧
      ((pipeline.run (request pipeline.toolchain.includeFolder)).run () disk).disk.fileData?
        supportFile = none :=
  ⟨by decide +kernel, leavesAlone _, by decide +kernel⟩

/-- A request with another output directory. -/
def elsewhere : Request := request (Bytes.ofString "out")

/-- Its run comes to the model check. -/
def here : Pipeline.Reached pipeline elsewhere () disk .modelCheck :=
  .ofResult [.domainCompile] [] ⟨[.domainCompile], Artifacts.ofRequest elsewhere, none⟩ (by decide)
    (by decide +kernel)

/-- The disk with the copied support file. -/
def copied : Disk :=
  (Disk.copyFile supportFile (Artifacts.ofRequest elsewhere).support here.disk).2

theorem copyFile_copied :
    Disk.copyFile supportFile (Artifacts.ofRequest elsewhere).support here.disk =
      (.ok (), copied) := by
  have well : (Disk.copyFile supportFile (Artifacts.ofRequest elsewhere).support here.disk).1 =
      .ok () := by decide +kernel
  rw [copied, ← well, Prod.eta]

/-- The run keeps the support file, so its model check spares it. -/
theorem support_spared : Pipeline.Spares pipeline elsewhere data here.disk copied := by
  have held : disk.fileData? supportFile = some data := by decide +kernel
  have kept : ((pipeline.run elsewhere).run () disk).disk.fileData? supportFile = some data := by
    decide +kernel
  have answered : pipeline.tools.answer
      (pipeline.toolchain.modelCheckCall (Artifacts.ofRequest elsewhere)) here.tools copied =
        (.ended (ToolOutput.ofBytes true []), here.tools, copied) := rfl
  have alone : pipeline.LeavesAlone elsewhere () disk supportFile := leavesAlone _
  exact (Pipeline.support_survives_iff pipeline elsewhere () disk held alone).mp kept here
    copyFile_copied answered

end SupportFolder

end StagedBuild
