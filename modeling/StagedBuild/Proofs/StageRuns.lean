import StagedBuild.Pipeline
import StagedBuild.Proofs.Steps

/-!
# What a stage does

Every stage gets ready on the disk, calls its tool once and cleans up, whatever
the tool does.  `prepare`, `callOf`, `cleanUp` and `outcome` say what these are
for each stage.  `run_body_unready` and `run_body_called` say that the body of a
stage is just that, so a fact about all stages needs no case for each of them.
`run_stage` adds the events at both ends.
-/

namespace StagedBuild

/-- The call of the tool of a stage.  Only the project generator is told the main
machine. -/
def Toolchain.callOf (toolchain : Toolchain) (request : Request) :
    Stage → Option String → Invocation
  | .domainCompile, _ => toolchain.domainCompileCall request
  | .modelCheck, _ => toolchain.modelCheckCall (Artifacts.ofRequest request)
  | .generateProject, main? => toolchain.generateCall request (main?.getD "")
  | .nativeBuild, _ => toolchain.nativeBuildCall (Artifacts.ofRequest request)

/-- What is logged at the end of a stage. -/
def Observer.ending {ε α : Type} (observer : Observer ε) (stage : Stage) :
    Except Stop α → List ε
  | .ok _ => observer.completed stage
  | .error (.failed error) => observer.failed stage error
  | .error .thrown => []

namespace Pipeline

variable {σ ε : Type}

/-- What a stage does on the disk before its call.  The result is the main
machine, if the stage looks it up. -/
def prepare (pipeline : Pipeline σ ε) (request : Request) :
    Stage → Disk → Except BuildError (Option String) × Disk
  | .domainCompile, disk => (.ok none, disk)
  | .modelCheck, disk =>
      let copied := Disk.copyFile pipeline.toolchain.supportFile
        (Artifacts.ofRequest request).support disk
      match copied.1 with
      | .ok () => (.ok none, copied.2)
      | .error cause => (.error (.file pipeline.toolchain.supportFile cause), copied.2)
  | .generateProject, disk =>
      let read := Disk.readFile request.source disk
      match read.1 with
      | .error cause => (.error (.file request.source cause), read.2)
      | .ok bytes =>
          match pipeline.mainMachine? (Utf8.decode bytes) with
          | some name => (.ok (some name), read.2)
          | none => (.error (.noMainMachine request.source), read.2)
  | .nativeBuild, disk => (.ok none, disk)

/-- Whether the tool of a stage did what the stage asks for. -/
def verdict : Stage → ToolOutput → Except BuildError Unit
  | .domainCompile => checkExit .domainCompile
  | .modelCheck => checkExit .modelCheck
  | .generateProject => checkExit .generateProject
  | .nativeBuild => checkVerdict

/-- What a stage does on the disk after its call. -/
def cleanUp (request : Request) : Stage → Disk → Except BuildError Unit × Disk
  | .modelCheck, disk =>
      let removed := Disk.unlink (Artifacts.ofRequest request).support disk
      (removed.1.mapError (.file (Artifacts.ofRequest request).support), removed.2)
  | _, disk => (.ok (), disk)

/-- The paths that a stage unlinks after its call. -/
def unlinked (request : Request) : Stage → List Path
  | .modelCheck => [(Artifacts.ofRequest request).support]
  | _ => []

/-- What a verdict makes of a reply. -/
def judged (check : ToolOutput → Except BuildError Unit) : Reply → Except Stop Unit
  | .thrown => .error .thrown
  | .ended output => (check output).mapError .failed

/-- What a stage makes of the reply of its tool and of its own cleaning up.  A
failed tool goes before a failed removal. -/
def outcome (stage : Stage) (cleaned : Except BuildError Unit) (reply : Reply) :
    Except Stop Unit :=
  match judged (verdict stage) reply with
  | .error why => .error why
  | .ok () => cleaned.mapError .failed

/-- The tool and the cleaning up both went well, or the first of them that did not
gives the error. -/
theorem outcome_ended (stage : Stage) (cleaned : Except BuildError Unit) (output : ToolOutput) :
    (verdict stage output = .ok () ∧ cleaned = .ok () ∧
      outcome stage cleaned (.ended output) = .ok ()) ∨
    ∃ error, (verdict stage output = .error error ∨
        (verdict stage output = .ok () ∧ cleaned = .error error)) ∧
      outcome stage cleaned (.ended output) = .error (.failed error) := by
  simp only [outcome, judged]
  cases verdict stage output with
  | error error => exact .inr ⟨error, .inl rfl, rfl⟩
  | ok u =>
    cases cleaned with
    | error error => exact .inr ⟨error, .inr ⟨rfl, rfl⟩, rfl⟩
    | ok u => exact .inl ⟨rfl, rfl, rfl⟩

/-- All stages but the native build go by the exit status. -/
theorem verdict_other {stage : Stage} (other : stage ≠ .nativeBuild) :
    verdict stage = checkExit stage := by
  cases stage with
  | nativeBuild => exact absurd rfl other
  | _ => rfl

theorem outcome_of_refused {stage : Stage} {output : ToolOutput} {error : BuildError}
    (refused : verdict stage output = .error error) (cleaned : Except BuildError Unit) :
    outcome stage cleaned (.ended output) = .error (.failed error) := by
  simp only [outcome, judged, refused, mapError_error]

theorem outcome_of_passed {stage : Stage} {output : ToolOutput}
    (passed : verdict stage output = .ok ()) (cleaned : Except BuildError Unit) :
    outcome stage cleaned (.ended output) = cleaned.mapError .failed := by
  simp only [outcome, judged, passed, mapError_ok]

/-! ## Getting ready -/

/-- The stage that looks the main machine up is the project generation. -/
theorem isSome_of_prepare {pipeline : Pipeline σ ε} {request : Request} {stage : Stage}
    {disk disk' : Disk} {main? : Option String}
    (h : pipeline.prepare request stage disk = (.ok main?, disk')) :
    main?.isSome = true ↔ stage = .generateProject := by
  cases stage with
  | domainCompile => cases h; simp
  | nativeBuild => cases h; simp
  | modelCheck =>
    simp only [prepare] at h
    split at h
    · cases h; simp
    · cases h
  | generateProject =>
    simp only [prepare] at h
    split at h
    · cases h
    · split at h
      · cases h; simp
      · cases h

/-- The model checker is ready once the support file is copied. -/
theorem prepare_modelCheck {pipeline : Pipeline σ ε} {request : Request} {disk disk₁ : Disk}
    {main? : Option String} :
    pipeline.prepare request .modelCheck disk = (.ok main?, disk₁) ↔
      main? = none ∧ Disk.copyFile pipeline.toolchain.supportFile
        (Artifacts.ofRequest request).support disk = (.ok (), disk₁) := by
  simp only [prepare]
  generalize Disk.copyFile pipeline.toolchain.supportFile (Artifacts.ofRequest request).support
    disk = copied
  obtain ⟨result, after⟩ := copied
  cases result with
  | error cause => exact ⟨nofun, nofun⟩
  | ok u =>
    constructor
    · intro h
      cases h
      exact ⟨rfl, rfl⟩
    · rintro ⟨rfl, h⟩
      cases h
      rfl

/-! ## Calls -/

theorem run_call {toolbox : Toolbox σ} {observer : Observer ε} {call : Invocation}
    {tools tools' : σ} {disk disk' : Disk} {reply : Reply}
    (h : toolbox.answer call tools disk = (reply, tools', disk')) :
    (toolbox.call observer call).run tools disk =
      ⟨observer.called call disk reply, .ok reply, tools', disk'⟩ := by
  show (toolbox.call observer call) tools disk = _
  rw [Toolbox.call, h]

/-- A call with a check of what the tool printed. -/
theorem run_callTool_check {pipeline : Pipeline σ ε} {call : Invocation}
    (check : ToolOutput → Except BuildError Unit) {tools tools' : σ} {disk disk' : Disk}
    {reply : Reply} (h : pipeline.tools.answer call tools disk = (reply, tools', disk')) :
    (pipeline.callTool call >>= fun output => Build.ofResult (check output)).run tools disk =
      ⟨pipeline.observer.called call disk reply, judged check reply, tools', disk'⟩ := by
  rw [callTool, Build.bind_assoc, Build.run_bind_ok (run_call h)]
  cases reply with
  | thrown => simp [Build.run_bind, Ended.behind, judged]
  | ended output => simp [Ended.behind, judged]

/-! ## The four stages -/

theorem outcome_ok (stage : Stage) (reply : Reply) :
    outcome stage (.ok ()) reply = judged (verdict stage) reply := by
  rw [outcome]
  split
  · next why h => exact h.symm
  · next h => exact h.symm

theorem run_domainCompile {pipeline : Pipeline σ ε} {request : Request} {tools tools' : σ}
    {disk disk' : Disk} {reply : Reply}
    (h : pipeline.tools.answer (pipeline.toolchain.domainCompileCall request) tools disk =
      (reply, tools', disk')) :
    (pipeline.domainCompile request).run tools disk =
      ⟨pipeline.observer.called (pipeline.toolchain.domainCompileCall request) disk reply,
        outcome .domainCompile (.ok ()) reply, tools', disk'⟩ := by
  rw [domainCompile, outcome_ok]
  exact run_callTool_check (checkExit .domainCompile) h

theorem run_nativeBuild {pipeline : Pipeline σ ε} {artifacts : Artifacts} {tools tools' : σ}
    {disk disk' : Disk} {reply : Reply}
    (h : pipeline.tools.answer (pipeline.toolchain.nativeBuildCall artifacts) tools disk =
      (reply, tools', disk')) :
    (pipeline.nativeBuild artifacts).run tools disk =
      ⟨pipeline.observer.called (pipeline.toolchain.nativeBuildCall artifacts) disk reply,
        outcome .nativeBuild (.ok ()) reply, tools', disk'⟩ := by
  rw [nativeBuild, outcome_ok]
  exact run_callTool_check checkVerdict h

theorem run_lookUpMain (pipeline : Pipeline σ ε) (request : Request) (tools : σ) (disk : Disk) :
    (pipeline.lookUpMain request).run tools disk =
      ⟨[],
        match (pipeline.prepare request .generateProject disk).1 with
        | .ok main? => .ok (main?.getD "")
        | .error error => .error (.failed error),
        tools, (pipeline.prepare request .generateProject disk).2⟩ := by
  rw [lookUpMain, Build.run_bind, Build.run_onFile]
  simp only [prepare]
  cases (Disk.readFile request.source disk).1 with
  | error cause => rfl
  | ok bytes =>
    simp only [mapError_ok]
    cases pipeline.mainMachine? (Utf8.decode bytes) <;> rfl

/-- The generation of the project for a main machine. -/
theorem run_generateProject {pipeline : Pipeline σ ε} {request : Request} {name : String}
    {tools tools' : σ} {disk disk₁ disk₂ : Disk} {reply : Reply}
    (ready : pipeline.prepare request .generateProject disk = (.ok (some name), disk₁))
    (h : pipeline.tools.answer (pipeline.toolchain.generateCall request name) tools disk₁ =
      (reply, tools', disk₂)) :
    (pipeline.generateProject request).run tools disk =
      ⟨pipeline.observer.foundMain name ++
          pipeline.observer.called (pipeline.toolchain.generateCall request name) disk₁ reply,
        (outcome .generateProject (.ok ()) reply).map fun () => name, tools', disk₂⟩ := by
  have found : (pipeline.lookUpMain request).run tools disk = ⟨[], .ok name, tools, disk₁⟩ := by
    rw [run_lookUpMain, ready]
    rfl
  have noted : (Build.note (pipeline.observer.foundMain name)).run tools disk₁ =
      ⟨pipeline.observer.foundMain name, .ok (), tools, disk₁⟩ := rfl
  have checked := run_callTool_check (checkExit .generateProject) h
  rw [generateProject, Build.run_bind_ok found, Build.run_bind_ok noted, Ended.behind_nil,
    ← Build.bind_assoc, bind_pure_comp, Build.run_map, checked, outcome_ok]
  rfl

/-- The support file is copied, or the failure names its source. -/
theorem run_make (source destination : Path) (tools : σ) (disk : Disk) :
    (SupportCopy.make source destination : Build σ ε SupportCopy).run tools disk =
      ⟨[], ((Disk.copyFile source destination disk).1.mapError fun cause =>
          .failed (.file source cause)).map fun () => ⟨destination, true⟩, tools,
        (Disk.copyFile source destination disk).2⟩ := by
  rw [SupportCopy.make, Build.run_bind, Build.run_onFile]
  cases (Disk.copyFile source destination disk).1 <;> rfl

theorem run_unlinkPath (observer : Observer ε) (path : Path) (tools : σ) (disk : Disk) :
    (SupportCopy.unlinkPath observer path : Build σ ε _).run tools disk =
      ⟨observer.unlinking path, .ok (Disk.unlink path disk).1, tools,
        (Disk.unlink path disk).2⟩ := by
  have noted : (Build.note (observer.unlinking path) : Build σ ε Unit).run tools disk =
      ⟨observer.unlinking path, .ok (), tools, disk⟩ := rfl
  rw [SupportCopy.unlinkPath, Build.run_bind_ok noted, Build.run_onDisk, Ended.behind,
    List.append_nil]

/-- Removing an armed copy unlinks its path once.  The drop that follows finds the
copy disarmed. -/
theorem run_remove (observer : Observer ε) (copy : SupportCopy) (tools : σ) (disk : Disk) :
    (copy.remove observer : Build σ ε _).run tools disk =
      ⟨observer.unlinking copy.path,
        .ok ((Disk.unlink copy.path disk).1.mapError (.file copy.path)), tools,
        (Disk.unlink copy.path disk).2⟩ := by
  have unlinked := run_unlinkPath observer copy.path tools disk
  rw [SupportCopy.remove, Build.run_bind_ok unlinked]
  simp [SupportCopy.drop, Ended.behind]

/-- Dropping an armed copy unlinks its path once. -/
theorem run_drop_armed (observer : Observer ε) (path : Path) (tools : σ) (disk : Disk) :
    (SupportCopy.drop observer ⟨path, true⟩ : Build σ ε Unit).run tools disk =
      ⟨observer.unlinking path, .ok (), tools, (Disk.unlink path disk).2⟩ := by
  have unlinked := run_unlinkPath observer path tools disk
  rw [SupportCopy.drop, if_pos rfl, Build.run_bind_ok unlinked, Build.run_pure, Ended.behind,
    List.append_nil]

/-- The model check once the support file is in place.  The copy is unlinked
whether the tool ends or is thrown out. -/
theorem run_modelCheck {pipeline : Pipeline σ ε} {request : Request} {tools tools' : σ}
    {disk disk₁ disk₂ : Disk} {reply : Reply}
    (copied : Disk.copyFile pipeline.toolchain.supportFile (Artifacts.ofRequest request).support
      disk = (.ok (), disk₁))
    (h : pipeline.tools.answer (pipeline.toolchain.modelCheckCall (Artifacts.ofRequest request))
      tools disk₁ = (reply, tools', disk₂)) :
    (pipeline.modelCheck (Artifacts.ofRequest request)).run tools disk =
      ⟨pipeline.observer.called
            (pipeline.toolchain.modelCheckCall (Artifacts.ofRequest request)) disk₁ reply ++
          pipeline.observer.unlinking (Artifacts.ofRequest request).support,
        outcome .modelCheck (cleanUp request .modelCheck disk₂).1 reply, tools',
        (cleanUp request .modelCheck disk₂).2⟩ := by
  have made : (SupportCopy.make pipeline.toolchain.supportFile
      (Artifacts.ofRequest request).support : Build σ ε _).run tools disk =
      ⟨[], .ok ⟨(Artifacts.ofRequest request).support, true⟩, tools, disk₁⟩ := by
    rw [run_make, copied]
    rfl
  rw [modelCheck, Build.run_bind_ok made, Build.run_bind_ok (run_call h), Ended.behind_nil]
  cases reply with
  | thrown =>
    rw [Build.run_bind_ok (run_drop_armed ..)]
    simp [Ended.behind, outcome, judged, cleanUp]
  | ended output =>
    have removed := run_remove pipeline.observer ⟨(Artifacts.ofRequest request).support, true⟩
      tools' disk₂
    rw [Build.run_bind_ok removed]
    simp only [outcome, judged, verdict, cleanUp]
    cases checkExit .modelCheck output <;>
      simp [Build.run_bind, Ended.behind]

/-! ## All stages alike -/

/-- A stage that does not get ready calls no tool. -/
theorem run_body_unready {pipeline : Pipeline σ ε} {request : Request} {stage : Stage}
    {disk disk' : Disk} {error : BuildError} (tools : σ)
    (h : pipeline.prepare request stage disk = (.error error, disk')) :
    (pipeline.body request stage).run tools disk = ⟨[], .error (.failed error), tools, disk'⟩ := by
  cases stage with
  | domainCompile => cases h
  | nativeBuild => cases h
  | modelCheck =>
    simp only [prepare] at h
    split at h
    · cases h
    · next cause hcause =>
      cases h
      simp [body, modelCheck, SupportCopy.make, Build.run_bind, hcause]
  | generateProject =>
    have found := run_lookUpMain pipeline request tools disk
    rw [h] at found
    rw [body, Build.run_bind_error]
    rw [generateProject, Build.run_bind_error found]

/-- A stage that gets ready calls its tool once and cleans up. -/
theorem run_body_called {pipeline : Pipeline σ ε} {request : Request} {stage : Stage}
    {tools tools' : σ} {disk disk₁ disk₂ : Disk} {main? : Option String} {reply : Reply}
    (ready : pipeline.prepare request stage disk = (.ok main?, disk₁))
    (h : pipeline.tools.answer (pipeline.toolchain.callOf request stage main?) tools disk₁ =
      (reply, tools', disk₂)) :
    (pipeline.body request stage).run tools disk =
      ⟨main?.toList.flatMap pipeline.observer.foundMain ++
          (pipeline.observer.called (pipeline.toolchain.callOf request stage main?) disk₁ reply ++
            (unlinked request stage).flatMap pipeline.observer.unlinking),
        (outcome stage (cleanUp request stage disk₂).1 reply).map fun () => main?, tools',
        (cleanUp request stage disk₂).2⟩ := by
  cases stage with
  | domainCompile =>
    cases ready
    rw [body, bind_pure_comp, Build.run_map, run_domainCompile h]
    simp [unlinked, cleanUp, Toolchain.callOf]
  | nativeBuild =>
    cases ready
    rw [body, bind_pure_comp, Build.run_map, run_nativeBuild h]
    simp [unlinked, cleanUp, Toolchain.callOf]
  | modelCheck =>
    simp only [prepare] at ready
    split at ready
    · next hcopied =>
      cases ready
      have copied : Disk.copyFile pipeline.toolchain.supportFile
          (Artifacts.ofRequest request).support disk = (.ok (), _) := Prod.ext hcopied rfl
      rw [body, bind_pure_comp, Build.run_map, run_modelCheck copied h]
      simp [unlinked, Toolchain.callOf]
    · cases ready
  | generateProject =>
    obtain ⟨name, rfl⟩ := Option.isSome_iff_exists.mp ((isSome_of_prepare ready).mpr rfl)
    rw [body, bind_pure_comp, Build.run_map, run_generateProject ready h]
    cases result : outcome .generateProject (.ok ()) reply <;>
      simp [unlinked, cleanUp, Toolchain.callOf, result, Except.map]

/-- A stage is its body between its two events. -/
theorem run_stage (pipeline : Pipeline σ ε) (request : Request) (stage : Stage) (tools : σ)
    (disk : Disk) :
    (pipeline.stage request stage).run tools disk =
      let done := (pipeline.body request stage).run tools disk
      ⟨pipeline.observer.started stage ++
          (done.log ++ pipeline.observer.ending stage done.result),
        done.result, done.tools, done.disk⟩ := by
  have noted : (Build.note (pipeline.observer.started stage)).run tools disk =
      ⟨pipeline.observer.started stage, .ok (), tools, disk⟩ := rfl
  have tried := Build.run_attempt (pipeline.body request stage) tools disk
  rw [Pipeline.stage, Build.run_bind_ok noted, Build.run_bind_ok tried]
  cases result : ((pipeline.body request stage).run tools disk).result with
  | ok main? => simp [Ended.behind, Observer.ending, Except.map, result]
  | error why =>
    cases why with
    | failed error => simp [Build.run_bind, Ended.behind, Observer.ending, result]
    | thrown => simp [Ended.behind, Observer.ending, result]

/-- A stage that gets ready, with its events. -/
theorem run_stage_called {pipeline : Pipeline σ ε} {request : Request} {stage : Stage}
    {tools tools' : σ} {disk disk₁ disk₂ : Disk} {main? : Option String} {reply : Reply}
    {result : Except Stop Unit}
    (ready : pipeline.prepare request stage disk = (.ok main?, disk₁))
    (answered : pipeline.tools.answer (pipeline.toolchain.callOf request stage main?) tools disk₁ =
      (reply, tools', disk₂))
    (came : outcome stage (cleanUp request stage disk₂).1 reply = result) :
    (pipeline.stage request stage).run tools disk =
      ⟨pipeline.observer.started stage ++
          (main?.toList.flatMap pipeline.observer.foundMain ++
            (pipeline.observer.called (pipeline.toolchain.callOf request stage main?) disk₁
                reply ++
              ((unlinked request stage).flatMap pipeline.observer.unlinking ++
                pipeline.observer.ending stage result))),
        result.map fun () => main?, tools', (cleanUp request stage disk₂).2⟩ := by
  rw [run_stage, run_body_called ready answered, came]
  cases result with
  | ok u => simp [Observer.ending, Except.map]
  | error why => cases why <;> simp [Observer.ending, Except.map]

/-- What a stage can do, all in one: it does not get ready and fails, or its tool is
called once and replies. -/
theorem stage_cases (pipeline : Pipeline σ ε) (request : Request) (stage : Stage) (tools : σ)
    (disk : Disk) :
    (∃ error disk₁, pipeline.prepare request stage disk = (.error error, disk₁) ∧
      (pipeline.stage request stage).run tools disk =
        ⟨pipeline.observer.started stage ++ pipeline.observer.failed stage error,
          .error (.failed error), tools, disk₁⟩) ∨
    ∃ main? disk₁ reply tools₂ disk₂ result,
      pipeline.prepare request stage disk = (.ok main?, disk₁) ∧
      pipeline.tools.answer (pipeline.toolchain.callOf request stage main?) tools disk₁ =
        (reply, tools₂, disk₂) ∧
      outcome stage (cleanUp request stage disk₂).1 reply = result ∧
      (pipeline.stage request stage).run tools disk =
        ⟨pipeline.observer.started stage ++
            (main?.toList.flatMap pipeline.observer.foundMain ++
              (pipeline.observer.called (pipeline.toolchain.callOf request stage main?) disk₁
                  reply ++
                ((unlinked request stage).flatMap pipeline.observer.unlinking ++
                  pipeline.observer.ending stage result))),
          result.map fun () => main?, tools₂, (cleanUp request stage disk₂).2⟩ := by
  cases ready : pipeline.prepare request stage disk with
  | mk result disk₁ =>
    cases result with
    | error error =>
      rw [run_stage, run_body_unready tools ready]
      exact .inl ⟨error, disk₁, rfl, rfl⟩
    | ok main? =>
      cases answered : pipeline.tools.answer (pipeline.toolchain.callOf request stage main?)
        tools disk₁ with
      | mk reply rest =>
        obtain ⟨tools₂, disk₂⟩ := rest
        exact .inr ⟨main?, disk₁, reply, tools₂, disk₂, _, rfl, answered, rfl,
          run_stage_called ready answered rfl⟩

end Pipeline

end StagedBuild
