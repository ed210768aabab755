import Mathlib.Data.List.Basic
import StagedBuild.Proofs.ArtifactLayout
import StagedBuild.Proofs.DiskSteps
import StagedBuild.Proofs.NativeVerdict
import StagedBuild.Proofs.RunProtocol

/-!
# What a call is made of

`Toolchain.callFor` gives the call of a stage from the tools, the source, the output
directory, the name of the unit and, for the project generation, the name of the
main machine.  Nothing else goes into a call (`callOf_eq_callFor`).

A call in the log of a run was made by a stage that the run came to, and what stands
before it is the log up to there and the lead-up of the stage (`run_called`).  So
what the stage saw can be read off there: the project generation has read the
program on the disk that its tool sees, and the native build has a project
generation before it that went well.
-/

namespace StagedBuild

/-! ## Calls -/

namespace Toolchain

/-- The call of a stage for a unit and a main machine. -/
def callFor (toolchain : Toolchain) (source output : Path) (unitName mainMachine : String) :
    Stage → Invocation
  | .domainCompile =>
      ⟨toolchain.domainCompiler,
        [Bytes.ofString "/doNotErase", source, toolchain.dataFolder,
          Bytes.ofString "/outputDir:" ++ output], none⟩
  | .modelCheck =>
      ⟨toolchain.modelChecker,
        [Bytes.ofString "-nowarning:292", Bytes.ofString "output.zing",
          Bytes.ofString "SMRuntime.zing", Bytes.ofString ("/out:" ++ (unitName ++ ".dll"))],
        some output⟩
  | .generateProject =>
      ⟨toolchain.projectGenerator,
        [output, Bytes.ofString unitName, toolchain.includeFolder, toolchain.libraryFolder,
          Bytes.ofString mainMachine,
          Bytes.ofString (if toolchain.testHarness then "true" else "false")], none⟩
  | .nativeBuild =>
      ⟨toolchain.nativeBuild, [output.join (Bytes.ofString (unitName ++ ".vcxproj"))], none⟩

/-- What a stage calls is made of the parts of its request that do not depend on the
stages that are chosen. -/
theorem callOf_eq_callFor (toolchain : Toolchain) {source output : Path} {choice : StageChoice}
    {request : Request} (made : Request.make source output choice = .ok request) (stage : Stage)
    (main? : Option String) :
    toolchain.callOf request stage main? =
      toolchain.callFor source output request.unitName (main?.getD "") stage := by
  have layout := Artifacts.layout_of_make made
  obtain ⟨unitName, _, rfl⟩ := Request.make_eq_ok made
  cases stage with
  | domainCompile => rfl
  | generateProject => rfl
  | nativeBuild => rfl
  | modelCheck =>
    have args := modelCheckCall_args toolchain (Artifacts.ofUnit output unitName)
    have model : nameOrPath (Artifacts.ofUnit output unitName).model = _ :=
      nameOrPath_of_liesIn layout.model
    have support : nameOrPath (Artifacts.ofUnit output unitName).support = _ :=
      nameOrPath_of_liesIn layout.support
    have library : nameOrPath (Artifacts.ofUnit output unitName).library = _ :=
      nameOrPath_of_liesIn layout.library
    rw [model, support, library, Artifacts.named, ← Bytes.ofString_append] at args
    exact congrArg (Invocation.mk toolchain.modelChecker · (some output)) args

end Toolchain

namespace Request

variable {source output : Path} {choice : StageChoice} {request : Request}

theorem choice_of_make (made : make source output choice = .ok request) :
    request.choice = choice := by
  obtain ⟨unitName, _, rfl⟩ := make_eq_ok made
  rfl

/-- A request for a native build is one for its project. -/
theorem generates_of_builds (made : make source output choice = .ok request)
    (builds : request.choice.nativeBuild = true) : request.choice.generateProject = true := by
  obtain ⟨unitName, _, rfl⟩ := make_eq_ok made
  by_contra lacks
  have clash : (choice.nativeBuild && !choice.generateProject) = true := by
    simpa using And.intro builds lacks
  rw [make, if_pos clash] at made
  cases made

end Request

namespace Pipeline

variable {σ ε : Type}

/-! ## One stage -/

/-- What is logged of a stage before its call. -/
def leadUp : Stage → String → List Event
  | .generateProject, name => [.started .generateProject, .foundMain name]
  | stage, _ => [.started stage]

/-- The log before a call of the project generator tells the stage and the name. -/
theorem append_leadUp_inj {before front : List Event} {stage : Stage} {name name' : String}
    (h : before ++ leadUp .generateProject name = front ++ leadUp stage name') :
    stage = .generateProject ∧ name' = name ∧ front = before := by
  have ends := congrArg List.getLast? h
  cases stage with
  | generateProject =>
    obtain ⟨same, last⟩ := List.append_inj' h rfl
    cases last
    exact ⟨rfl, rfl, same.symm⟩
  | _ => simp [leadUp] at ends

theorem called_notMem_leadUp (stage : Stage) (name : String) (call : Invocation) (disk : Disk)
    (reply : Reply) : .called call disk reply ∉ leadUp stage name := by
  cases stage <;> simp [leadUp]

/-- The log of a stage is its lead-up, its call and what follows that. -/
theorem opening_eq {toolchain : Toolchain} {request : Request} {stage : Stage}
    {main? : Option String} {disk : Disk} {reply : Reply}
    (named : main?.isSome = true ↔ stage = .generateProject) :
    Protocol.opening toolchain request stage main? disk reply =
      leadUp stage (main?.getD "") ++
        [.called (toolchain.callOf request stage main?) disk reply] := by
  cases main? with
  | none =>
    cases stage with
    | generateProject => exact absurd (named.mpr rfl) nofun
    | _ => rfl
  | some name =>
    cases named.mp rfl
    rfl

/-- The project generation gets ready by reading the program, which changes nothing. -/
theorem prepare_generateProject {pipeline : Pipeline σ ε} {request : Request}
    {disk disk₁ : Disk} {main? : Option String}
    (h : pipeline.prepare request .generateProject disk = (.ok main?, disk₁)) :
    disk₁ = disk ∧ ∃ bytes, Disk.readFile request.source disk = (.ok bytes, disk) ∧
      main? = pipeline.mainMachine? (Utf8.decode bytes) := by
  have unchanged := Disk.readFile_disk request.source disk
  simp only [prepare] at h
  cases read : (Disk.readFile request.source disk).1 with
  | error cause =>
    rw [read] at h
    cases h
  | ok bytes =>
    simp only [read] at h
    cases found : pipeline.mainMachine? (Utf8.decode bytes) with
    | none =>
      rw [found] at h
      cases h
    | some name =>
      rw [found] at h
      cases h
      exact ⟨unchanged, bytes, Prod.ext read unchanged, found.symm⟩

/-- A stage that ended well has looked up the main machine that it gives. -/
theorem stage_main {pipeline : Pipeline σ ε} {request : Request} {stage : Stage}
    {tools tools' : σ} {disk disk' : Disk} {log : List ε} {main? : Option String}
    (done : (pipeline.stage request stage).run tools disk = ⟨log, .ok main?, tools', disk'⟩) :
    ∃ disk₁, pipeline.prepare request stage disk = (.ok main?, disk₁) := by
  rcases stage_cases pipeline request stage tools disk with
    ⟨error, disk₁, _, ran⟩ |
      ⟨name?, disk₁, reply, tools₂, disk₂, result, ready, _, _, ran⟩
  · rw [ran] at done
    cases done
  · rw [ran] at done
    cases result with
    | error why => cases done
    | ok u =>
      cases done
      exact ⟨disk₁, ready⟩

/-- A call in the log of a stage is the one that it makes, behind its lead-up. -/
theorem stage_called (pipeline : Pipeline σ ε) {request : Request} {stage : Stage} {tools : σ}
    {disk seen : Disk} {front behind : List Event} {call : Invocation} {reply : Reply}
    (h : (((pipeline.watchedBy Observer.full).stage request stage).run tools disk).log =
      front ++ .called call seen reply :: behind) :
    ∃ main?, (pipeline.watchedBy Observer.full).prepare request stage disk = (.ok main?, seen) ∧
      call = pipeline.toolchain.callOf request stage main? ∧
      front = leadUp stage (main?.getD "") := by
  rcases stage_cases (pipeline.watchedBy Observer.full) request stage tools disk with
    ⟨error, disk₁, _, ran⟩ |
      ⟨main?, disk₁, reply', tools₂, disk₂, result, ready, _, _, ran⟩
  · have inside : .called call seen reply ∈ [Event.started stage, .failed stage error] := by
      rw [ran] at h
      have whole : [Event.started stage, .failed stage error] = _ := h
      rw [whole]
      exact List.mem_append_right _ (.head _)
    simp at inside
  · have quiet : .called call seen reply ∉ Observer.full.ending stage result := by
      cases result with
      | ok u => simp [Observer.ending, Observer.full]
      | error why => cases why <;> simp [Observer.ending, Observer.full]
    rw [ran, observer_watchedBy, toolchain_watchedBy, full_log,
      opening_eq (isSome_of_prepare ready), List.append_assoc, List.singleton_append,
      List.append_cons_inj_of_notMem (called_notMem_leadUp _ _ _ _ _) quiet] at h
    obtain ⟨front_eq, event_eq, _⟩ := h
    cases event_eq
    exact ⟨main?, ready, rfl, front_eq.symm⟩

/-! ## Reports -/

/-- What some stages that ended well have added to a report. -/
theorem stages_report {pipeline : Pipeline σ ε} {request : Request} {report final : Report}
    {planned : List Stage} {tools : σ} {disk : Disk}
    (h : ((pipeline.stages request report planned).run tools disk).result = .ok final) :
    final.stagesRun = report.stagesRun ++ planned ∧ final.artifacts = report.artifacts ∧
      (.generateProject ∉ planned → final.mainMachine = report.mainMachine) ∧
      (.generateProject ∈ planned → final.mainMachine.isSome = true) := by
  induction planned generalizing report tools disk with
  | nil =>
    cases h
    exact ⟨(List.append_nil _).symm, rfl, fun _ => rfl, nofun⟩
  | cons next later ih =>
    cases done : (pipeline.stage request next).run tools disk with
    | mk log result tools' disk' =>
      cases result with
      | error why =>
        rw [stages_cons, Build.run_bind_error done] at h
        cases h
      | ok main? =>
        rw [stages_cons, Build.run_bind_ok done, Ended.result_behind] at h
        obtain ⟨ran, artifacts, kept, found⟩ := ih h
        obtain ⟨disk₁, ready⟩ := stage_main done
        have named := isSome_of_prepare ready
        refine ⟨?_, artifacts, ?_, ?_⟩
        · rw [ran, Report.stagesRun_withStage, List.append_assoc, List.singleton_append]
        · intro absent
          rw [List.mem_cons, not_or] at absent
          have unnamed : main? = none := by
            rw [← Option.not_isSome_iff_eq_none, named]
            exact Ne.symm absent.1
          rw [kept absent.2, unnamed]
          rfl
        · intro present
          by_cases again : .generateProject ∈ later
          · exact found again
          · have first : next = .generateProject :=
              ((List.mem_cons.mp present).resolve_right again).symm
            obtain ⟨name, rfl⟩ := Option.isSome_iff_exists.mp (named.mpr first)
            rw [kept again]
            rfl

/-! ## The run -/

variable {pipeline : Pipeline σ ε} {request : Request} {tools₀ : σ} {disk₀ : Disk}

/-- A call in the log of a run was made by a stage that the run came to. -/
theorem run_called {earlier later : List Event} {call : Invocation} {seen : Disk} {reply : Reply}
    (h : (((pipeline.watchedBy Observer.full).run request).run tools₀ disk₀).log =
      earlier ++ .called call seen reply :: later) :
    ∃ stage, ∃ here : Reached (pipeline.watchedBy Observer.full) request tools₀ disk₀ stage,
      ∃ main?, (pipeline.watchedBy Observer.full).prepare request stage here.disk =
          (.ok main?, seen) ∧
        call = pipeline.toolchain.callOf request stage main? ∧
        earlier = here.log ++ leadUp stage (main?.getD "") := by
  obtain ⟨stage, here, front, behind, rfl, logged⟩ := run_logged h
  obtain ⟨main?, ready, call_eq, rfl⟩ := stage_called pipeline logged
  exact ⟨stage, here, main?, ready, call_eq, rfl⟩

/-- A run that succeeds reports all planned stages, where the artifacts are, and a main
machine if and only if it generated a project. -/
theorem run_report {report : Report}
    (well : ((pipeline.run request).run tools₀ disk₀).result = .ok report) :
    report.stagesRun = request.planned ∧ report.artifacts = Artifacts.ofRequest request ∧
      (report.mainMachine.isSome = true ↔ request.choice.generateProject = true) := by
  rw [run_eq_runUpTo] at well
  rcases runUpTo_cases pipeline request request.planned tools₀ disk₀ with
    ⟨cause, unmade⟩ | ⟨_, made⟩
  · rw [unmade] at well
    cases well
  · rw [made] at well
    obtain ⟨stages, artifacts, unnamed, named⟩ := stages_report well
    have planned : .generateProject ∈ request.planned ↔ request.choice.generateProject = true :=
      StageChoice.mem_planned
    refine ⟨stages, artifacts, ?_⟩
    rw [← planned]
    by_cases generates : .generateProject ∈ request.planned
    · exact iff_of_true (named generates) generates
    · rw [unnamed generates]
      exact iff_of_false nofun generates

/-- The native program is reported if it was built. -/
theorem binary?_of_run {report : Report}
    (well : ((pipeline.run request).run tools₀ disk₀).result = .ok report) :
    report.binary? =
      if request.choice.nativeBuild then some (Artifacts.ofRequest request).binary else none := by
  obtain ⟨stages, artifacts, _⟩ := run_report well
  have planned : .nativeBuild ∈ request.planned ↔ request.choice.nativeBuild = true :=
    StageChoice.mem_planned
  rw [Report.binary?, stages, artifacts]
  simp only [List.contains_eq_mem, planned, decide_eq_true_eq]

/-! ## The project generation -/

/-- A call of the project generator for a main machine, behind a log. -/
structure TellsMain (pipeline : Pipeline σ ε) (request : Request) (tools₀ : σ) (disk₀ : Disk)
    (before : List Event) (call : Invocation) (seen : Disk) (name : String) : Prop where
  /-- The main machine is the fifth argument. -/
  argument : call.args[4]? = some (Bytes.ofString name)
  /-- It is the one of the program as the tool sees it. -/
  program : ∃ bytes, Disk.readFile request.source seen = (.ok bytes, seen) ∧
    pipeline.mainMachine? (Utf8.decode bytes) = some name
  /-- The tool sees what the stages before have left. -/
  behind : ∃ here : Reached (pipeline.watchedBy Observer.full) request tools₀ disk₀
    .generateProject, here.log = before ∧ here.disk = seen
  /-- It is reported if the run succeeds. -/
  reported : ∀ report, (((pipeline.watchedBy Observer.full).run request).run tools₀ disk₀).result =
    .ok report → report.mainMachine = some name

/-- A run that succeeds reports the main machine that its project generation looked
up. -/
theorem Reached.reports_main (here : Reached pipeline request tools₀ disk₀ .generateProject)
    {name : String} {disk₁ : Disk} {report : Report}
    (ready : pipeline.prepare request .generateProject here.disk = (.ok (some name), disk₁))
    (well : ((pipeline.run request).run tools₀ disk₀).result = .ok report) :
    report.mainMachine = some name := by
  cases done : (pipeline.stage request .generateProject).run here.tools here.disk with
  | mk log result tools disk =>
    cases result with
    | error why =>
      rw [here.run_of_stop done] at well
      cases well
    | ok main? =>
      obtain ⟨disk₂, again⟩ := stage_main done
      rw [ready] at again
      cases again
      rw [here.run_of_done done, Ended.result_behind] at well
      obtain ⟨_, _, kept, _⟩ := stages_report well
      rw [kept here.not_mem_later]
      rfl

/-- What the project generator is told. -/
theorem Reached.tellsMain (here : Reached (pipeline.watchedBy Observer.full) request tools₀ disk₀
    .generateProject) {main? : Option String} {seen : Disk}
    (ready : (pipeline.watchedBy Observer.full).prepare request .generateProject here.disk =
      (.ok main?, seen)) :
    TellsMain pipeline request tools₀ disk₀ here.log
      (pipeline.toolchain.callOf request .generateProject main?) seen (main?.getD "") := by
  obtain ⟨name, rfl⟩ := Option.isSome_iff_exists.mp ((isSome_of_prepare ready).mpr rfl)
  obtain ⟨rfl, bytes, read, found⟩ := prepare_generateProject ready
  exact ⟨rfl, ⟨bytes, read, found.symm⟩, ⟨here, rfl, rfl⟩, fun _ => here.reports_main ready⟩

/-! ## The native build -/

/-- A native build behind a log, of the project that was generated there. -/
def BuildsProject (generatorFor : String → Invocation) (before : List Event)
    (call : Invocation) : Prop :=
  ∃ front rest name seen printed folder unit others,
    before = front ++ (leadUp .generateProject name ++
      .called (generatorFor name) seen (.ended printed) :: .completed .generateProject :: rest) ∧
    printed.succeeded = true ∧ (generatorFor name).args = folder :: unit :: others ∧
    call.args = [Path.join folder (unit ++ Bytes.ofString ".vcxproj")]

/-- A run that comes to the native build has generated the project. -/
theorem Reached.generated (here : Reached (pipeline.watchedBy Observer.full) request tools₀ disk₀
    .nativeBuild) (generates : request.choice.generateProject = true) :
    ∃ front rest name seen output,
      here.log = front ++ (leadUp .generateProject name ++
        .called (pipeline.toolchain.callOf request .generateProject (some name)) seen
          (.ended output) :: .completed .generateProject :: rest) ∧
      output.succeeded = true := by
  have mem : .generateProject ∈ here.before := by
    have planned : .generateProject ∈ request.planned :=
      StageChoice.mem_planned.mpr generates
    rw [here.planned, later_of_nativeBuild here.planned, List.mem_append] at planned
    exact planned.resolve_right nofun
  obtain ⟨there, log, main?, tools, disk, rest, done, log_eq⟩ := here.earlier mem
  have block := stage_follows pipeline done
  cases block with
  | @passed _ output _ _ asked well =>
    cases asked with
    | @intro _ seen _ _ _ _ named =>
    obtain ⟨name, rfl⟩ := Option.isSome_iff_exists.mp (named.mpr rfl)
    refine ⟨there.log, rest, name, seen, output, ?_, ?_⟩
    · rw [log_eq]
      simp [leadUp, Protocol.opening]
    · have exits : Stage.generateProject ≠ .nativeBuild := nofun
      rw [verdict_other exits, checkExit] at well
      by_contra failed
      rw [if_neg failed] at well
      cases well

/-- What the native build tool is told. -/
theorem Reached.buildsProject {source output : Path} {choice : StageChoice}
    (made : Request.make source output choice = .ok request)
    (here : Reached (pipeline.watchedBy Observer.full) request tools₀ disk₀ .nativeBuild)
    (main? : Option String) :
    BuildsProject (pipeline.toolchain.callFor source output request.unitName · .generateProject)
      here.log (pipeline.toolchain.callOf request .nativeBuild main?) := by
  have planned : .nativeBuild ∈ request.planned := by
    rw [here.planned]
    exact List.mem_append_right _ (.head _)
  have generates := Request.generates_of_builds made (StageChoice.mem_planned.mp planned)
  obtain ⟨front, rest, name, seen, printed, log_eq, well⟩ := here.generated generates
  rw [Toolchain.callOf_eq_callFor _ made] at log_eq ⊢
  refine ⟨front, rest, name, seen, printed, output, Bytes.ofString request.unitName, _, log_eq,
    well, rfl, ?_⟩
  rw [← Bytes.ofString_append]
  rfl

/-- The calls of a run and what they are made of.

A call stands behind the lead-up of its stage and is the one for the source, the output
directory and the name of the unit, whatever other stages are chosen and whatever tools
printed.  The project generator is told the main machine of the program as it sees it,
and that is reported.  The native build follows a project generation that went well, of
the same directory and unit.

A run that succeeds reports a main machine if and only if it generated a project, and
the native program if and only if it built one. -/
theorem data_flow (pipeline : Pipeline σ ε) (tools₀ : σ) (disk₀ : Disk) {source output : Path}
    {choice : StageChoice} {request : Request}
    (made : Request.make source output choice = .ok request) :
    let ended := ((pipeline.watchedBy Observer.full).run request).run tools₀ disk₀
    let callFor := pipeline.toolchain.callFor source output request.unitName
    (∀ earlier call seen reply later, ended.log = earlier ++ .called call seen reply :: later →
      ∃ stage name before, choice.contains stage = true ∧ earlier = before ++ leadUp stage name ∧
        call = callFor name stage ∧
        (stage = .generateProject →
          TellsMain pipeline request tools₀ disk₀ before call seen name) ∧
        (stage = .nativeBuild → BuildsProject (callFor · .generateProject) before call)) ∧
    ∀ report, ended.result = .ok report →
      (report.mainMachine.isSome = true ↔ choice.generateProject = true) ∧
      report.binary? =
        if choice.nativeBuild then some (Artifacts.ofRequest request).binary else none := by
  intro ended callFor
  have choice_eq := Request.choice_of_make made
  refine ⟨?_, ?_⟩
  · intro earlier call seen reply later h
    obtain ⟨stage, here, main?, ready, rfl, rfl⟩ := run_called h
    have planned : stage ∈ request.planned := by
      rw [here.planned]
      exact List.mem_append_right _ (.head _)
    rw [Request.planned, choice_eq] at planned
    refine ⟨stage, main?.getD "", here.log, StageChoice.mem_planned.mp planned, rfl,
      Toolchain.callOf_eq_callFor _ made stage main?, ?_, ?_⟩
    · rintro rfl
      exact here.tellsMain ready
    · rintro rfl
      exact here.buildsProject made main?
  · intro report well
    rw [← choice_eq]
    exact ⟨(run_report well).2.2, binary?_of_run well⟩

end Pipeline

/-! ## A program that the compiler rewrites -/

namespace RewrittenSource

/-- A path that is no valid text. -/
def source : Path := 0xFF :: Bytes.ofString ".p"

def output : Path := [0xFE]

def choice : StageChoice := ⟨false, true, true⟩

/-- The unit is named by a replacement character. -/
def request : Request := ⟨source, output, "\uFFFD", choice⟩

/-- A pipeline with scripted tools. -/
def pipeline : Pipeline Script Event where
  toolchain := Toolchain.ofRoot (Bytes.ofString "t")
  tools := Script.toolbox
  observer := Observer.full

/-- What the compiler does. -/
def rewrite : Effect := .write source (Bytes.ofString "main machine New") false

def script : Script :=
  [.ended true [] [rewrite], .ended true [] [], .ended true (Bytes.ofString "Build succeeded.") []]

def disk : Disk :=
  Effect.applyAll ⟨[], []⟩ [.write source (Bytes.ofString "main machine Old") false]

/-- The disk with the output directory. -/
def made : Disk := (Disk.makeFolders output disk).2

/-- The disk that the project generator sees. -/
def seen : Disk := rewrite.apply made

def callFor : Stage → Invocation := pipeline.toolchain.callFor source output "\uFFFD" "New"

/-- The log before the project generation. -/
def before : List Event :=
  [.started .domainCompile,
    .called (callFor .domainCompile) made (.ended (ToolOutput.ofBytes true [])),
    .completed .domainCompile]

theorem run_log :
    ((pipeline.run request).run script disk).log =
      (before ++ Pipeline.leadUp .generateProject "New") ++
        .called (callFor .generateProject) seen (.ended (ToolOutput.ofBytes true [])) ::
          [.completed .generateProject, .started .nativeBuild,
            .called (callFor .nativeBuild) seen
              (.ended (ToolOutput.ofBytes true (Bytes.ofString "Build succeeded."))),
            .completed .nativeBuild] := by
  decide +kernel

/-- The project generator is told the main machine that the compiler wrote. -/
theorem generator_told :
    Pipeline.TellsMain pipeline request script disk before (callFor .generateProject) seen
      "New" := by
  have asked : Request.make source output choice = .ok request := by decide
  obtain ⟨stage, name, front, _, split, _, tells, _⟩ :=
    (Pipeline.data_flow pipeline script disk asked).1 _ _ _ _ _ run_log
  obtain ⟨rfl, rfl, rfl⟩ := Pipeline.append_leadUp_inj split
  exact tells rfl

end RewrittenSource

end StagedBuild
