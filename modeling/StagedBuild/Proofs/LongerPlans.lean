import StagedBuild.Proofs.DataFlow
import StagedBuild.Script

/-!
# Runs with more stages

A stage reads all of its request but the choice of stages, so a request with another
choice has the same stages (`stage_choosing`, `stages_choosing`).  The choice only
says which of them are run.  Two requests that are made of the same source and
output differ in nothing else (`eq_choosing_of_make`).

A run of a longer plan is then the run of the shorter one, followed by the stages
that are added if it succeeds (`run_longer`).  `run_of_longer_plan` takes this apart.
-/

namespace StagedBuild

/-- A request with another choice of stages. -/
def Request.choosing (request : Request) (choice : StageChoice) : Request :=
  { request with choice := choice }

/-- Requests of one source and one output differ in their choice of stages. -/
theorem Request.eq_choosing_of_make {source output : Path} {choice wider : StageChoice}
    {request longer : Request} (made : make source output choice = .ok request)
    (made' : make source output wider = .ok longer) : longer = request.choosing wider := by
  obtain ⟨unitName, named, rfl⟩ := make_eq_ok made
  obtain ⟨unitName', named', rfl⟩ := make_eq_ok made'
  rw [named] at named'
  cases named'
  rfl

namespace Pipeline

variable {σ ε : Type}

/-! ## Stages of requests that differ in their choice -/

theorem stage_choosing (pipeline : Pipeline σ ε) (request : Request) (choice : StageChoice)
    (stage : Stage) :
    pipeline.stage (request.choosing choice) stage = pipeline.stage request stage := by
  cases stage <;> rfl

theorem stages_choosing (pipeline : Pipeline σ ε) (request : Request) (choice : StageChoice)
    (report : Report) (planned : List Stage) :
    pipeline.stages (request.choosing choice) report planned =
      pipeline.stages request report planned := by
  induction planned generalizing report with
  | nil => rfl
  | cons next later ih =>
    rw [stages_cons, stages_cons, stage_choosing]
    exact congrArg _ (funext fun main? => ih (report.withStage next main?))

theorem runUpTo_choosing (pipeline : Pipeline σ ε) (request : Request) (choice : StageChoice)
    (before : List Stage) :
    pipeline.runUpTo (request.choosing choice) before = pipeline.runUpTo request before := by
  rw [runUpTo, runUpTo]
  exact congrArg _ (funext fun _ => stages_choosing pipeline request choice _ before)

/-! ## Longer plans -/

variable {pipeline : Pipeline σ ε} {tools : σ} {disk : Disk} {source output : Path}
  {choice wider : StageChoice} {request longer : Request} {added : List Stage}

/-- What the shorter plan does is done first, and the added stages go on from its
report. -/
theorem run_longer (made : Request.make source output choice = .ok request)
    (made' : Request.make source output wider = .ok longer)
    (planned : longer.planned = request.planned ++ added) :
    pipeline.run longer =
      pipeline.run request >>= fun report => pipeline.stages longer report added := by
  rw [run_eq_runUpTo, planned, runUpTo_append, Request.eq_choosing_of_make made made',
    runUpTo_choosing, run_eq_runUpTo]

/-- A run of a longer plan that comes to the first added stage as the shorter run ends. -/
theorem reached_added {next : Stage} {later : List Stage} {log : List ε} {report : Report}
    {tools' : σ} {disk' : Disk} (made : Request.make source output choice = .ok request)
    (made' : Request.make source output wider = .ok longer)
    (planned : longer.planned = request.planned ++ next :: later)
    (ran : (pipeline.run request).run tools disk = ⟨log, .ok report, tools', disk'⟩) :
    ∃ here : Reached pipeline longer tools disk next,
      here.before = request.planned ∧ here.log = log ∧ here.tools = tools' ∧
        here.disk = disk' := by
  have same : pipeline.runUpTo longer request.planned = pipeline.run request := by
    rw [Request.eq_choosing_of_make made made', runUpTo_choosing, run_eq_runUpTo]
  rw [← same] at ran
  exact ⟨⟨request.planned, later, planned, log, report, tools', disk', ran⟩, rfl, rfl, rfl, rfl⟩

/-- The log goes on with the start of the stage that a run has come to. -/
theorem Reached.log_started {stage : Stage} (here : Reached pipeline request tools disk stage) :
    ∃ rest, ((pipeline.run request).run tools disk).log =
      here.log ++ (pipeline.observer.started stage ++ rest) := by
  have started := run_stage pipeline request stage here.tools here.disk
  cases done : (pipeline.stage request stage).run here.tools here.disk with
  | mk log result tools' disk' =>
    have log_eq : log = _ := congrArg Ended.log (done.symm.trans started)
    cases result with
    | error why =>
      rw [here.run_of_stop done, log_eq]
      exact ⟨_, rfl⟩
    | ok main? =>
      rw [here.run_of_done done, Ended.log_behind, log_eq]
      exact ⟨_, by rw [List.append_assoc, List.append_assoc]⟩

/-- More stages behind a plan change nothing of what it does.  If the run of the shorter
plan stops, the longer run does and logs the same and stops in the same way.  If it
succeeds, the longer run has logged the same when it comes to the first added stage, and
starts that on the disk and with the tools that the shorter run ends with. -/
theorem run_of_longer_plan (pipeline : Pipeline σ ε) (tools : σ) (disk : Disk)
    {source output : Path} {choice wider : StageChoice} {request longer : Request}
    (made : Request.make source output choice = .ok request)
    (made' : Request.make source output wider = .ok longer)
    (within : request.planned <+: longer.planned) :
    let first := (pipeline.run request).run tools disk
    let second := (pipeline.run longer).run tools disk
    (∀ why, first.result = .error why →
      second.log = first.log ∧ second.result = .error why ∧ second.tools = first.tools ∧
        second.disk = first.disk) ∧
    ∀ report, first.result = .ok report →
      first.log <+: second.log ∧
      (longer.planned = request.planned → second = first) ∧
      ∀ next later, longer.planned = request.planned ++ next :: later →
        (∃ rest, second.log = first.log ++ (pipeline.observer.started next ++ rest)) ∧
        ∃ here : Reached pipeline longer tools disk next,
          here.before = request.planned ∧ here.log = first.log ∧ here.tools = first.tools ∧
            here.disk = first.disk := by
  intro first second
  obtain ⟨added, planned⟩ := within
  have whole : pipeline.run longer = _ := run_longer made made' planned.symm
  cases ran : (pipeline.run request).run tools disk with
  | mk log result tools' disk' =>
    have first_eq : first = ⟨log, result, tools', disk'⟩ := ran
    rw [first_eq]
    refine ⟨?_, ?_⟩
    · rintro why rfl
      have second_eq : second = ⟨log, .error why, tools', disk'⟩ :=
        (congrArg (·.run tools disk) whole).trans (Build.run_bind_error ran)
      rw [second_eq]
      exact ⟨rfl, rfl, rfl, rfl⟩
    · rintro report rfl
      have second_eq : second =
          ((pipeline.stages longer report added).run tools' disk').behind log :=
        (congrArg (·.run tools disk) whole).trans (Build.run_bind_ok ran)
      refine ⟨?_, ?_, ?_⟩
      · rw [second_eq, Ended.log_behind]
        exact List.prefix_append ..
      · intro same
        have none_added : added = [] := by
          rw [same] at planned
          exact List.append_right_eq_self.mp planned
        rw [second_eq, none_added]
        simp [stages, Ended.behind]
      · intro next later planned'
        obtain ⟨here, before, rfl, rfl, rfl⟩ := reached_added made made' planned' ran
        exact ⟨here.log_started, here, before, rfl, rfl, rfl⟩

end Pipeline

/-! ## A project generation behind a compiler that writes the program -/

namespace AddedGeneration

def source : Path := Bytes.ofString "m.p"

def output : Path := Bytes.ofString "out"

/-- A request for the first stage alone. -/
def request : Request := ⟨source, output, "m", {}⟩

/-- The same with a project. -/
def longer : Request := ⟨source, output, "m", { generateProject := true }⟩

/-- A pipeline with scripted tools. -/
def pipeline : Pipeline Script Event where
  toolchain := Toolchain.ofRoot (Bytes.ofString "t")
  tools := Script.toolbox
  observer := Observer.full

/-- The compiler writes the program, and the project generator fails. -/
def script : Script :=
  [.ended true [] [.write source (Bytes.ofString "main machine M") false], .ended false [] []]

def disk : Disk := ⟨[], []⟩

/-- The generation starts where the run without it ends.  The program was not there at
first. -/
theorem generation_starts_there :
    let first := (pipeline.run request).run script disk
    let second := (pipeline.run longer).run script disk
    disk.isThere source = false ∧ first.result.isOk = true ∧ second.result.isOk = false ∧
      first.log <+: second.log ∧
      ∃ here : Pipeline.Reached pipeline longer script disk .generateProject,
        here.log = first.log ∧ here.disk = first.disk := by
  have made : Request.make source output {} = .ok request := by decide
  have made' : Request.make source output { generateProject := true } = .ok longer := by decide
  have within : request.planned <+: longer.planned := by decide
  have well : ((pipeline.run request).run script disk).result =
      .ok ⟨[.domainCompile], Artifacts.ofRequest request, none⟩ := by decide +kernel
  obtain ⟨front, _, added⟩ :=
    (Pipeline.run_of_longer_plan pipeline script disk made made' within).2 _ well
  obtain ⟨_, here, _, log_eq, _, disk_eq⟩ := added .generateProject [] (by decide)
  exact ⟨by decide +kernel, by rw [well]; rfl, by decide +kernel, front, here, log_eq, disk_eq⟩

end AddedGeneration

end StagedBuild
