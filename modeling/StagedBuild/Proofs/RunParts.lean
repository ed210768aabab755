import StagedBuild.Proofs.StageRuns

/-!
# The parts of a run

A run makes the output directory and then runs the planned stages.  It can be
taken apart between any two of them.  `Reached` is a run that has come to a
stage, with all that was done before.  `Reached.run_eq` gives the whole run from
there.

Two facts hold of a whole run by induction over its stages, however it ends.  What
the output directory and each stage keep of the disk is kept by the run (`run_keeps`).
What a run logs was logged by a stage that it came to (`run_logged`).
-/

namespace StagedBuild

/-- A report with one more stage. -/
def Report.withStage (report : Report) (stage : Stage) (main? : Option String) : Report :=
  { report with
    stagesRun := report.stagesRun ++ [stage]
    mainMachine := main?.or report.mainMachine }

@[simp] theorem Report.stagesRun_withStage (report : Report) (stage : Stage)
    (main? : Option String) :
    (report.withStage stage main?).stagesRun = report.stagesRun ++ [stage] := rfl

namespace Pipeline

variable {σ ε : Type}

/-- The same pipeline with another observer. -/
def watchedBy {ε' : Type} (pipeline : Pipeline σ ε) (observer : Observer ε') : Pipeline σ ε' :=
  ⟨pipeline.toolchain, pipeline.tools, pipeline.mainMachine?, observer⟩

@[simp] theorem toolchain_watchedBy {ε' : Type} (pipeline : Pipeline σ ε)
    (observer : Observer ε') : (pipeline.watchedBy observer).toolchain = pipeline.toolchain := rfl

@[simp] theorem tools_watchedBy {ε' : Type} (pipeline : Pipeline σ ε)
    (observer : Observer ε') : (pipeline.watchedBy observer).tools = pipeline.tools := rfl

@[simp] theorem observer_watchedBy {ε' : Type} (pipeline : Pipeline σ ε)
    (observer : Observer ε') : (pipeline.watchedBy observer).observer = observer := rfl

/-! ## Some stages and then others -/

/-- No stage is planned twice. -/
theorem planned_nodup (request : Request) : request.planned.Nodup := by
  rw [Request.planned, StageChoice.planned]
  exact Stage.all_nodup.filter _

theorem stages_cons (pipeline : Pipeline σ ε) (request : Request) (report : Report)
    (next : Stage) (later : List Stage) :
    pipeline.stages request report (next :: later) =
      pipeline.stage request next >>= fun main? =>
        pipeline.stages request (report.withStage next main?) later := rfl

theorem stages_append (pipeline : Pipeline σ ε) (request : Request) (report : Report)
    (before later : List Stage) :
    pipeline.stages request report (before ++ later) =
      pipeline.stages request report before >>= fun report =>
        pipeline.stages request report later := by
  induction before generalizing report with
  | nil => rw [List.nil_append, stages, Build.pure_bind]
  | cons next before ih =>
    rw [List.cons_append, stages_cons, stages_cons, Build.bind_assoc]
    exact congrArg _ (funext fun main? => ih (report.withStage next main?))

/-- A stage that is planned behind another comes behind it among all stages. -/
theorem planned_in_order {request : Request} {before later : List Stage} {stage next : Stage}
    (h : request.planned = before ++ stage :: later) (mem : next ∈ later) :
    [stage, next].Sublist Stage.all := by
  have behind : (stage :: later).Sublist request.planned := by
    rw [h]
    exact List.sublist_append_right before (stage :: later)
  have pair : [stage, next].Sublist (stage :: later) :=
    (List.singleton_sublist.mpr mem).cons_cons stage
  exact (pair.trans behind).trans List.filter_sublist

/-- The report before any stage. -/
def blankReport (request : Request) : Report := ⟨[], Artifacts.ofRequest request, none⟩

/-- A run that ends after some of the stages. -/
def runUpTo (pipeline : Pipeline σ ε) (request : Request) (before : List Stage) :
    Build σ ε Report := do
  Build.onFile request.output (Disk.makeFolders request.output)
  pipeline.stages request (blankReport request) before

theorem runUpTo_append (pipeline : Pipeline σ ε) (request : Request) (before later : List Stage) :
    pipeline.runUpTo request (before ++ later) =
      pipeline.runUpTo request before >>= fun report =>
        pipeline.stages request report later := by
  rw [runUpTo, runUpTo, Build.bind_assoc]
  exact congrArg _ (funext fun _ => stages_append pipeline request _ before later)

theorem run_eq_runUpTo (pipeline : Pipeline σ ε) (request : Request) :
    pipeline.run request = pipeline.runUpTo request request.planned := rfl

/-- A run without its output directory ends there, and any other goes on with its
stages. -/
theorem runUpTo_cases (pipeline : Pipeline σ ε) (request : Request) (before : List Stage)
    (tools : σ) (disk : Disk) :
    (∃ cause, (pipeline.runUpTo request before).run tools disk =
      ⟨[], .error (.failed (.file request.output cause)), tools,
        (Disk.makeFolders request.output disk).2⟩) ∨
    (pipeline.runUpTo request []).run tools disk =
        ⟨[], .ok (blankReport request), tools, (Disk.makeFolders request.output disk).2⟩ ∧
      (pipeline.runUpTo request before).run tools disk =
        (pipeline.stages request (blankReport request) before).run tools
          (Disk.makeFolders request.output disk).2 := by
  have made := Build.run_onFile (ε := ε) request.output (Disk.makeFolders request.output) tools
    disk
  cases result : (Disk.makeFolders request.output disk).1 with
  | error cause =>
    rw [result] at made
    rw [runUpTo, Build.run_bind_error made]
    exact .inl ⟨cause, rfl⟩
  | ok u =>
    rw [result] at made
    rw [runUpTo, runUpTo, Build.run_bind_ok made, Build.run_bind_ok made]
    exact .inr ⟨rfl, rfl⟩

/-- A run without its output directory is over. -/
theorem run_unmade (pipeline : Pipeline σ ε) {request : Request} (tools : σ) {disk disk' : Disk}
    {cause : IoError} (unmade : Disk.makeFolders request.output disk = (.error cause, disk')) :
    (pipeline.run request).run tools disk =
      ⟨[], .error (.failed (.file request.output cause)), tools, disk'⟩ := by
  have made := Build.run_onFile (ε := ε) request.output (Disk.makeFolders request.output) tools
    disk
  rw [unmade] at made
  rw [run, Build.run_bind_error made]

/-- A run with its output directory goes on with the planned stages. -/
theorem run_made (pipeline : Pipeline σ ε) {request : Request} (tools : σ) {disk disk' : Disk}
    (made : Disk.makeFolders request.output disk = (.ok (), disk')) :
    (pipeline.run request).run tools disk =
      (pipeline.stages request (blankReport request) request.planned).run tools disk' := by
  have ended := Build.run_onFile (ε := ε) request.output (Disk.makeFolders request.output) tools
    disk
  rw [made] at ended
  rw [run, Build.run_bind_ok ended]
  rfl

/-! ## Runs that have come to a stage -/

/-- A run that has come to a stage. -/
structure Reached (pipeline : Pipeline σ ε) (request : Request) (tools₀ : σ) (disk₀ : Disk)
    (stage : Stage) where
  /-- The stages before it. -/
  before : List Stage
  /-- The stages behind it. -/
  later : List Stage
  /-- The stages are the planned ones. -/
  planned : request.planned = before ++ stage :: later
  /-- What was logged. -/
  log : List ε
  /-- The report so far. -/
  report : Report
  /-- The state of the tools. -/
  tools : σ
  /-- The disk. -/
  disk : Disk
  /-- The stages before it ended well and left all this. -/
  ran : (pipeline.runUpTo request before).run tools₀ disk₀ = ⟨log, .ok report, tools, disk⟩

namespace Reached

variable {pipeline : Pipeline σ ε} {request : Request} {tools₀ : σ} {disk₀ : Disk}
  {stage : Stage}

/-- A run has come to a stage if the stages before it ended well. -/
def ofResult (before later : List Stage) (report : Report)
    (planned : request.planned = before ++ stage :: later)
    (well : ((pipeline.runUpTo request before).run tools₀ disk₀).result = .ok report) :
    Reached pipeline request tools₀ disk₀ stage :=
  let ended := (pipeline.runUpTo request before).run tools₀ disk₀
  ⟨before, later, planned, ended.log, report, ended.tools, ended.disk, by rw [← well]⟩

/-- The stage is not planned before. -/
theorem not_mem_before (here : Reached pipeline request tools₀ disk₀ stage) :
    stage ∉ here.before := by
  have nodup := planned_nodup request
  rw [here.planned] at nodup
  exact fun earlier => (List.nodup_append.mp nodup).2.2 _ earlier _ (.head _) rfl

/-- The stage is not planned again. -/
theorem not_mem_later (here : Reached pipeline request tools₀ disk₀ stage) :
    stage ∉ here.later := by
  have nodup := planned_nodup request
  rw [here.planned] at nodup
  exact (List.nodup_cons.mp (List.nodup_append.mp nodup).2.1).1

/-- What was logged before is the log of the stages before. -/
theorem ran_stages (here : Reached pipeline request tools₀ disk₀ stage) :
    ∃ disk, (pipeline.stages request (blankReport request) here.before).run tools₀ disk =
      ⟨here.log, .ok here.report, here.tools, here.disk⟩ := by
  rcases runUpTo_cases pipeline request here.before tools₀ disk₀ with
    ⟨cause, unmade⟩ | ⟨_, made⟩
  · rw [here.ran] at unmade
    exact absurd (congrArg Ended.result unmade) nofun
  · exact ⟨_, made.symm.trans here.ran⟩

/-- The run goes on with the stage and then the stages behind it. -/
theorem run_eq (here : Reached pipeline request tools₀ disk₀ stage) :
    (pipeline.run request).run tools₀ disk₀ =
      ((pipeline.stages request here.report (stage :: here.later)).run here.tools
        here.disk).behind here.log := by
  rw [run_eq_runUpTo, here.planned, runUpTo_append, Build.run_bind_ok here.ran]

/-- A stage that stops ends the run. -/
theorem run_of_stop (here : Reached pipeline request tools₀ disk₀ stage) {log : List ε}
    {why : Stop} {tools : σ} {disk : Disk}
    (h : (pipeline.stage request stage).run here.tools here.disk =
      ⟨log, .error why, tools, disk⟩) :
    (pipeline.run request).run tools₀ disk₀ =
      ⟨here.log ++ log, .error why, tools, disk⟩ := by
  rw [here.run_eq, stages_cons, Build.run_bind_error h]
  rfl

/-- After a stage that ends well the run goes on with those behind it. -/
theorem run_of_done (here : Reached pipeline request tools₀ disk₀ stage) {log : List ε}
    {main? : Option String} {tools : σ} {disk : Disk}
    (h : (pipeline.stage request stage).run here.tools here.disk =
      ⟨log, .ok main?, tools, disk⟩) :
    (pipeline.run request).run tools₀ disk₀ =
      ((pipeline.stages request (here.report.withStage stage main?) here.later).run tools
        disk).behind (here.log ++ log) := by
  rw [here.run_eq, stages_cons, Build.run_bind_ok h, Ended.behind_behind]

end Reached

/-! ## What every stage keeps -/

section Keeping

variable {pipeline : Pipeline σ ε} {request : Request} {tools₀ : σ} {disk₀ : Disk}

/-- A run that ends after one more stage. -/
theorem runUpTo_concat {before : List Stage} {stage : Stage} {log log' : List ε}
    {report : Report} {main? : Option String} {tools tools' : σ} {disk disk' : Disk}
    (ran : (pipeline.runUpTo request before).run tools₀ disk₀ = ⟨log, .ok report, tools, disk⟩)
    (next : (pipeline.stage request stage).run tools disk = ⟨log', .ok main?, tools', disk'⟩) :
    (pipeline.runUpTo request (before ++ [stage])).run tools₀ disk₀ =
      ⟨log ++ log', .ok (report.withStage stage main?), tools', disk'⟩ := by
  rw [runUpTo_append, Build.run_bind_ok ran, stages_cons, Build.run_bind_ok next]
  simp [stages, Ended.behind]

/-- What each stage keeps that a run comes to, some of them keep one after the other.
The induction is on these stages, with the run up to them. -/
theorem stages_keep {keeps : Disk → Prop} {before some rest : List Stage} {log : List ε}
    {report : Report} {tools : σ} {disk : Disk}
    (planned : request.planned = before ++ (some ++ rest))
    (ran : (pipeline.runUpTo request before).run tools₀ disk₀ = ⟨log, .ok report, tools, disk⟩)
    (step : ∀ {stage} (here : Reached pipeline request tools₀ disk₀ stage), stage ∈ some →
      keeps here.disk → keeps ((pipeline.stage request stage).run here.tools here.disk).disk)
    (start : keeps disk) :
    keeps ((pipeline.stages request report some).run tools disk).disk := by
  induction some generalizing before log report tools disk with
  | nil => exact start
  | cons next later ih =>
    have kept := step ⟨before, later ++ rest, planned, log, report, tools, disk, ran⟩ (.head _)
      start
    cases h : (pipeline.stage request next).run tools disk with
    | mk log' result tools' disk' =>
      rw [h] at kept
      cases result with
      | error why =>
        rw [stages_cons, Build.run_bind_error h]
        exact kept
      | ok main? =>
        rw [stages_cons, Build.run_bind_ok h, Ended.disk_behind]
        refine ih ?_ (runUpTo_concat ran h) (fun here mem => step here (.tail _ mem)) kept
        rw [planned, List.append_assoc, List.cons_append, List.singleton_append]

/-- What is kept by making the output directory and by each of the first stages is
kept by the run up to there, however it ends. -/
theorem runUpTo_keeps {keeps : Disk → Prop} {before rest : List Stage}
    (planned : request.planned = before ++ rest)
    (start : keeps (Disk.makeFolders request.output disk₀).2)
    (step : ∀ {stage} (here : Reached pipeline request tools₀ disk₀ stage), stage ∈ before →
      keeps here.disk → keeps ((pipeline.stage request stage).run here.tools here.disk).disk) :
    keeps ((pipeline.runUpTo request before).run tools₀ disk₀).disk := by
  rcases runUpTo_cases pipeline request before tools₀ disk₀ with ⟨cause, unmade⟩ | ⟨ran, made⟩
  · rw [unmade]
    exact start
  · rw [made]
    exact stages_keep planned ran step start

/-- What is kept by making the output directory and by each stage that a run comes to
is kept by the run, however it ends. -/
theorem run_keeps (keeps : Disk → Prop)
    (start : keeps (Disk.makeFolders request.output disk₀).2)
    (step : ∀ {stage} (here : Reached pipeline request tools₀ disk₀ stage), keeps here.disk →
      keeps ((pipeline.stage request stage).run here.tools here.disk).disk) :
    keeps ((pipeline.run request).run tools₀ disk₀).disk :=
  runUpTo_keeps (List.append_nil _).symm start fun here _ => step here

namespace Reached

variable {stage : Stage} (here : Reached pipeline request tools₀ disk₀ stage)

/-- What the stages before keep still holds when the run comes to a stage. -/
theorem keeps_before (keeps : Disk → Prop)
    (start : keeps (Disk.makeFolders request.output disk₀).2)
    (step : ∀ {next} (there : Reached pipeline request tools₀ disk₀ next), next ∈ here.before →
      keeps there.disk → keeps ((pipeline.stage request next).run there.tools there.disk).disk) :
    keeps here.disk := by
  have kept := runUpTo_keeps here.planned start step
  rwa [here.ran] at kept

/-- What the stages behind keep holds at the end of the run if it holds after the
stage. -/
theorem keeps_later (keeps : Disk → Prop)
    (start : keeps ((pipeline.stage request stage).run here.tools here.disk).disk)
    (step : ∀ {next} (there : Reached pipeline request tools₀ disk₀ next), next ∈ here.later →
      keeps there.disk → keeps ((pipeline.stage request next).run there.tools there.disk).disk) :
    keeps ((pipeline.run request).run tools₀ disk₀).disk := by
  cases done : (pipeline.stage request stage).run here.tools here.disk with
  | mk log result tools disk =>
    rw [done] at start
    cases result with
    | error why =>
      rw [here.run_of_stop done]
      exact start
    | ok main? =>
      have planned : request.planned = here.before ++ [stage] ++ (here.later ++ []) := by
        rw [here.planned, List.append_nil, List.append_assoc, List.singleton_append]
      rw [here.run_of_done done, Ended.disk_behind]
      exact stages_keep planned (runUpTo_concat here.ran done) step start

end Reached

end Keeping

/-! ## What a run logs -/

section Logs

variable {pipeline : Pipeline σ ε} {request : Request} {tools₀ : σ} {disk₀ : Disk}

/-- Each entry that some stages log is logged by one that the run came to.  The induction
is on these stages, with the run up to them. -/
theorem stages_logged {before some rest : List Stage} {log earlier later : List ε} {entry : ε}
    {report : Report} {tools : σ} {disk : Disk}
    (planned : request.planned = before ++ (some ++ rest))
    (ran : (pipeline.runUpTo request before).run tools₀ disk₀ = ⟨log, .ok report, tools, disk⟩)
    (h : ((pipeline.stages request report some).run tools disk).log =
      earlier ++ entry :: later) :
    ∃ stage, ∃ here : Reached pipeline request tools₀ disk₀ stage, ∃ front behind,
      log ++ earlier = here.log ++ front ∧
        ((pipeline.stage request stage).run here.tools here.disk).log =
          front ++ entry :: behind := by
  induction some generalizing before log earlier report tools disk with
  | nil => exact absurd h.symm (List.append_ne_nil_of_right_ne_nil _ (List.cons_ne_nil _ _))
  | cons next others ih =>
    let here : Reached pipeline request tools₀ disk₀ next :=
      ⟨before, others ++ rest, planned, log, report, tools, disk, ran⟩
    cases done : (pipeline.stage request next).run tools disk with
    | mk log' result tools' disk' =>
      have logged : ((pipeline.stage request next).run here.tools here.disk).log = log' :=
        congrArg Ended.log done
      cases result with
      | error why =>
        rw [stages_cons, Build.run_bind_error done] at h
        exact ⟨next, here, earlier, later, rfl, logged.trans h⟩
      | ok main? =>
        rw [stages_cons, Build.run_bind_ok done, Ended.log_behind] at h
        have ran' := runUpTo_concat ran done
        have planned' : request.planned = (before ++ [next]) ++ (others ++ rest) := by
          rw [planned, List.append_assoc, List.cons_append, List.singleton_append]
        -- The entry is behind what the stage logged, or the stage logged it.
        rcases List.append_eq_append_iff.mp h with ⟨front, rfl, split⟩ | ⟨tail, split, ends⟩
        · rw [← List.append_assoc]
          exact ih planned' ran' split
        · cases tail with
          | nil =>
            rw [List.append_nil] at split
            subst split
            have first := ih planned' ran' (ends.symm.trans (List.nil_append _).symm)
            rwa [List.append_nil] at first
          | cons first behind =>
            cases ends
            exact ⟨next, here, earlier, behind, rfl, logged.trans split⟩

/-- Each entry of the log of a run is logged by a stage that the run came to, behind the
log up to there. -/
theorem run_logged {earlier later : List ε} {entry : ε}
    (h : ((pipeline.run request).run tools₀ disk₀).log = earlier ++ entry :: later) :
    ∃ stage, ∃ here : Reached pipeline request tools₀ disk₀ stage, ∃ front behind,
      earlier = here.log ++ front ∧
        ((pipeline.stage request stage).run here.tools here.disk).log =
          front ++ entry :: behind := by
  rw [run_eq_runUpTo] at h
  rcases runUpTo_cases pipeline request request.planned tools₀ disk₀ with
    ⟨cause, unmade⟩ | ⟨ran, made⟩
  · rw [unmade] at h
    exact absurd h.symm (List.append_ne_nil_of_right_ne_nil _ (List.cons_ne_nil _ _))
  · have planned : request.planned = [] ++ (request.planned ++ []) := by simp
    rw [made] at h
    exact stages_logged planned ran h

/-- A run that has come to a stage came to each one before, which ended well. -/
theorem Reached.earlier {stage next : Stage} (here : Reached pipeline request tools₀ disk₀ stage)
    (mem : next ∈ here.before) :
    ∃ there : Reached pipeline request tools₀ disk₀ next, ∃ log main? tools disk rest,
      (pipeline.stage request next).run there.tools there.disk = ⟨log, .ok main?, tools, disk⟩ ∧
        here.log = there.log ++ (log ++ rest) := by
  obtain ⟨before, between, split⟩ := List.append_of_mem mem
  have planned : request.planned = before ++ next :: (between ++ stage :: here.later) := by
    rw [here.planned, split, List.append_assoc, List.cons_append]
  have ran := here.ran
  rw [split, runUpTo_append] at ran
  cases first : (pipeline.runUpTo request before).run tools₀ disk₀ with
  | mk log result tools disk =>
    cases result with
    | error why =>
      rw [Build.run_bind_error first] at ran
      exact absurd (congrArg Ended.result ran) nofun
    | ok report =>
      rw [Build.run_bind_ok first, stages_cons] at ran
      cases done : (pipeline.stage request next).run tools disk with
      | mk log' result' tools' disk' =>
        cases result' with
        | error why =>
          rw [Build.run_bind_error done] at ran
          exact absurd (congrArg Ended.result ran) nofun
        | ok main? =>
          rw [Build.run_bind_ok done] at ran
          exact ⟨⟨before, _, planned, log, report, tools, disk, first⟩, log', main?, tools', disk',
            _, done, (congrArg Ended.log ran).symm⟩

end Logs

end Pipeline

end StagedBuild
