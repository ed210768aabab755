import StagedBuild.Proofs.RunParts

/-!
# The protocol of a run

The full log of a run is made of blocks, one for each stage that ran.  A complete
block is the start of the stage, the main machine if the stage is the project
generation, one call and the completion.  Only the last block may be a broken
one, and then the run ends the way the block does.

* A stage that does not get ready has no call, and its failure follows its start.
* A tool that ended is followed by the failure of its stage, for what the tool did
  or for the support file that could not be removed.
* A tool that was thrown out is the last entry.

A block leads from the tools and the disk before the stage to those after it.  Its
one call is answered by the toolbox there (`Asks`), so nothing else is asked of the
tools, and what they do to the disk is seen by the next block.

`stage_follows` is about one stage and `stages_follow` about some of them.
`stage_fails` and `stages_fail` say why they may fail, whoever observes them.
`run_protocol` adds the output directory, which is made before any stage.
-/

namespace StagedBuild

namespace Protocol

/-- The log of a stage from its start to the reply of its tool. -/
def opening (toolchain : Toolchain) (request : Request) (stage : Stage) (main? : Option String)
    (disk : Disk) (reply : Reply) : List Event :=
  .started stage :: (main?.toList.map .foundMain ++
    [.called (toolchain.callOf request stage main?) disk reply])

/-- Why a stage does not get ready for its call. -/
inductive Unready (toolchain : Toolchain) (request : Request) : Stage → BuildError → Prop where
  /-- The support file cannot be copied. -/
  | copy (cause : IoError) :
      Unready toolchain request .modelCheck (.file toolchain.supportFile cause)
  /-- The program cannot be read. -/
  | source (cause : IoError) :
      Unready toolchain request .generateProject (.file request.source cause)
  /-- The program declares no main machine. -/
  | main : Unready toolchain request .generateProject (.noMainMachine request.source)

/-- Why a stage fails after its tool ended. -/
inductive Refused (request : Request) : Stage → ToolOutput → BuildError → Prop where
  /-- The tool did not do what the stage asks for. -/
  | tool {stage : Stage} {output : ToolOutput} (bad : Pipeline.verdict stage output ≠ .ok ()) :
      Refused request stage output (.stageFailed stage output.lines)
  /-- The copied support file cannot be removed. -/
  | removal {output : ToolOutput} (well : Pipeline.verdict .modelCheck output = .ok ())
      (cause : IoError) :
      Refused request .modelCheck output (.file (Artifacts.ofRequest request).support cause)

/-- Why a stage fails. -/
def Fails (toolchain : Toolchain) (request : Request) (stage : Stage) (error : BuildError) :
    Prop :=
  Unready toolchain request stage error ∨ ∃ output, Refused request stage output error

section Blocks

variable {σ ε : Type} (pipeline : Pipeline σ ε) (request : Request) (stage : Stage) (tools : σ)
  (disk : Disk)

/-- A stage gets ready and calls its tool once, and the toolbox answers.  Given are the
log from the start of the stage to the reply, the reply, and the tools and the disk
after it. -/
inductive Asks : List Event → Reply → σ → Disk → Prop where
  /-- The disk that the stage made ready is the one that the tool sees. -/
  | intro {main? : Option String} {seen after : Disk} {reply : Reply} {tools' : σ}
      (ready : pipeline.prepare request stage disk = (.ok main?, seen))
      (named : main?.isSome = true ↔ stage = .generateProject)
      (answered : pipeline.tools.answer (pipeline.toolchain.callOf request stage main?) tools
        seen = (reply, tools', after)) :
      Asks (opening pipeline.toolchain request stage main? seen reply) reply tools' after

/-- A stage that is complete: its log, and the tools and the disk after it. -/
inductive Complete : List Event → σ → Disk → Prop where
  /-- The tool ended well, and so did the cleaning up. -/
  | passed {log : List Event} {output : ToolOutput} {tools' : σ} {after : Disk}
      (asked : Asks pipeline request stage tools disk log (.ended output) tools' after)
      (well : Pipeline.verdict stage output = .ok ())
      (cleaned : (Pipeline.cleanUp request stage after).1 = .ok ()) :
      Complete (log ++ [.completed stage]) tools' (Pipeline.cleanUp request stage after).2

/-- A stage that stops the run: why, its log, and the tools and the disk after it. -/
inductive Broken : Stop → List Event → σ → Disk → Prop where
  /-- The stage did not get ready. -/
  | early {error : BuildError} {disk' : Disk}
      (unready : pipeline.prepare request stage disk = (.error error, disk'))
      (why : Unready pipeline.toolchain request stage error) :
      Broken (.failed error) [.started stage, .failed stage error] tools disk'
  /-- The stage failed after its tool ended. -/
  | late {log : List Event} {output : ToolOutput} {tools' : σ} {after : Disk}
      {error : BuildError}
      (asked : Asks pipeline request stage tools disk log (.ended output) tools' after)
      (came : Pipeline.outcome stage (Pipeline.cleanUp request stage after).1 (.ended output) =
        .error (.failed error))
      (why : Refused request stage output error) :
      Broken (.failed error) (log ++ [.failed stage error]) tools'
        (Pipeline.cleanUp request stage after).2
  /-- The tool was thrown out of its call. -/
  | thrown {log : List Event} {tools' : σ} {after : Disk}
      (asked : Asks pipeline request stage tools disk log .thrown tools' after) :
      Broken .thrown log tools' (Pipeline.cleanUp request stage after).2

end Blocks

/-- A stage that fails logs its failure last. -/
theorem Broken.failed_last {σ ε : Type} {pipeline : Pipeline σ ε} {request : Request}
    {stage : Stage} {tools tools' : σ} {disk disk' : Disk} {error : BuildError} {log : List Event}
    (broken : Broken pipeline request stage tools disk (.failed error) log tools' disk') :
    ∃ earlier, log = earlier ++ [.failed stage error] := by
  cases broken with
  | early unready why => exact ⟨[.started stage], rfl⟩
  | @late opening _ _ _ _ asked came why => exact ⟨opening, rfl⟩

/-- Some stages that are complete, one after the other: their log, and the tools and the
disk after them. -/
inductive Blocks {σ ε : Type} (pipeline : Pipeline σ ε) (request : Request) :
    List Stage → σ → Disk → List Event → σ → Disk → Prop where
  /-- No stage does nothing. -/
  | done (tools : σ) (disk : Disk) : Blocks pipeline request [] tools disk [] tools disk
  /-- One stage, and then the others where it ended. -/
  | next {stage : Stage} {later : List Stage} {tools tools₁ tools₂ : σ} {disk disk₁ disk₂ : Disk}
      {log log' : List Event}
      (first : Complete pipeline request stage tools disk log tools₁ disk₁)
      (rest : Blocks pipeline request later tools₁ disk₁ log' tools₂ disk₂) :
      Blocks pipeline request (stage :: later) tools disk (log ++ log') tools₂ disk₂

/-- A run of the planned stages after the earlier ones ends like this: there are complete
blocks for a prefix of them, and a broken one for the next if there is a next. -/
def Follows {σ ε : Type} (pipeline : Pipeline σ ε) (request : Request)
    (earlier planned : List Stage) (tools : σ) (disk : Disk) (ended : Ended σ Event Report) :
    Prop :=
  ∃ done rest log last tools' disk', planned = done ++ rest ∧
    Blocks pipeline request done tools disk log tools' disk' ∧ ended.log = log ++ last ∧
    match rest with
    | [] =>
        last = [] ∧ ended.tools = tools' ∧ ended.disk = disk' ∧
          ∃ report, ended.result = .ok report ∧ report.stagesRun = earlier ++ planned
    | next :: _ =>
        ∃ why, Broken pipeline request next tools' disk' why last ended.tools ended.disk ∧
          ended.result = .error why

end Protocol

namespace Pipeline

open Protocol

variable {σ ε : Type}

/-! ## One stage -/

theorem unready_of_prepare {pipeline : Pipeline σ ε} {request : Request} {stage : Stage}
    {disk disk' : Disk} {error : BuildError}
    (h : pipeline.prepare request stage disk = (.error error, disk')) :
    Unready pipeline.toolchain request stage error := by
  cases stage with
  | domainCompile => cases h
  | nativeBuild => cases h
  | modelCheck =>
    simp only [prepare] at h
    split at h
    · cases h
    · next cause _ =>
      cases h
      exact .copy cause
  | generateProject =>
    simp only [prepare] at h
    split at h
    · next cause _ =>
      cases h
      exact .source cause
    · split at h
      · cases h
      · cases h
        exact .main

/-- A tool that is refused is reported with its lines. -/
theorem verdict_eq_error {stage : Stage} {output : ToolOutput} {error : BuildError}
    (h : verdict stage output = .error error) : error = .stageFailed stage output.lines := by
  cases stage <;> simp only [verdict, checkExit, checkVerdict] at h <;> split at h <;> cases h <;>
    rfl

/-- Only the model check cleans up, and fails if it cannot remove the support
file. -/
theorem cleanUp_eq_error {request : Request} {stage : Stage} {disk : Disk} {error : BuildError}
    (h : (cleanUp request stage disk).1 = .error error) :
    stage = .modelCheck ∧ ∃ cause, error = .file (Artifacts.ofRequest request).support cause := by
  cases stage with
  | domainCompile => cases h
  | generateProject => cases h
  | nativeBuild => cases h
  | modelCheck =>
    simp only [cleanUp] at h
    cases hr : (Disk.unlink (Artifacts.ofRequest request).support disk).1 with
    | ok u => rw [hr] at h; cases h
    | error cause => rw [hr] at h; cases h; exact ⟨rfl, cause, rfl⟩

theorem refused_of_verdict {request : Request} {stage : Stage} {disk : Disk}
    {output : ToolOutput} {error : BuildError}
    (h : verdict stage output = .error error ∨
      (verdict stage output = .ok () ∧ (cleanUp request stage disk).1 = .error error)) :
    Refused request stage output error := by
  rcases h with bad | ⟨well, left⟩
  · have ne : verdict stage output ≠ .ok () := by rw [bad]; exact nofun
    rw [verdict_eq_error bad]
    exact .tool ne
  · obtain ⟨rfl, cause, rfl⟩ := cleanUp_eq_error left
    exact .removal well cause

/-- A stage fails before its call or after it. -/
theorem stage_fails {pipeline : Pipeline σ ε} {request : Request} {stage : Stage} {tools : σ}
    {disk : Disk} {error : BuildError}
    (h : ((pipeline.stage request stage).run tools disk).result = .error (.failed error)) :
    Fails pipeline.toolchain request stage error := by
  rcases stage_cases pipeline request stage tools disk with
    ⟨error', disk₁, unready, ran⟩ |
      ⟨main?, disk₁, reply, tools₂, disk₂, result, ready, answered, came, ran⟩
  · rw [ran] at h
    cases h
    exact .inl (unready_of_prepare unready)
  · rw [ran] at h
    cases reply with
    | thrown =>
      subst came
      cases h
    | ended output =>
      rcases outcome_ended stage (cleanUp request stage disk₂).1 output with
        ⟨_, _, well⟩ | ⟨error', why, bad⟩
      · rw [← came, well] at h
        cases h
      · rw [← came, bad] at h
        cases h
        exact .inr ⟨output, refused_of_verdict why⟩

/-- Some stages fail as one of them does. -/
theorem stages_fail {pipeline : Pipeline σ ε} {request : Request} {report : Report}
    {planned : List Stage} {tools : σ} {disk : Disk} {error : BuildError}
    (h : ((pipeline.stages request report planned).run tools disk).result =
      .error (.failed error)) :
    ∃ stage ∈ planned, Fails pipeline.toolchain request stage error := by
  induction planned generalizing report tools disk with
  | nil => cases h
  | cons next later ih =>
    rw [stages_cons] at h
    cases first : (pipeline.stage request next).run tools disk with
    | mk log result tools' disk' =>
      cases result with
      | error why =>
        rw [Build.run_bind_error first] at h
        cases h
        exact ⟨next, .head _, stage_fails (congrArg Ended.result first)⟩
      | ok main? =>
        rw [Build.run_bind_ok first] at h
        obtain ⟨stage, mem, why⟩ := ih h
        exact ⟨stage, .tail _ mem, why⟩

/-- What the full observer hears of a stage with a call. -/
theorem full_log (toolchain : Toolchain) (request : Request) (stage : Stage)
    (main? : Option String) (disk : Disk) (reply : Reply) (last : List Event) :
    Observer.full.started stage ++
        (main?.toList.flatMap Observer.full.foundMain ++
          (Observer.full.called (toolchain.callOf request stage main?) disk reply ++
            ((unlinked request stage).flatMap Observer.full.unlinking ++ last))) =
      opening toolchain request stage main? disk reply ++ last := by
  have quiet : (unlinked request stage).flatMap Observer.full.unlinking = [] := by
    cases stage <;> rfl
  rw [quiet]
  cases main? <;> rfl

/-- What a stage logs is a complete block if it ends well and a broken one if
not. -/
theorem stage_follows (pipeline : Pipeline σ ε) {request : Request} {stage : Stage} {tools : σ}
    {disk : Disk} {ended : Ended σ Event (Option String)}
    (h : ((pipeline.watchedBy Observer.full).stage request stage).run tools disk = ended) :
    match ended.result with
    | .ok _ => Complete pipeline request stage tools disk ended.log ended.tools ended.disk
    | .error why =>
        Broken pipeline request stage tools disk why ended.log ended.tools ended.disk := by
  rcases stage_cases (pipeline.watchedBy Observer.full) request stage tools disk with
    ⟨error, disk₁, unready, ran⟩ |
      ⟨main?, disk₁, reply, tools₂, disk₂, result, ready, answered, rfl, ran⟩
  · rw [ran] at h
    subst h
    exact .early unready (unready_of_prepare unready)
  · have asked : Asks pipeline request stage tools disk _ reply tools₂ disk₂ :=
      .intro ready (isSome_of_prepare ready) answered
    rw [ran, observer_watchedBy, toolchain_watchedBy, full_log] at h
    subst h
    cases reply with
    | thrown =>
      show Broken _ _ _ _ _ _ (_ ++ []) _ _
      rw [List.append_nil]
      exact .thrown asked
    | ended output =>
      rcases outcome_ended stage (cleanUp request stage disk₂).1 output with
        ⟨well, cleaned, result⟩ | ⟨error, bad, result⟩
      · rw [result]
        exact .passed asked well cleaned
      · rw [result]
        exact .late asked result (refused_of_verdict bad)

/-! ## Some stages, and the run -/

/-- A run of some stages follows the protocol.  The induction is on the stages that
are left: a complete block is put before the log of the others. -/
theorem stages_follow (pipeline : Pipeline σ ε) (request : Request) (report : Report)
    (planned : List Stage) (tools : σ) (disk : Disk) :
    Follows pipeline request report.stagesRun planned tools disk
      (((pipeline.watchedBy Observer.full).stages request report planned).run tools disk) := by
  induction planned generalizing report tools disk with
  | nil =>
    exact ⟨[], [], [], [], tools, disk, rfl, .done tools disk, rfl, rfl, rfl, rfl, report, rfl,
      (List.append_nil _).symm⟩
  | cons next later ih =>
    cases h : ((pipeline.watchedBy Observer.full).stage request next).run tools disk with
    | mk log result tools₁ disk₁ =>
      have block := stage_follows pipeline h
      rw [stages_cons]
      cases result with
      | error why =>
        rw [Build.run_bind_error h]
        exact ⟨[], next :: later, [], log, tools, disk, rfl, .done tools disk, rfl, why, block,
          rfl⟩
      | ok main? =>
        rw [Build.run_bind_ok h]
        obtain ⟨done, rest, log', last, tools', disk', hplanned, blocks, hlog, hrest⟩ :=
          ih (report.withStage next main?) tools₁ disk₁
        refine ⟨next :: done, rest, log ++ log', last, tools', disk', ?_, .next block blocks, ?_,
          ?_⟩
        · rw [hplanned, List.cons_append]
        · rw [Ended.log_behind, hlog, List.append_assoc]
        · cases rest with
          | nil =>
            obtain ⟨hlast, htools, hdisk, final, hfinal, hrun⟩ := hrest
            refine ⟨hlast, htools, hdisk, final, hfinal, ?_⟩
            rw [hrun, Report.stagesRun_withStage, List.append_assoc, List.singleton_append]
          | cons broken rest => exact hrest

/-- The log and the result of a run, and what it does to the tools and the disk.  A run
without its output directory asks no tool and names the directory.  Any other run
follows the protocol for the planned stages, on the disk with the directory. -/
theorem run_protocol (pipeline : Pipeline σ ε) (request : Request) (tools : σ) (disk : Disk) :
    let ended := ((pipeline.watchedBy Observer.full).run request).run tools disk
    let made := Disk.makeFolders request.output disk
    match made.1 with
    | .error cause =>
        ended.log = [] ∧ ended.result = .error (.failed (.file request.output cause)) ∧
          ended.tools = tools ∧ ended.disk = made.2
    | .ok () => Follows pipeline request [] request.planned tools made.2 ended := by
  intro ended made
  cases result : made.1 with
  | error cause =>
    have ran : ended = _ := run_unmade _ tools (Prod.ext result rfl)
    rw [ran]
    exact ⟨rfl, rfl, rfl, rfl⟩
  | ok u =>
    have ran : ended = _ := run_made _ tools (Prod.ext result rfl)
    rw [ran]
    exact stages_follow pipeline request _ request.planned tools _

end Pipeline

end StagedBuild
