import StagedBuild.Proofs.Observation
import StagedBuild.Proofs.RunProtocol

/-!
# Tools that print nothing

A *silenced* toolbox answers as another does, with the same exit status, state and
disk, but prints nothing.  One thing that tools print is read: the native build is
judged by a marker.  So a silenced tool prints the marker alone, if the tool did.

A build with silenced tools takes the same course.  It ends alike, but for the lines
in an error, and an observer that tells nothing of what was printed (`Discreet`) logs
the same.  `stage_silenced` says so of one stage and `run_silenced` of a run.
-/

namespace StagedBuild

/-! ## Silenced outputs -/

/-- The marker of a successful build, if some lines hold it. -/
def silencedLines (lines : List String) : List String :=
  if BuildVerdict.isSuccess lines then [BuildVerdict.succeededMarker] else []

/-- The output of a tool that printed the marker at most. -/
def ToolOutput.silenced (output : ToolOutput) : ToolOutput :=
  ⟨output.succeeded, "", silencedLines output.lines⟩

/-- The reply of a silenced tool. -/
def Reply.silenced : Reply → Reply
  | .ended output => .ended output.silenced
  | .thrown => .thrown

/-- A toolbox whose tools are silenced. -/
def Toolbox.silenced {σ : Type} (toolbox : Toolbox σ) : Toolbox σ where
  answer call tools disk :=
    let (reply, tools', disk') := toolbox.answer call tools disk
    (reply.silenced, tools', disk')

/-- An error without what the tool printed. -/
def BuildError.silenced : BuildError → BuildError
  | .stageFailed stage lines => .stageFailed stage (silencedLines lines)
  | error => error

/-- A stop without what the tool printed. -/
def Stop.silenced : Stop → Stop
  | .failed error => .failed error.silenced
  | .thrown => .thrown

/-- What ended, without what the tool printed. -/
def Ended.silenced {σ ε α : Type} (ended : Ended σ ε α) : Ended σ ε α :=
  { ended with result := ended.result.mapError Stop.silenced }

theorem Ended.retold_silenced {σ ε α : Type} (ended : Ended σ ε α) :
    ended.retold (fun entry => [entry]) Stop.silenced = ended.silenced := by
  simp [Ended.retold, Ended.silenced]

/-- An observer that tells nothing of what tools printed. -/
structure Observer.Discreet {ε : Type} (observer : Observer ε) : Prop where
  /-- A call is told without what the tool printed. -/
  called : ∀ call disk reply,
    observer.called call disk (Reply.silenced reply) = observer.called call disk reply
  /-- A failure is told without the lines. -/
  failed : ∀ stage error, observer.failed stage (BuildError.silenced error) =
    observer.failed stage error

/-- The lines that are left have the same verdict. -/
theorem isSuccess_silencedLines (lines : List String) :
    BuildVerdict.isSuccess (silencedLines lines) = BuildVerdict.isSuccess lines := by
  have marked : BuildVerdict.isSuccess [BuildVerdict.succeededMarker] = true := by decide
  have unmarked : BuildVerdict.isSuccess [] = false := by decide
  rw [silencedLines]
  split
  · next success => rw [marked, success]
  · next failure => rw [unmarked, Bool.not_eq_true _ |>.mp failure]

theorem Observer.Discreet.ending {ε α : Type} {observer : Observer ε}
    (discreet : observer.Discreet) (stage : Stage) (result : Except Stop α) :
    observer.ending stage (result.mapError Stop.silenced) = observer.ending stage result := by
  cases result with
  | ok a => rfl
  | error why =>
    cases why with
    | failed error => exact discreet.failed stage error
    | thrown => rfl

namespace Pipeline

variable {σ ε : Type}

/-- A pipeline whose tools are silenced. -/
def silenced (pipeline : Pipeline σ ε) : Pipeline σ ε :=
  { pipeline with tools := pipeline.tools.silenced }

/-! ## One stage -/

theorem verdict_silenced (stage : Stage) (output : ToolOutput) :
    verdict stage output.silenced = (verdict stage output).mapError BuildError.silenced := by
  have exit : ∀ stage,
      checkExit stage output.silenced = (checkExit stage output).mapError BuildError.silenced := by
    intro stage
    cases well : output.succeeded <;>
      simp [checkExit, ToolOutput.silenced, BuildError.silenced, well]
  cases stage with
  | domainCompile => exact exit .domainCompile
  | modelCheck => exact exit .modelCheck
  | generateProject => exact exit .generateProject
  | nativeBuild =>
    simp only [verdict, checkVerdict, ToolOutput.silenced, isSuccess_silencedLines]
    split <;> rfl

/-- Cleaning up fails without a tool, so there is nothing to silence in its error. -/
theorem cleanUp_silenced (request : Request) (stage : Stage) (disk : Disk) :
    (cleanUp request stage disk).1.mapError BuildError.silenced =
      (cleanUp request stage disk).1 := by
  cases cleaned : (cleanUp request stage disk).1 with
  | ok u => rfl
  | error error =>
    obtain ⟨_, cause, rfl⟩ := cleanUp_eq_error cleaned
    rfl

theorem outcome_silenced (stage : Stage) {cleaned : Except BuildError Unit}
    (own : cleaned.mapError BuildError.silenced = cleaned) (reply : Reply) :
    outcome stage cleaned reply.silenced =
      (outcome stage cleaned reply).mapError Stop.silenced := by
  cases reply with
  | thrown => rfl
  | ended output =>
    simp only [outcome, judged, Reply.silenced, verdict_silenced]
    cases verdict stage output with
    | error error => rfl
    | ok u =>
      cases cleaned with
      | ok u => rfl
      | error error =>
        have same : error.silenced = error := Except.error.inj own
        simp only [mapError_ok, mapError_error, Stop.silenced, same]

theorem unready_silenced {toolchain : Toolchain} {request : Request} {stage : Stage}
    {error : BuildError} (why : Protocol.Unready toolchain request stage error) :
    error.silenced = error := by
  cases why <;> rfl

/-- A stage with silenced tools takes the same course. -/
theorem stage_silenced {pipeline : Pipeline σ ε} (discreet : pipeline.observer.Discreet)
    (request : Request) (stage : Stage) (tools : σ) (disk : Disk) :
    (pipeline.silenced.stage request stage).run tools disk =
      ((pipeline.stage request stage).run tools disk).silenced := by
  rcases stage_cases pipeline request stage tools disk with
    ⟨error, disk₁, unready, ran⟩ |
      ⟨main?, disk₁, reply, tools₂, disk₂, result, ready, answered, came, ran⟩
  · have again : pipeline.silenced.prepare request stage disk = (.error error, disk₁) := unready
    rw [ran, run_stage, run_body_unready tools again]
    have own := unready_silenced (unready_of_prepare unready)
    simp [Ended.silenced, Stop.silenced, own, silenced, Observer.ending]
  · have again : pipeline.silenced.prepare request stage disk = (.ok main?, disk₁) := ready
    have answered' : pipeline.silenced.tools.answer
        (pipeline.silenced.toolchain.callOf request stage main?) tools disk₁ =
          (reply.silenced, tools₂, disk₂) := by
      simp only [silenced, Toolbox.silenced, answered]
    have came' := outcome_silenced stage (cleanUp_silenced request stage disk₂) reply
    rw [ran, run_stage_called again answered' came', came]
    simp only [Ended.silenced, silenced, discreet.called, discreet.ending]
    cases result <;> rfl

/-! ## The run -/

theorem run_silenced {pipeline : Pipeline σ ε} (discreet : pipeline.observer.Discreet)
    (request : Request) (tools : σ) (disk : Disk) :
    (pipeline.silenced.run request).run tools disk =
      ((pipeline.run request).run tools disk).silenced := by
  have again : ∀ stage tools disk, (pipeline.silenced.stage request stage).run tools disk =
      ((pipeline.stage request stage).run tools disk).retold (fun entry => [entry])
        Stop.silenced := by
    intro stage tools disk
    rw [stage_silenced discreet, Ended.retold_silenced]
  rw [run_retold again (fun _ => rfl), Ended.retold_silenced]

end Pipeline

end StagedBuild
