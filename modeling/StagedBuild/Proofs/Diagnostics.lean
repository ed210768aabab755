import StagedBuild.Machine.Start
import StagedBuild.Proofs.LineWriting
import StagedBuild.Proofs.SessionOutcomes
import StagedBuild.Script

/-!
# What users read of a failed tool

A tool that fails its stage is reported with the lines of what it printed.  A
session complains with one line about the stage and, if the tool printed anything,
an empty line and the lines (`complaint_stageFailed`).  Nothing follows them, since
there is no hint for a failed tool.

The lines of what was captured hold no line ends, so they can be read back from
what the session writes.  `failure_diagnostics` says so for every session that comes
to a stage whose tool fails it.
-/

namespace StagedBuild

namespace Terminal

/-- What is said of a failed stage, with the lines of its tool. -/
theorem complaint_stageFailed (stage : Stage) (lines : List String) :
    complaint (.stageFailed stage lines) =
      Bytes.ofString ("\x1b[31merror:\x1b[0m " ++ stage.label ++ " failed\n") ++
        if lines = [] then [] else Bytes.lineFeed :: Bytes.ofString (Lines.unlines lines) := by
  have heading : line (shown .red "error:" ++ " " ++ (stage.label ++ " failed")) =
      Bytes.ofString ("\x1b[31merror:\x1b[0m " ++ stage.label ++ " failed\n") := by
    have text : shown .red "error:" ++ " " ++ (stage.label ++ " failed") ++ "\n" =
        "\x1b[31merror:\x1b[0m " ++ stage.label ++ " failed\n" := by
      cases stage <;> decide +kernel
    have feed : [Bytes.lineFeed] = Bytes.ofString "\n" := by decide
    rw [line, feed, ← Bytes.ofString_append, text]
  have shownLines : diagnostics (.stageFailed stage lines) =
      if lines = [] then [] else Bytes.lineFeed :: Bytes.ofString (Lines.unlines lines) := by
    cases lines with
    | nil => rfl
    | cons first others =>
      rw [if_neg (List.cons_ne_nil first others), diagnostics]
      simp only [BuildError.diagnostics, Lines.writeLines_unbounded]
      rfl
  have unhinted : hint (.stageFailed stage lines) = [] := rfl
  have parts : complaint (.stageFailed stage lines) =
      line (shown .red "error:" ++ " " ++ (stage.label ++ " failed")) ++
        diagnostics (.stageFailed stage lines) ++ hint (.stageFailed stage lines) := rfl
  rw [parts, heading, shownLines, unhinted, List.append_nil]

end Terminal

namespace Session

open Pipeline (Reached verdict)

variable {σ : Type}

/-- The build of a session ends with a tool that fails its stage. -/
theorem run_of_failed_tool {setting : Setting σ} {tools₀ tools₂ : σ} {disk₀ disk₁ disk₂ : Disk}
    {request : Request} {toolchain : Toolchain} {stage : Stage} {main? : Option String}
    {output : ToolOutput}
    (here : Reached (pipeline setting toolchain) request tools₀ disk₀ stage)
    (ready : (pipeline setting toolchain).prepare request stage here.disk = (.ok main?, disk₁))
    (answered : setting.tools.answer (toolchain.callOf request stage main?) here.tools disk₁ =
      (.ended output, tools₂, disk₂))
    (bad : verdict stage output ≠ .ok ()) :
    ∃ log disk', ((pipeline setting toolchain).run request).run tools₀ disk₀ =
      ⟨log, .error (.failed (.stageFailed stage output.lines)), tools₂, disk'⟩ := by
  cases came : verdict stage output with
  | ok u => exact absurd came bad
  | error error =>
    obtain rfl := Pipeline.verdict_eq_error came
    have refused := Pipeline.outcome_of_refused came (Pipeline.cleanUp request stage disk₂).1
    exact ⟨_, _, here.run_of_stop (Pipeline.run_stage_called ready answered refused)⟩

/-- A process that was started is captured with what it printed as its result and then
its complaints, whatever it does.  A session whose tool printed so and failed its stage exits with 255.
It complains with the name of the stage and, if there are lines, an empty line and all
of them, and they can be read back. -/
theorem failure_diagnostics (setting : Setting σ) (arguments : Arguments) :
    (∀ (execution : Machine.Execution) env call disk loaded there,
      Machine.start env disk call = .ok (loaded, there) →
      let finished := execution env there loaded
      ((Machine.toolboxBy execution env).answer call () disk).1 =
        .ended (.ofBytes finished.succeeded (finished.printed ++ finished.complaints))) ∧
    ∀ {tools₀ tools₂ : σ} {disk₀ disk₁ disk₂ : Disk} {request : Request}
      {toolchain : Toolchain} {stage : Stage} {main? : Option String} {succeeded : Bool}
      {printed complaints : Bytes},
      Request.make arguments.input arguments.output arguments.choice = .ok request →
      disk₀.isThere arguments.input = true →
      Toolchain.discoverBy setting.which arguments.root setting.env disk₀ setting.program =
        .ok toolchain →
      ∀ here : Reached (pipeline setting toolchain) request tools₀ disk₀ stage,
      (pipeline setting toolchain).prepare request stage here.disk = (.ok main?, disk₁) →
      setting.tools.answer (toolchain.callOf request stage main?) here.tools disk₁ =
        (.ended (.ofBytes succeeded (printed ++ complaints)), tools₂, disk₂) →
      verdict stage (.ofBytes succeeded (printed ++ complaints)) ≠ .ok () →
      let lines := Lines.normalize (Utf8.decode (printed ++ complaints))
      let written := Bytes.ofString (Lines.unlines lines)
      let outcome := run setting arguments tools₀ disk₀
      (∃ error, ((build setting arguments).run tools₀ disk₀).result = .error (.failed error) ∧
        error.message = stage.label ++ " failed" ∧ error.diagnostics = lines) ∧
      outcome.status = 255 ∧
      outcome.complaints =
        Bytes.ofString ("\x1b[31merror:\x1b[0m " ++ stage.label ++ " failed\n") ++
          (if lines = [] then [] else Bytes.lineFeed :: written) ∧
      Lines.normalize (Utf8.decode written) = lines := by
  refine ⟨?_, ?_⟩
  · intro execution env call disk loaded there started finished
    rw [Machine.toolboxBy_answer, Machine.answerBy_started execution started]
  · intro tools₀ tools₂ disk₀ disk₁ disk₂ request toolchain stage main? succeeded printed
      complaints made present found here ready answered bad lines written outcome
    obtain ⟨log, disk', stopped⟩ := run_of_failed_tool here ready answered bad
    have ended : outcome = _ := run_of_stopped made present found stopped
    have built : (build setting arguments).run tools₀ disk₀ = _ :=
      build_of_found made present found
    rw [Build.run_bind_error stopped] at built
    refine ⟨⟨_, congrArg Ended.result built, rfl, rfl⟩, ?_, ?_,
      Lines.normalize_decode_written _⟩
    · rw [ended]
      rfl
    · rw [ended]
      exact Terminal.complaint_stageFailed stage lines

end Session

/-! ## A compiler that fails -/

namespace FailedCompiler

def arguments : Arguments :=
  ⟨Bytes.ofString "m.p", Bytes.ofString "out", {}, some (Bytes.ofString "t"), false⟩

/-- A session with scripted tools. -/
def setting : Session.Setting Script :=
  { env := [], program := none, tools := Script.toolbox, elapsed := "1s" }

def request : Request := ⟨arguments.input, arguments.output, "m", arguments.choice⟩

def toolchain : Toolchain := Toolchain.ofRoot (Bytes.ofString "t")

/-- What is printed as the result.  It is no valid text and ends its lines in several
ways. -/
def printed : Bytes := 0xFF :: Bytes.ofString "a\r\r\n\nb"

def complaints : Bytes := Bytes.ofString "c\r"

def script : Script := [.ended false (printed ++ complaints) []]

def disk : Disk := Effect.applyAll ⟨[], []⟩ [.write arguments.input [] false]

/-- The build comes to its first stage. -/
def here : Pipeline.Reached (Session.pipeline setting toolchain) request script disk
    .domainCompile :=
  .ofResult [] [] ⟨[], Artifacts.ofRequest request, none⟩ (by decide) (by decide)

/-- The empty lines are there, and the first complaint goes on with the last line of the
result. -/
theorem compiler_reported :
    let outcome := Session.run setting arguments script disk
    outcome.status = 255 ∧
      outcome.complaints =
        Bytes.ofString "\x1b[31merror:\x1b[0m domain compile failed\n\n\uFFFDa\n\n\nbc\n" := by
  have made : Request.make arguments.input arguments.output arguments.choice = .ok request := by
    decide
  have present : disk.isThere arguments.input = true := by decide
  have found : Toolchain.discoverBy setting.which arguments.root setting.env disk setting.program =
      .ok toolchain := by decide
  have answered : setting.tools.answer (toolchain.callOf request .domainCompile none) here.tools
      here.disk = (.ended (.ofBytes false (printed ++ complaints)), [], here.disk) := rfl
  have bad : Pipeline.verdict .domainCompile (.ofBytes false (printed ++ complaints)) ≠ .ok () := by
    simp [Pipeline.verdict, Pipeline.checkExit, ToolOutput.ofBytes]
  obtain ⟨_, status, complained, _⟩ := (Session.failure_diagnostics setting arguments).2
    made present found here rfl answered bad
  refine ⟨status, ?_⟩
  rw [complained]
  decide +kernel

end FailedCompiler

end StagedBuild
