import StagedBuild.Environment
import StagedBuild.Machine.Loader
import StagedBuild.Toolbox

/-!
# Starting tools

A call is *started* in two steps.  First the working directory is changed to the
one of the call.  Then the program is found, so a relative path of a program is
read from the new directory.  Only the second step looks at the program.

A tool that starts runs to its end.  What it does there is left to an *execution*.
Its two outputs are taken apart and put one behind the other.  A tool that does not
start has failed, and its output says why.

`answerBy_started` and `answerBy_unstarted` say so, and what holds of all tools that
are programs is proved from them for any execution.
-/

namespace StagedBuild

namespace Machine

/-! ## Starting -/

/-- Whether a call holds a zero byte, which no program can be given. -/
def holdsZero (call : Invocation) : Bool :=
  call.program.contains 0 || call.args.any (·.contains 0) ||
    (call.folder.getD []).contains 0

/-- The disk seen from the directory of a call. -/
def enter (disk : Disk) : Option Path → Except IoError Disk
  | none => .ok disk
  | some folder =>
      match disk.stat folder with
      | .ok (loc, .folder) => .ok { disk with home := loc }
      | .ok _ => .error .notADirectory
      | .error cause => .error cause

/-- The program that a call starts, and the disk as it sees it. -/
def start (env : Environment) (disk : Disk) (call : Invocation) :
    Except IoError (Loaded × Disk) :=
  if holdsZero call then .error .nulInCommand
  else match enter disk call.folder with
    | .error cause => .error cause
    | .ok disk =>
        match Loader.find disk (env.get? "PATH") call.program (call.program :: call.args) with
        | .error cause => .error cause
        | .ok loaded => .ok (loaded, disk)

/-- What is said of a program that does not start. -/
def startComplaint (program : Path) : IoError → String
  | .notFound => program.display ++ ": process not found"
  | cause => program.display ++ ": failed to start: " ++ cause.message

/-! ## Answering -/

/-- How a tool ended. -/
structure Finished where
  /-- Whether its status was 0. -/
  succeeded : Bool
  /-- What it printed as its result. -/
  printed : Bytes
  /-- What it printed as complaints. -/
  complaints : Bytes
  /-- The disk after it. -/
  disk : Disk

/-- What started programs do, in an environment and on the disk as they see it. -/
abbrev Execution := Environment → Disk → Loaded → Finished

/-- The output of a call and the disk after it. -/
def answerBy (execution : Execution) (env : Environment) (call : Invocation) (disk : Disk) :
    ToolOutput × Disk :=
  match start env disk call with
  | .error cause =>
      (ToolOutput.ofBytes false (Bytes.ofString (startComplaint call.program cause)), disk)
  | .ok (loaded, there) =>
      let finished := execution env there loaded
      (ToolOutput.ofBytes finished.succeeded (finished.printed ++ finished.complaints),
        { finished.disk with home := disk.home })

/-- The tools that are programs on the disk. -/
def toolboxBy (execution : Execution) (env : Environment) : Toolbox Unit where
  answer call _ disk :=
    let (output, disk) := answerBy execution env call disk
    (.ended output, (), disk)

theorem toolboxBy_answer (execution : Execution) (env : Environment) (call : Invocation)
    (tools : Unit) (disk : Disk) :
    (toolboxBy execution env).answer call tools disk =
      (.ended (answerBy execution env call disk).1, (), (answerBy execution env call disk).2) := rfl

section Answers

variable (execution : Execution) {env : Environment} {call : Invocation} {disk : Disk}

/-- A tool that starts is captured with what it printed as its result and then its
complaints, and the build goes on where it was. -/
theorem answerBy_started {loaded : Loaded} {there : Disk}
    (started : start env disk call = .ok (loaded, there)) :
    let finished := execution env there loaded
    answerBy execution env call disk =
      (.ofBytes finished.succeeded (finished.printed ++ finished.complaints),
        { finished.disk with home := disk.home }) := by
  intro finished
  rw [answerBy, started]

/-- A tool that does not start has failed and has printed the complaint. -/
theorem answerBy_unstarted {cause : IoError} (unstarted : start env disk call = .error cause) :
    answerBy execution env call disk =
      (.ofBytes false (Bytes.ofString (startComplaint call.program cause)), disk) := by
  rw [answerBy, unstarted]

end Answers

end Machine

/-! ## Toolboxes of programs -/

/-- The tools of a toolbox are started in an environment.  What they do then is not
said. -/
structure Toolbox.Launches {σ : Type} (toolbox : Toolbox σ) (env : Environment) : Prop where
  /-- A call that does not start is answered by the complaint, and the disk stays. -/
  unstarted : ∀ {call : Invocation} {disk : Disk} {cause : IoError} (tools : σ),
    Machine.start env disk call = .error cause →
    ∃ tools', toolbox.answer call tools disk =
      (.ended (.ofBytes false (Bytes.ofString (Machine.startComplaint call.program cause))),
        tools', disk)
  /-- The build stays in its working directory. -/
  home : ∀ call tools disk, (toolbox.answer call tools disk).2.2.home = disk.home

namespace Machine

variable (execution : Execution) (env : Environment)

/-- Whatever programs do, they are launched. -/
theorem toolboxBy_launches : (toolboxBy execution env).Launches env where
  unstarted _ unstarted := by
    refine ⟨(), ?_⟩
    rw [toolboxBy_answer, answerBy_unstarted execution unstarted]
  home call _ disk := by
    rw [toolboxBy_answer]
    cases started : start env disk call with
    | error cause => rw [answerBy_unstarted execution started]
    | ok found => rw [answerBy_started execution started]

/-- Programs come to an end in every call. -/
theorem toolboxBy_returns : (toolboxBy execution env).Returns := nofun

end Machine

end StagedBuild
