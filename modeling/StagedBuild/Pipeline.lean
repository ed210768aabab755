import StagedBuild.MainMachine
import StagedBuild.Report
import StagedBuild.SupportCopy
import StagedBuild.Toolbox
import StagedBuild.Toolchain

/-!
# Running a build

`Pipeline.run` makes the output directory and runs the planned stages in order.
Each stage calls one tool.  A stage that fails stops the build, and so does a
tool that is thrown out of its call.  Files made before stay.

* The domain compiler and the project generator fail by their exit status.
* The model checker has the support file beside the model while it runs.  The
  copy is removed however the tool ends.  If the tool fails and the removal
  fails, the failure of the tool is reported.
* The project generator is told the main machine, read off the program as it is
  then.
* The native build tool fails by what it prints and not by its exit status.

The arguments of each call are given by one definition for each stage.
-/

namespace StagedBuild

/-- What a build works with. -/
structure Pipeline (σ ε : Type) where
  /-- Where the tools are. -/
  toolchain : Toolchain
  /-- What answers their calls. -/
  tools : Toolbox σ
  /-- The name of the main machine of a program. -/
  mainMachine? : String → Option String := MainMachine.find?
  /-- Who watches. -/
  observer : Observer ε

/-! ## Calls -/

namespace Toolchain

/-- The last component of a path, or the path itself if that is no name. -/
def nameOrPath (p : Path) : Path := p.fileName?.getD p

/-- The call of the domain compiler. -/
def domainCompileCall (toolchain : Toolchain) (request : Request) : Invocation :=
  ((((Invocation.ofProgram toolchain.domainCompiler).arg (Bytes.ofString "/doNotErase")).arg
    request.source).arg toolchain.dataFolder).arg
    (Bytes.ofString "/outputDir:" ++ request.output)

/-- The call of the model checker, in the output directory. -/
def modelCheckCall (toolchain : Toolchain) (artifacts : Artifacts) : Invocation :=
  (((((Invocation.ofProgram toolchain.modelChecker).arg (Bytes.ofString "-nowarning:292")).arg
    (nameOrPath artifacts.model)).arg (nameOrPath artifacts.support)).arg
    (Bytes.ofString "/out:" ++ nameOrPath artifacts.library)).inFolder artifacts.output

/-- The call of the project generator for a main machine. -/
def generateCall (toolchain : Toolchain) (request : Request) (mainMachine : String) :
    Invocation :=
  ((((((Invocation.ofProgram toolchain.projectGenerator).arg request.output).arg
    (Bytes.ofString request.unitName)).arg toolchain.includeFolder).arg
    toolchain.libraryFolder).arg (Bytes.ofString mainMachine)).arg
    (Bytes.ofString (if toolchain.testHarness then "true" else "false"))

/-- The call of the native build tool. -/
def nativeBuildCall (toolchain : Toolchain) (artifacts : Artifacts) : Invocation :=
  (Invocation.ofProgram toolchain.nativeBuild).arg artifacts.project

end Toolchain

namespace Pipeline

variable {σ ε : Type}

/-! ## Stages -/

/-- Whether a tool ended well, by its exit status. -/
def checkExit (stage : Stage) (output : ToolOutput) : Except BuildError Unit :=
  if output.succeeded then .ok () else .error (.stageFailed stage output.lines)

/-- Whether the native build ended well, by what the tool printed. -/
def checkVerdict (output : ToolOutput) : Except BuildError Unit :=
  if BuildVerdict.isSuccess output.lines then .ok ()
  else .error (.stageFailed .nativeBuild output.lines)

/-- Call a tool and stop if it is thrown out. -/
def callTool (pipeline : Pipeline σ ε) (call : Invocation) : Build σ ε ToolOutput := do
  match ← pipeline.tools.call pipeline.observer call with
  | .ended output => pure output
  | .thrown => Build.stop .thrown

/-- The first stage. -/
def domainCompile (pipeline : Pipeline σ ε) (request : Request) : Build σ ε Unit := do
  let output ← pipeline.callTool (pipeline.toolchain.domainCompileCall request)
  Build.ofResult (checkExit .domainCompile output)

/-- The second stage. -/
def modelCheck (pipeline : Pipeline σ ε) (artifacts : Artifacts) : Build σ ε Unit := do
  let copy ← SupportCopy.make pipeline.toolchain.supportFile artifacts.support
  match ← pipeline.tools.call pipeline.observer (pipeline.toolchain.modelCheckCall artifacts) with
  | .thrown => do
      copy.drop pipeline.observer
      Build.stop .thrown
  | .ended output => do
      let removed ← copy.remove pipeline.observer
      Build.ofResult (checkExit .modelCheck output)
      Build.ofResult removed

/-- The main machine of the program of a request, as the program is now. -/
def lookUpMain (pipeline : Pipeline σ ε) (request : Request) : Build σ ε String := do
  let bytes ← Build.onFile request.source (Disk.readFile request.source)
  match pipeline.mainMachine? (Utf8.decode bytes) with
  | some name => pure name
  | none => Build.fail (.noMainMachine request.source)

/-- The third stage.  Its result is the main machine. -/
def generateProject (pipeline : Pipeline σ ε) (request : Request) : Build σ ε String := do
  let name ← pipeline.lookUpMain request
  Build.note (pipeline.observer.foundMain name)
  let output ← pipeline.callTool (pipeline.toolchain.generateCall request name)
  Build.ofResult (checkExit .generateProject output)
  pure name

/-- The last stage. -/
def nativeBuild (pipeline : Pipeline σ ε) (artifacts : Artifacts) : Build σ ε Unit := do
  let output ← pipeline.callTool (pipeline.toolchain.nativeBuildCall artifacts)
  Build.ofResult (checkVerdict output)

/-- What a stage does between its start and its end.  The result is the main
machine, if the stage looks it up. -/
def body (pipeline : Pipeline σ ε) (request : Request) : Stage → Build σ ε (Option String)
  | .domainCompile => do
      pipeline.domainCompile request
      pure none
  | .modelCheck => do
      pipeline.modelCheck (Artifacts.ofRequest request)
      pure none
  | .generateProject => do
      let name ← pipeline.generateProject request
      pure (some name)
  | .nativeBuild => do
      pipeline.nativeBuild (Artifacts.ofRequest request)
      pure none

/-! ## The run -/

/-- A stage with its events. -/
def stage (pipeline : Pipeline σ ε) (request : Request) (stage : Stage) :
    Build σ ε (Option String) := do
  Build.note (pipeline.observer.started stage)
  match ← Build.attempt (pipeline.body request stage) with
  | .ok name? => do
      Build.note (pipeline.observer.completed stage)
      pure name?
  | .error (.failed error) => do
      Build.note (pipeline.observer.failed stage error)
      Build.fail error
  | .error .thrown => Build.stop .thrown

/-- Some stages, one after the other, with the report so far. -/
def stages (pipeline : Pipeline σ ε) (request : Request) :
    Report → List Stage → Build σ ε Report
  | report, [] => pure report
  | report, next :: later => do
      let name? ← pipeline.stage request next
      pipeline.stages request
        { report with
          stagesRun := report.stagesRun ++ [next]
          mainMachine := name?.or report.mainMachine }
        later

/-- Build what a request asks for. -/
def run (pipeline : Pipeline σ ε) (request : Request) : Build σ ε Report := do
  Build.onFile request.output (Disk.makeFolders request.output)
  pipeline.stages request ⟨[], Artifacts.ofRequest request, none⟩ request.planned

end Pipeline

end StagedBuild
