import StagedBuild.IoError
import StagedBuild.Path
import StagedBuild.Stage

/-!
# Why a build fails

Each constructor is one cause, with the values that its message shows.  A build
that is refused as a request exits with 2 and any other failure with 255.
-/

namespace StagedBuild

/-- Why a build fails. -/
inductive BuildError where
  /-- The request makes no sense, for the given reason. -/
  | invalidRequest (reason : String)
  /-- The native build is asked for without the project that it builds. -/
  | nativeBuildWithoutProject
  /-- The program declares no main machine. -/
  | noMainMachine (source : Path)
  /-- The tool of a stage failed and printed these lines. -/
  | stageFailed (stage : Stage) (lines : List String)
  /-- An operation on a file failed. -/
  | file (path : Path) (cause : IoError)
  /-- The tools cannot be located, for the given reason. -/
  | toolchain (reason : String)
deriving DecidableEq, Repr

namespace BuildError

/-- What users read. -/
def message : BuildError → String
  | .invalidRequest reason => "invalid request: " ++ reason
  | .nativeBuildWithoutProject =>
      "invalid request: --cc requires --proj, the native build needs the generated project"
  | .noMainMachine source => "no main machine declaration found in " ++ source.display
  | .stageFailed stage _ => stage.label ++ " failed"
  | .file path cause => "IO error at " ++ path.display ++ ": " ++ cause.message
  | .toolchain reason => "toolchain error: " ++ reason

/-- Whether the request itself was refused. -/
def isRefusal : BuildError → Bool
  | .invalidRequest _ => true
  | .nativeBuildWithoutProject => true
  | _ => false

/-- The exit status of a command that fails so. -/
def exitStatus (error : BuildError) : Nat := if error.isRefusal then 2 else 255

/-- What the failed tool printed. -/
def diagnostics : BuildError → List String
  | .stageFailed _ lines => lines
  | _ => []

/-- What the user may do about it. -/
def hint? : BuildError → Option String
  | .nativeBuildWithoutProject =>
      some "pass --proj together with --cc so the project file exists before building"
  | .noMainMachine _ =>
      some "declare the entry point as `main machine <Name>` in the source program"
  | .toolchain _ =>
      some "set PFORGE_ROOT or pass --toolchain-root to point at the P toolchain"
  | _ => none

/-- The cause of a failed operation on a file. -/
def cause? : BuildError → Option IoError
  | .file _ cause => some cause
  | _ => none

end BuildError

end StagedBuild
