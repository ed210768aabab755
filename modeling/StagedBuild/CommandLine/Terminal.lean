import StagedBuild.Observer
import StagedBuild.Report
import StagedBuild.Request
import StagedBuild.Text.Lines

/-!
# What the command prints

A build shows its progress, one line for each event, and a summary at its end.
`Terminal.observer` logs the bytes that are printed at each event.  A build that
fails prints its error, what the failed tool printed and a hint.
-/

namespace StagedBuild

namespace Terminal

/-! ## Colours -/

/-- A way to show text. -/
inductive Colour where
  /-- As usual. -/
  | reset
  /-- Bold. -/
  | bold
  /-- Dim. -/
  | dim
  /-- Red. -/
  | red
  /-- Green. -/
  | green
  /-- Yellow. -/
  | yellow
  /-- Blue. -/
  | blue
  /-- Cyan. -/
  | cyan
deriving DecidableEq, Repr

/-- The number of a way to show text. -/
def Colour.number : Colour → String
  | .reset => "0"
  | .bold => "1"
  | .dim => "2"
  | .red => "31"
  | .green => "32"
  | .yellow => "33"
  | .blue => "34"
  | .cyan => "36"

/-- The sequence that switches to a way to show text. -/
def Colour.code (colour : Colour) : String := "\x1b[" ++ colour.number ++ "m"

/-- A text shown in a way, and what follows as usual. -/
def shown (colour : Colour) (text : String) : String := colour.code ++ text ++ Colour.reset.code

/-- A line as bytes. -/
def line (text : String) : Bytes := Bytes.ofString text ++ [Bytes.lineFeed]

/-! ## Progress -/

/-- What a stage is called while it runs. -/
def activity : Stage → String
  | .domainCompile => "Running PCompiler"
  | .modelCheck => "Running zc"
  | .generateProject => "Generating project"
  | .nativeBuild => "Building generated C"

/-- The line at the start of a stage. -/
def startedLine (stage : Stage) : Bytes := line (shown .blue ("  ◆ " ++ activity stage) ++ " ...")

/-- The line at the end of a stage. -/
def completedLine (stage : Stage) : Bytes := line ("    " ++ shown .green "✓" ++ " " ++ stage.label)

/-- The line that names the main machine. -/
def mainLine (name : String) : Bytes := line ("    Main machine is " ++ shown .cyan name)

/-- The line at the failure of a stage. -/
def failedLine (stage : Stage) : Bytes := line ("    " ++ shown .red "✗" ++ " " ++ stage.label)

/-- Prints the progress of a build. -/
def observer : Observer Bytes where
  started stage := [startedLine stage]
  completed stage := [completedLine stage]
  foundMain name := [mainLine name]
  failed stage _ := [failedLine stage]

/-! ## Start and end -/

/-- What is printed before a build. -/
def header (input : Path) : Bytes :=
  line "" ++ line (shown .bold "pforge" ++ " - Building " ++
    shown .cyan (Path.display ((Path.fileName? input).getD []))) ++ line ""

/-- The line that says how long a build took. -/
def timeLine (elapsed : String) : Bytes := line (shown .dim "Time:" ++ " " ++ elapsed)

/-- The line that says what was made: the native program, or the output
directory. -/
def madeLine (request : Request) (report : Report) : Bytes :=
  match report.binary? with
  | some binary => line (shown .green "Built:" ++ " " ++ Path.display binary)
  | none => line (shown .green "Output:" ++ " " ++ Path.display request.output)

/-- The line that lists the stages. -/
def stagesLine (report : Report) : Bytes :=
  line (shown .dim "Stages:" ++ " " ++ ", ".intercalate (report.stagesRun.map Stage.label))

/-- What is printed after a build. -/
def summary (request : Request) (report : Report) (elapsed : String) : Bytes :=
  line "" ++ madeLine request report ++ stagesLine report ++ timeLine elapsed

/-- What is printed of the version. -/
def versionLine : Bytes := line "pforge 0.1.0"

/-- How the command is used. -/
def usageLine : Bytes := line "Usage: pforge [OPTIONS] <INPUT.p> <OUTPUT_DIR>"

/-- What is printed of the arguments. -/
def helpText : Bytes :=
  line "Compile a P program and drive it through the native toolchain" ++ line "" ++ usageLine ++
    line "" ++ line "Options:" ++
    line "      --zc                    Run the Zing compiler on the generated model" ++
    line "      --proj                  Generate a native project for the generated C code" ++
    line "      --cc                    Build the generated C code (requires --proj)" ++
    line "      --toolchain-root <DIR>  Root of the P toolchain (defaults to $PFORGE_ROOT)" ++
    line "  -v, --verbose               Enable verbose logging" ++
    line "  -h, --help                  Print help" ++
    line "  -V, --version               Print version"

/-- What is printed of arguments that do not fit. -/
def misuseText : Bytes := line "error: the arguments do not fit" ++ line "" ++ usageLine

/-! ## Failure -/

/-- What the failed tool printed, behind an empty line. -/
def diagnostics (error : BuildError) : Bytes :=
  match error.diagnostics with
  | [] => []
  | lines => line "" ++ (Lines.writeLines .unbounded lines).2.written

/-- The hint, behind an empty line. -/
def hint (error : BuildError) : Bytes :=
  match error.hint? with
  | none => []
  | some text => line "" ++ line (shown .yellow "hint:" ++ " " ++ text)

/-- What is printed of an error. -/
def complaint (error : BuildError) : Bytes :=
  line (shown .red "error:" ++ " " ++ error.message) ++ diagnostics error ++ hint error

end Terminal

end StagedBuild
