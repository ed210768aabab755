import StagedBuild.Text.Lines
import StagedBuild.Text.Utf8

/-!
# What a tool printed

Standard output and standard error of a tool are read together as text and taken
apart into lines.

The exit status of the native build tool says little, so its output decides: a
build succeeded if a line holds `succeededMarker`.
-/

namespace StagedBuild

/-- How a tool ended and what it printed. -/
structure ToolOutput where
  /-- Whether the tool exited with 0. -/
  succeeded : Bool
  /-- What it printed. -/
  text : String
  /-- The lines of that. -/
  lines : List String
deriving DecidableEq, Repr

/-- The output of a tool that printed some bytes. -/
def ToolOutput.ofBytes (succeeded : Bool) (bytes : Bytes) : ToolOutput :=
  let text := Utf8.decode bytes
  ⟨succeeded, text, Lines.normalize text⟩

/-! ## The native build -/

/-- What the output of the native build tool says. -/
inductive BuildVerdict where
  /-- A line says that the build succeeded. -/
  | succeeded
  /-- No line says so, and one says that it failed. -/
  | failed
  /-- No line says either. -/
  | inconclusive
deriving DecidableEq, Repr

namespace BuildVerdict

/-- The text that a successful build prints. -/
def succeededMarker : String := "Build succeeded."

/-- The text that a failed build prints. -/
def failedMarker : String := "Build FAILED."

/-- Whether a line holds a marker. -/
def holds (marker line : String) : Bool := isPartOf marker.toList line.toList

/-- The verdict on some lines. -/
def ofLines (lines : List String) : BuildVerdict :=
  if lines.any (holds succeededMarker) then .succeeded
  else if lines.any (holds failedMarker) then .failed
  else .inconclusive

/-- Whether the lines are those of a successful build. -/
def isSuccess (lines : List String) : Bool := ofLines lines == .succeeded

end BuildVerdict

end StagedBuild
