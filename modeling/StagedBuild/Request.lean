import StagedBuild.BuildError

/-!
# Build requests

A request names a program, an output directory and the stages to run.  The
program's file name without its extension is the name of the *unit*, from which
artifacts take their names.  `Request.make` refuses a native build without its
project, and then a source path that names no unit.
-/

namespace StagedBuild

/-- What is to be built. -/
structure Request where
  /-- The program. -/
  source : Path
  /-- The directory for what is made. -/
  output : Path
  /-- The name of the unit. -/
  unitName : String
  /-- The stages to run. -/
  choice : StageChoice
deriving DecidableEq, Repr

namespace Request

/-- The name of the unit in a source file. -/
def unitNameOf? (source : Path) : Option String :=
  (source.fileStem?.map Utf8.decode).filter (· ≠ "")

/-- A request, if it makes sense. -/
def make (source output : Path) (choice : StageChoice) : Except BuildError Request :=
  if choice.nativeBuild && !choice.generateProject then .error .nativeBuildWithoutProject
  else match unitNameOf? source with
    | some unitName => .ok ⟨source, output, unitName, choice⟩
    | none =>
        .error (.invalidRequest ("cannot derive a unit name from '" ++ source.display ++ "'"))

/-- The stages that run, in order. -/
def planned (request : Request) : List Stage := request.choice.planned

end Request

end StagedBuild
