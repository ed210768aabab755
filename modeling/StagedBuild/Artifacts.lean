import StagedBuild.Request

/-!
# What a build makes

Every file that a stage reads or writes is named here once.  All of them lie in
the output directory.  The model and the support file have fixed names, the
others are named for the unit.
-/

namespace StagedBuild

/-- The files of a build. -/
structure Artifacts where
  /-- The output directory. -/
  output : Path
  /-- The model, made by the domain compiler. -/
  model : Path
  /-- The support file, present only while the model is checked. -/
  support : Path
  /-- The library, made by the model checker. -/
  library : Path
  /-- The native project. -/
  project : Path
  /-- The native program. -/
  binary : Path
deriving DecidableEq, Repr

namespace Artifacts

/-- The name of the model. -/
def modelName : Path := Bytes.ofString "output.zing"

/-- The name of the support file. -/
def supportName : Path := Bytes.ofString "SMRuntime.zing"

/-- The directory of the native program. -/
def binaryFolder : Path := Bytes.ofString "Debug"

/-- The files of a unit in an output directory. -/
def ofUnit (output : Path) (unitName : String) : Artifacts where
  output := output
  model := output.join modelName
  support := output.join supportName
  library := output.join (Bytes.ofString (unitName ++ ".dll"))
  project := output.join (Bytes.ofString (unitName ++ ".vcxproj"))
  binary := (output.join binaryFolder).join (Bytes.ofString (unitName ++ ".exe"))

/-- The files of a request. -/
def ofRequest (request : Request) : Artifacts := ofUnit request.output request.unitName

end Artifacts

end StagedBuild
