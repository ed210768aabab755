/-!
# The stages of a build

A build has at most four stages, always in the same order.  The first one always
runs.  `StageChoice` says which of the others do, and `StageChoice.planned` lists
those that do in order.
-/

namespace StagedBuild

/-- A stage of a build. -/
inductive Stage where
  /-- The domain compiler turns the program into a model. -/
  | domainCompile
  /-- The model checker compiles the model. -/
  | modelCheck
  /-- The project generator writes a native project. -/
  | generateProject
  /-- The native build tool builds the project. -/
  | nativeBuild
deriving DecidableEq, Repr

namespace Stage

/-- Every stage, in the order in which they run. -/
def all : List Stage := [.domainCompile, .modelCheck, .generateProject, .nativeBuild]

theorem mem_all (stage : Stage) : stage ∈ all := by cases stage <;> decide

theorem all_nodup : all.Nodup := by decide

/-- What users read for a stage. -/
def label : Stage → String
  | .domainCompile => "domain compile"
  | .modelCheck => "model check"
  | .generateProject => "project generation"
  | .nativeBuild => "native build"

end Stage

/-- Which of the optional stages run. -/
structure StageChoice where
  /-- Run the model checker. -/
  modelCheck : Bool := false
  /-- Generate a native project. -/
  generateProject : Bool := false
  /-- Build the native project. -/
  nativeBuild : Bool := false
deriving DecidableEq, Repr

namespace StageChoice

/-- Whether a stage runs. -/
def contains (choice : StageChoice) : Stage → Bool
  | .domainCompile => true
  | .modelCheck => choice.modelCheck
  | .generateProject => choice.generateProject
  | .nativeBuild => choice.nativeBuild

/-- The stages that run, in order. -/
def planned (choice : StageChoice) : List Stage := Stage.all.filter choice.contains

theorem mem_planned {choice : StageChoice} {stage : Stage} :
    stage ∈ choice.planned ↔ choice.contains stage = true := by
  simp [planned, Stage.mem_all]

end StageChoice

end StagedBuild
