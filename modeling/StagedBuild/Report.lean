import StagedBuild.Artifacts

/-!
# Reports of builds

The report of a build says which stages ran, where the artifacts are and which
machine runs first, if that was looked up.
-/

namespace StagedBuild

/-- What a build did. -/
structure Report where
  /-- The stages that ran, in order. -/
  stagesRun : List Stage
  /-- Where the artifacts are. -/
  artifacts : Artifacts
  /-- The main machine, if a project was generated. -/
  mainMachine : Option String
deriving DecidableEq, Repr

namespace Report

/-- The native program, if it was built. -/
def binary? (report : Report) : Option Path :=
  if report.stagesRun.contains .nativeBuild then some report.artifacts.binary else none

end Report

end StagedBuild
