import StagedBuild.Batch
import StagedBuild.Disk.Listing
import StagedBuild.Main
import StagedBuild.Proofs.ArtifactLayout
import StagedBuild.Proofs.DataFlow
import StagedBuild.Proofs.DeclarationInPlace
import StagedBuild.Proofs.DeclarationPattern
import StagedBuild.Proofs.Declarations
import StagedBuild.Proofs.Decoding
import StagedBuild.Proofs.Diagnostics
import StagedBuild.Proofs.DiskFrames
import StagedBuild.Proofs.DiskSteps
import StagedBuild.Proofs.Footprint
import StagedBuild.Proofs.FullSinks
import StagedBuild.Proofs.LineSplitting
import StagedBuild.Proofs.LineWriting
import StagedBuild.Proofs.NativeVerdict
import StagedBuild.Proofs.PathParts
import StagedBuild.Proofs.ProgramLookup
import StagedBuild.Proofs.RunProtocol
import StagedBuild.Proofs.SessionOutcomes
import StagedBuild.Proofs.StartFailures
import StagedBuild.Proofs.StreamLines
import StagedBuild.Proofs.SupportScope
import StagedBuild.Proofs.SupportSurvival
import StagedBuild.Proofs.TextInPlace
import StagedBuild.Register
import StagedBuild.Script
import StagedBuild.Proofs.FirstDeclaration
import StagedBuild.Proofs.SupportFailures
import StagedBuild.Proofs.CopyLives
import StagedBuild.Proofs.LongerPlans
import StagedBuild.Proofs.Observation
import StagedBuild.Proofs.SilencedTools
import StagedBuild.Proofs.UnitNames
import StagedBuild.Proofs.ProgressOutput
