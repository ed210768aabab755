import Mathlib.Control.Monad.Basic
import Mathlib.Data.List.Infix
import StagedBuild.Proofs.Decoding
import StagedBuild.Proofs.LineSplitting
import StagedBuild.Proofs.RunParts
import StagedBuild.Script

/-!
# The verdict on the native build

The verdict is read off the lines of the decoded output.  It is the same as a
search in the bytes: a `Marker` is found in a line if and only if its bytes stand
together in what the tool printed (`any_holds_iff`), whatever stands around them.
`native_build_verdict` says so for the verdict and for the runs that come to the
native build.
-/

namespace StagedBuild

/-- A text that is the same in bytes, in characters and in lines: plain, not empty
and without line ends. -/
structure Marker (marker : String) : Prop where
  /-- Its characters are those of ASCII. -/
  ascii : ∀ c ∈ marker.toList, IsAscii c
  /-- It is not empty. -/
  ne_nil : marker.toList ≠ []
  /-- It has no carriage return. -/
  return_notMem : '\r' ∉ marker.toList
  /-- It has no line feed. -/
  feed_notMem : '\n' ∉ marker.toList

namespace BuildVerdict

theorem marker_succeeded : Marker succeededMarker :=
  ⟨ascii_of_all (by decide), by decide, by decide, by decide⟩

theorem marker_failed : Marker failedMarker :=
  ⟨ascii_of_all (by decide), by decide, by decide, by decide⟩

/-- A marker is in a line of an output if and only if its bytes are in the bytes. -/
theorem any_holds_iff {marker : String} (h : Marker marker) (succeeded : Bool) (raw : Bytes) :
    (ToolOutput.ofBytes succeeded raw).lines.any (holds marker) = true ↔
      Bytes.ofString marker <:+: raw := by
  have inLines := Lines.infix_cut_unify_iff h.ne_nil h.return_notMem h.feed_notMem
    (Utf8.decodeChars raw)
  have inBytes := Utf8.infix_decodeChars_iff h.ascii h.ne_nil raw
  rw [Bytes.ofString, ← inBytes, ← inLines]
  simp [ToolOutput.ofBytes, Lines.normalize, Utf8.decode, holds, isPartOf_iff]

/-- The verdict on an output, by its bytes. -/
theorem ofLines_ofBytes (succeeded : Bool) (raw : Bytes) :
    ofLines (ToolOutput.ofBytes succeeded raw).lines =
      if Bytes.ofString succeededMarker <:+: raw then .succeeded
      else if Bytes.ofString failedMarker <:+: raw then .failed
      else .inconclusive := by
  simp only [ofLines, any_holds_iff marker_succeeded, any_holds_iff marker_failed]

end BuildVerdict

namespace Pipeline

variable {σ ε : Type}

/-- No stage is planned behind the native build. -/
theorem later_of_nativeBuild {request : Request} {before later : List Stage}
    (h : request.planned = before ++ .nativeBuild :: later) : later = [] := by
  rw [List.eq_nil_iff_forall_not_mem]
  intro next mem
  have order := planned_in_order h mem
  cases next <;> exact absurd order (by decide)

/-- The verdict of the native build on an output, by its bytes. -/
theorem verdict_ofBytes (succeeded : Bool) (raw : Bytes) :
    verdict .nativeBuild (ToolOutput.ofBytes succeeded raw) =
      if Bytes.ofString BuildVerdict.succeededMarker <:+: raw then .ok ()
      else .error (.stageFailed .nativeBuild (Lines.normalize (Utf8.decode raw))) := by
  rw [verdict, checkVerdict, BuildVerdict.isSuccess, BuildVerdict.ofLines_ofBytes]
  by_cases found : Bytes.ofString BuildVerdict.succeededMarker <:+: raw
  · rw [if_pos found, if_pos found]
    rfl
  · rw [if_neg found, if_neg found]
    split <;> rfl

/-- The native build with its events. -/
theorem run_nativeBuild_stage {pipeline : Pipeline σ ε} {request : Request} {tools tools₂ : σ}
    {disk disk₂ : Disk} {output : ToolOutput} {judgement : Except BuildError Unit}
    (answered : pipeline.tools.answer
      (pipeline.toolchain.nativeBuildCall (Artifacts.ofRequest request)) tools disk =
        (.ended output, tools₂, disk₂))
    (came : verdict .nativeBuild output = judgement) :
    ((pipeline.watchedBy Observer.full).stage request .nativeBuild).run tools disk =
      ⟨.started .nativeBuild ::
          .called (pipeline.toolchain.nativeBuildCall (Artifacts.ofRequest request)) disk
            (.ended output) ::
          Observer.full.ending .nativeBuild (judgement.mapError .failed),
        (judgement.mapError .failed).map fun () => none, tools₂, disk₂⟩ := by
  have ready : (pipeline.watchedBy Observer.full).prepare request .nativeBuild disk =
      (.ok none, disk) := rfl
  have ended : outcome .nativeBuild (.ok ()) (.ended output) = judgement.mapError .failed := by
    rw [outcome_ok, judged, came]
  exact run_stage_called ready answered ended

/-- The verdict on what the native build tool printed is a search in the bytes: for
the marker of success, and then for that of failure.  A run whose native build
tool printed some bytes is complete if they have the marker of success.  If not
it fails with their lines.  The exit status says nothing. -/
theorem native_build_verdict (pipeline : Pipeline σ ε) :
    (∀ succeeded raw, BuildVerdict.ofLines (ToolOutput.ofBytes succeeded raw).lines =
      if Bytes.ofString BuildVerdict.succeededMarker <:+: raw then .succeeded
      else if Bytes.ofString BuildVerdict.failedMarker <:+: raw then .failed
      else .inconclusive) ∧
    ∀ {request : Request} {tools₀ tools₂ : σ} {disk₀ disk₂ : Disk} {succeeded : Bool}
      {raw : Bytes}
      (here : Reached (pipeline.watchedBy Observer.full) request tools₀ disk₀ .nativeBuild),
      pipeline.tools.answer (pipeline.toolchain.nativeBuildCall (Artifacts.ofRequest request))
        here.tools here.disk = (.ended (ToolOutput.ofBytes succeeded raw), tools₂, disk₂) →
      let called := here.log ++ [.started .nativeBuild,
        .called (pipeline.toolchain.nativeBuildCall (Artifacts.ofRequest request)) here.disk
          (.ended (ToolOutput.ofBytes succeeded raw))]
      let error : BuildError := .stageFailed .nativeBuild (Lines.normalize (Utf8.decode raw))
      ((pipeline.watchedBy Observer.full).run request).run tools₀ disk₀ =
        if Bytes.ofString BuildVerdict.succeededMarker <:+: raw then
          ⟨called ++ [.completed .nativeBuild], .ok (here.report.withStage .nativeBuild none),
            tools₂, disk₂⟩
        else
          ⟨called ++ [.failed .nativeBuild error], .error (.failed error), tools₂, disk₂⟩ := by
  refine ⟨BuildVerdict.ofLines_ofBytes, ?_⟩
  intro request tools₀ tools₂ disk₀ disk₂ succeeded raw here answered called error
  have came := verdict_ofBytes succeeded raw
  by_cases found : Bytes.ofString BuildVerdict.succeededMarker <:+: raw
  · rw [if_pos found] at came ⊢
    rw [here.run_of_done (run_nativeBuild_stage answered came), later_of_nativeBuild here.planned]
    simp [stages, Ended.behind, Observer.ending, Observer.full, called]
  · rw [if_neg found] at came ⊢
    rw [here.run_of_stop (run_nativeBuild_stage answered came)]
    simp [Observer.ending, Observer.full, called, error]

end Pipeline

/-! ## A build that succeeds with a bad exit status -/

namespace BadExit

/-- A request for a native build. -/
def request : Request := ⟨Bytes.ofString "m.p", Bytes.ofString "out", "m", ⟨false, true, true⟩⟩

/-- A pipeline with scripted tools. -/
def pipeline : Pipeline Script Event where
  toolchain := Toolchain.ofRoot (Bytes.ofString "t")
  tools := Script.toolbox
  observer := Observer.full

/-- The marker of success between bytes that are no text. -/
def raw : Bytes := 0xE2 :: Bytes.ofString "Build succeeded." ++ [0x80]

/-- The native build tool prints the marker and exits with another status than 0. -/
def script : Script := [.ended true [] [], .ended true [] [], .ended false raw []]

/-- A disk with the program. -/
def disk : Disk :=
  Effect.applyAll ⟨[], []⟩ [.write request.source (Bytes.ofString "main machine M") false]

/-- The run comes to the native build. -/
def here : Pipeline.Reached (pipeline.watchedBy Observer.full) request script disk .nativeBuild :=
  .ofResult [.domainCompile, .generateProject] []
    ⟨[.domainCompile, .generateProject], Artifacts.ofRequest request, some "M"⟩ (by decide)
    (by decide +kernel)

/-- The run is complete. -/
theorem native_build_complete :
    ((pipeline.run request).run script disk).result =
      .ok (here.report.withStage .nativeBuild none) := by
  have answered : pipeline.tools.answer
      (pipeline.toolchain.nativeBuildCall (Artifacts.ofRequest request)) here.tools here.disk =
        (.ended (ToolOutput.ofBytes false raw), [], here.disk) := by
    have left : here.tools = [.ended false raw []] := by decide +kernel
    rw [left]
    rfl
  have found : Bytes.ofString BuildVerdict.succeededMarker <:+: raw := ⟨[0xE2], [0x80], rfl⟩
  have ended := (Pipeline.native_build_verdict pipeline).2 here answered
  exact congrArg Ended.result (ended.trans (if_pos found))

end BadExit

end StagedBuild
