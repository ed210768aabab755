import StagedBuild.CommandLine.Session
import StagedBuild.Disk.Effect
import StagedBuild.Machine.Launch
import StagedBuild.Proofs.RunProtocol

/-!
# How a session ends

A session has four gates: the flags, the name of the unit, the input and the root
of the tools.  One that does not pass a gate is *rejected*: it has printed no
result, has called no tool and has left the disk alone.  That holds for every
toolbox, so also for one whose state counts the calls.

A session that passes all gates ends as its build does.  No error of a build is a
refusal (`run_not_refusal`), so the exit status 2 is left to the first three gates.
`session_outcome` says what becomes of every session.
-/

namespace StagedBuild

/-! ## Errors of a build -/

namespace Pipeline

open Protocol

variable {σ ε : Type} {pipeline : Pipeline σ ε} {request : Request} {error : BuildError}

theorem fails_not_refusal {toolchain : Toolchain} {stage : Stage}
    (why : Fails toolchain request stage error) : error.isRefusal = false := by
  rcases why with unready | ⟨output, refused⟩
  · cases unready with
    | copy cause => rfl
    | source cause => rfl
    | main => rfl
  · cases refused with
    | tool bad => rfl
    | removal well cause => rfl

/-- A build that has begun does not fail as a refused request. -/
theorem run_not_refusal {tools : σ} {disk : Disk}
    (h : ((pipeline.run request).run tools disk).result = .error (.failed error)) :
    error.isRefusal = false := by
  rw [run_eq_runUpTo] at h
  rcases runUpTo_cases pipeline request request.planned tools disk with
    ⟨cause, unmade⟩ | ⟨_, made⟩
  · rw [unmade] at h
    cases h
    rfl
  · rw [made] at h
    obtain ⟨_, _, why⟩ := stages_fail h
    exact fails_not_refusal why

/-! ## Tools that return -/

/-- A stage is not thrown out if its tool is not. -/
theorem stage_returns (returns : pipeline.tools.Returns)
    (request : Request) (stage : Stage) (tools : σ) (disk : Disk) :
    ((pipeline.stage request stage).run tools disk).result ≠ .error .thrown := by
  rcases stage_cases pipeline request stage tools disk with
    ⟨error, disk₁, _, ran⟩ |
      ⟨main?, disk₁, reply, tools₂, disk₂, result, ready, answered, came, ran⟩
  · rw [ran]
    nofun
  · have returned := returns (pipeline.toolchain.callOf request stage main?) tools disk₁
    rw [answered] at returned
    cases reply with
    | thrown => exact absurd rfl returned
    | ended output =>
      rw [ran, ← came]
      rcases outcome_ended stage (cleanUp request stage disk₂).1 output with
        ⟨_, _, well⟩ | ⟨error, _, bad⟩
      · rw [well]
        nofun
      · rw [bad]
        nofun

/-- The same of some stages, by induction on them. -/
theorem stages_returns (returns : pipeline.tools.Returns)
    (request : Request) (report : Report) (planned : List Stage) (tools : σ) (disk : Disk) :
    ((pipeline.stages request report planned).run tools disk).result ≠ .error .thrown := by
  induction planned generalizing report tools disk with
  | nil => nofun
  | cons next later ih =>
    have first := stage_returns returns request next tools disk
    rw [stages_cons]
    cases done : (pipeline.stage request next).run tools disk with
    | mk log result tools' disk' =>
      rw [done] at first
      cases result with
      | error why =>
        rw [Build.run_bind_error done]
        rintro ⟨⟩
        exact first rfl
      | ok main? =>
        rw [Build.run_bind_ok done]
        exact ih _ tools' disk'

theorem run_returns (returns : pipeline.tools.Returns)
    (request : Request) (tools : σ) (disk : Disk) :
    ((pipeline.run request).run tools disk).result ≠ .error .thrown := by
  cases made : Disk.makeFolders request.output disk with
  | mk result disk' =>
    cases result with
    | error cause =>
      rw [run_unmade _ tools made]
      nofun
    | ok u =>
      rw [run_made _ tools made]
      exact stages_returns returns request _ request.planned tools disk'

end Pipeline

/-! ## Requests -/

/-- A native build is chosen without the project that it builds. -/
def StageChoice.Clashes (choice : StageChoice) : Prop :=
  choice.nativeBuild = true ∧ choice.generateProject = false

namespace Request

variable {source output : Path} {choice : StageChoice}

theorem make_of_clash (clash : choice.Clashes) :
    make source output choice = .error .nativeBuildWithoutProject := by
  simp [make, clash.1, clash.2]

theorem make_of_unnamed (fits : ¬choice.Clashes) (unnamed : unitNameOf? source = none) :
    make source output choice = .error
      (.invalidRequest ("cannot derive a unit name from '" ++ source.display ++ "'")) := by
  have closed : ¬(choice.nativeBuild && !choice.generateProject) = true := by
    simpa [StageChoice.Clashes] using fits
  rw [make, if_neg closed, unnamed]

theorem make_of_named {unitName : String} (fits : ¬choice.Clashes)
    (named : unitNameOf? source = some unitName) :
    make source output choice = .ok ⟨source, output, unitName, choice⟩ := by
  have closed : ¬(choice.nativeBuild && !choice.generateProject) = true := by
    simpa [StageChoice.Clashes] using fits
  rw [make, if_neg closed, named]

end Request

namespace Toolchain

variable {explicit program : Option Path} {env : Environment} {disk : Disk}

theorem discoverBy_of_none (which : Which) (lost : findRoot? explicit env disk program = none) :
    discoverBy which explicit env disk program = .error (.toolchain
      ("toolchain root not found (use --toolchain-root or set " ++ rootVariable ++ ")")) := by
  rw [discoverBy, lost]

theorem discoverBy_of_some (which : Which) {root : Path}
    (found : findRoot? explicit env disk program = some root) :
    discoverBy which explicit env disk program =
      .ok { ofRoot root with nativeBuild := findNativeBuild which env disk } := by
  rw [discoverBy, found]

end Toolchain

/-! ## The gates -/

namespace Session

variable {σ : Type}

/-- The outcome of a session that ends before its build. -/
def Outcome.rejected (error : BuildError) (tools : σ) (disk : Disk) : Outcome σ :=
  ⟨error.exitStatus, [], Terminal.complaint error, tools, disk⟩

/-- The pipeline of a session. -/
def pipeline (setting : Setting σ) (toolchain : Toolchain) : Pipeline σ Bytes where
  toolchain := toolchain
  tools := setting.tools
  observer := Terminal.observer

variable {setting : Setting σ} {arguments : Arguments} {tools : σ} {disk : Disk}
  {request : Request} {toolchain : Toolchain} {error : BuildError}

theorem rejected_of_build
    (h : (build setting arguments).run tools disk = ⟨[], .error (.failed error), tools, disk⟩) :
    run setting arguments tools disk = .rejected error tools disk := by
  rw [run, h]
  rfl

theorem run_of_unmade
    (unmade : Request.make arguments.input arguments.output arguments.choice = .error error) :
    run setting arguments tools disk = .rejected error tools disk := by
  apply rejected_of_build
  rw [build, unmade]
  exact Build.run_bind_error rfl

/-- A session with a good request goes on with its input. -/
theorem build_of_made
    (made : Request.make arguments.input arguments.output arguments.choice = .ok request) :
    (build setting arguments).run tools disk =
      (do
        checkInput arguments.input
        let toolchain ← findTools setting arguments.root
        Build.note [Terminal.header arguments.input]
        let report ← (pipeline setting toolchain).run request
        Build.note [Terminal.summary request report setting.elapsed]).run tools disk := by
  have asked : (Build.ofResult (.ok request) : Build σ Bytes Request).run tools disk =
      ⟨[], .ok request, tools, disk⟩ := rfl
  rw [build, made, Build.run_bind_ok asked, Ended.behind_nil]
  rfl

theorem run_of_missing
    (made : Request.make arguments.input arguments.output arguments.choice = .ok request)
    (missing : disk.isThere arguments.input = false) :
    run setting arguments tools disk =
      .rejected (inputMissing arguments.input disk) tools disk := by
  apply rejected_of_build
  have checked : (checkInput arguments.input : Build σ Bytes Unit).run tools disk =
      ⟨[], .error (.failed (inputMissing arguments.input disk)), tools, disk⟩ := by
    simp [checkInput, Build.run_bind, missing]
  rw [build_of_made made, Build.run_bind_error checked]

theorem checkInput_present (present : disk.isThere arguments.input = true) :
    (checkInput arguments.input : Build σ Bytes Unit).run tools disk =
      ⟨[], .ok (), tools, disk⟩ := by
  simp [checkInput, Build.run_bind, present]

theorem run_of_rootless
    (made : Request.make arguments.input arguments.output arguments.choice = .ok request)
    (present : disk.isThere arguments.input = true)
    (lost : Toolchain.discoverBy setting.which arguments.root setting.env disk setting.program =
      .error error) :
    run setting arguments tools disk = .rejected error tools disk := by
  apply rejected_of_build
  have found : (findTools setting arguments.root).run tools disk =
      ⟨[], .error (.failed error), tools, disk⟩ := by
    simp [findTools, Build.run_bind, lost]
  rw [build_of_made made, Build.run_bind_ok (checkInput_present present),
    Build.run_bind_error found]
  rfl

/-- A session that passes all gates goes on with its header and then its pipeline. -/
theorem build_of_found
    (made : Request.make arguments.input arguments.output arguments.choice = .ok request)
    (present : disk.isThere arguments.input = true)
    (found : Toolchain.discoverBy setting.which arguments.root setting.env disk setting.program =
      .ok toolchain) :
    (build setting arguments).run tools disk =
      ((do
        let report ← (pipeline setting toolchain).run request
        Build.note [Terminal.summary request report setting.elapsed]).run tools disk).behind
          [Terminal.header arguments.input] := by
  have located : (findTools setting arguments.root).run tools disk =
      ⟨[], .ok toolchain, tools, disk⟩ := by
    simp [findTools, Build.run_bind, found]
  have noted : (Build.note [Terminal.header arguments.input] : Build σ Bytes Unit).run tools
      disk = ⟨[Terminal.header arguments.input], .ok (), tools, disk⟩ := rfl
  rw [build_of_made made, Build.run_bind_ok (checkInput_present present),
    Build.run_bind_ok located, Build.run_bind_ok noted, Ended.behind_nil, Ended.behind_nil]

/-- A session whose build stops ends there. -/
theorem run_of_stopped
    (made : Request.make arguments.input arguments.output arguments.choice = .ok request)
    (present : disk.isThere arguments.input = true)
    (found : Toolchain.discoverBy setting.which arguments.root setting.env disk setting.program =
      .ok toolchain)
    {log : List Bytes} {why : Stop} {tools' : σ} {disk' : Disk}
    (stopped : ((pipeline setting toolchain).run request).run tools disk =
      ⟨log, .error why, tools', disk'⟩) :
    run setting arguments tools disk =
      ⟨statusOf (.error why), Terminal.header arguments.input ++ log.flatten,
        complaintsOf (.error why), tools', disk'⟩ := by
  rw [run, build_of_found made present found, Build.run_bind_error stopped]
  rfl

/-- A session that passes all gates ends as its build does.  Only a tool that is thrown
out of its call gives it a status of its own. -/
theorem run_of_found
    (made : Request.make arguments.input arguments.output arguments.choice = .ok request)
    (present : disk.isThere arguments.input = true)
    (found : Toolchain.discoverBy setting.which arguments.root setting.env disk setting.program =
      .ok toolchain) :
    let ended := ((pipeline setting toolchain).run request).run tools disk
    let outcome := run setting arguments tools disk
    outcome.tools = ended.tools ∧ outcome.disk = ended.disk ∧
      (outcome.status = 0 ↔ ended.result.isOk = true) ∧ outcome.status ≠ 2 ∧
      (ended.result ≠ .error .thrown → outcome.status = if ended.result.isOk then 0 else 255) := by
  intro ended outcome
  cases done : ((pipeline setting toolchain).run request).run tools disk with
  | mk log result tools' disk' =>
    have ended_eq : ended = ⟨log, result, tools', disk'⟩ := done
    have outcome_eq : outcome = run setting arguments tools disk := rfl
    cases result with
    | ok report =>
      rw [outcome_eq, run, build_of_found made present found, Build.run_bind_ok done, ended_eq]
      exact ⟨rfl, rfl, ⟨fun _ => rfl, fun _ => rfl⟩, nofun, fun _ => rfl⟩
    | error why =>
      rw [outcome_eq, run_of_stopped made present found done, ended_eq]
      cases why with
      | thrown => exact ⟨rfl, rfl, ⟨nofun, nofun⟩, nofun, fun other => absurd rfl other⟩
      | failed error =>
        have late := Pipeline.run_not_refusal (congrArg Ended.result done)
        have status : statusOf (.error (.failed error)) = 255 := by
          rw [statusOf, BuildError.exitStatus, late]
          rfl
        rw [status]
        exact ⟨rfl, rfl, ⟨nofun, nofun⟩, nofun, fun _ => rfl⟩

/-! ## All sessions -/

/-- One of the gates before the tools are looked for is closed. -/
def Refused (arguments : Arguments) (disk : Disk) : Prop :=
  arguments.choice.Clashes ∨ Request.unitNameOf? arguments.input = none ∨
    disk.isThere arguments.input = false

theorem status_of_refused (refused : Refused arguments disk) :
    (run setting arguments tools disk).status = 2 := by
  by_cases clash : arguments.choice.Clashes
  · rw [run_of_unmade (Request.make_of_clash clash)]
    rfl
  cases named : Request.unitNameOf? arguments.input with
  | none =>
    rw [run_of_unmade (Request.make_of_unnamed clash named)]
    rfl
  | some unitName =>
    rcases refused with clash' | unnamed | missing
    · exact absurd clash' clash
    · rw [named] at unnamed
      cases unnamed
    · rw [run_of_missing (Request.make_of_named clash named) missing]
      rfl

theorem status_of_accepted (accepted : ¬Refused arguments disk) :
    (run setting arguments tools disk).status ≠ 2 ∧
      (setting.tools.Returns → (run setting arguments tools disk).status = 0 ∨
        (run setting arguments tools disk).status = 255) := by
  simp only [Refused, not_or, Bool.not_eq_false] at accepted
  obtain ⟨fits, some, present⟩ := accepted
  obtain ⟨unitName, named⟩ := Option.ne_none_iff_exists'.mp some
  have made : Request.make arguments.input arguments.output arguments.choice = .ok _ :=
    Request.make_of_named fits named
  cases root : Toolchain.findRoot? arguments.root setting.env disk setting.program with
  | none =>
    rw [run_of_rootless made present (Toolchain.discoverBy_of_none setting.which root)]
    exact ⟨nofun, fun _ => .inr rfl⟩
  | some root' =>
    obtain ⟨_, _, _, accepted, status⟩ :
        (run setting arguments tools disk).tools = _ ∧ _ ∧ _ ∧ _ ∧ _ :=
      run_of_found made present (Toolchain.discoverBy_of_some setting.which root)
    refine ⟨accepted, fun returns => ?_⟩
    rw [status (Pipeline.run_returns returns _ tools disk)]
    split
    · exact .inl rfl
    · exact .inr rfl

/-- What becomes of a session.  The gates are tested in order, and a session that does
not pass one is rejected with its error.  A session that passes all of them leaves
the tools and the disk as its build does, and its status is 0 if and only if the build
succeeds.  The status is 2 if and only if one of the first three gates is closed, and
255 otherwise, unless a tool is thrown out of its call. -/
theorem session_outcome (setting : Setting σ) (arguments : Arguments) (tools : σ) (disk : Disk) :
    let outcome := run setting arguments tools disk
    let unit? := Request.unitNameOf? arguments.input
    let root? := Toolchain.findRoot? arguments.root setting.env disk setting.program
    (setting.tools.Returns →
      outcome.status = 0 ∨ outcome.status = 2 ∨ outcome.status = 255) ∧
    (outcome.status = 2 ↔
      arguments.choice.Clashes ∨ unit? = none ∨ disk.isThere arguments.input = false) ∧
    (arguments.choice.Clashes →
      outcome = .rejected .nativeBuildWithoutProject tools disk) ∧
    (¬arguments.choice.Clashes → unit? = none →
      outcome = .rejected (.invalidRequest ("cannot derive a unit name from '" ++
        Path.display arguments.input ++ "'")) tools disk) ∧
    (¬arguments.choice.Clashes → ∀ unitName, unit? = some unitName →
      disk.isThere arguments.input = false →
      outcome = .rejected (inputMissing arguments.input disk) tools disk) ∧
    (¬arguments.choice.Clashes → ∀ unitName, unit? = some unitName →
      disk.isThere arguments.input = true → root? = none →
      outcome = .rejected (.toolchain ("toolchain root not found (use --toolchain-root or set " ++
        Toolchain.rootVariable ++ ")")) tools disk) ∧
    (¬arguments.choice.Clashes → ∀ unitName, unit? = some unitName →
      disk.isThere arguments.input = true → ∀ root, root? = some root →
      let request := ⟨arguments.input, arguments.output, unitName, arguments.choice⟩
      let toolchain := { Toolchain.ofRoot root with
        nativeBuild := Toolchain.findNativeBuild setting.which setting.env disk }
      let ended := ((pipeline setting toolchain).run request).run tools disk
      outcome.tools = ended.tools ∧ outcome.disk = ended.disk ∧
        (outcome.status = 0 ↔ ended.result.isOk = true) ∧
        (setting.tools.Returns → outcome.status = if ended.result.isOk then 0 else 255)) := by
  intro outcome unit? root?
  refine ⟨?_, ?_, ?_, ?_, ?_, ?_, ?_⟩
  · intro returns
    by_cases refused : Refused arguments disk
    · exact .inr (.inl (status_of_refused refused))
    · rcases (status_of_accepted refused).2 returns with succeeded | failed
      · exact .inl succeeded
      · exact .inr (.inr failed)
  · constructor
    · intro status
      by_cases refused : Refused arguments disk
      · exact refused
      · exact absurd status (status_of_accepted refused).1
    · intro refused
      exact status_of_refused refused
  · intro clash
    exact run_of_unmade (Request.make_of_clash clash)
  · intro fits unnamed
    exact run_of_unmade (Request.make_of_unnamed fits unnamed)
  · intro fits unitName named missing
    exact run_of_missing (Request.make_of_named fits named) missing
  · intro fits unitName named present lost
    exact run_of_rootless (Request.make_of_named fits named) present
      (Toolchain.discoverBy_of_none setting.which lost)
  · intro fits unitName named present root found request toolchain ended
    obtain ⟨same_tools, same_disk, succeeds, _, status⟩ :
        outcome.tools = ended.tools ∧ outcome.disk = ended.disk ∧ _ :=
      run_of_found (Request.make_of_named fits named) present
        (Toolchain.discoverBy_of_some setting.which found)
    exact ⟨same_tools, same_disk, succeeds, fun returns =>
      status (Pipeline.run_returns returns _ tools disk)⟩

end Session

/-! ## Sessions that come to their build -/

namespace Compiled

def arguments : Arguments :=
  ⟨Bytes.ofString "m.p", Bytes.ofString "out", {}, some (Bytes.ofString "t"), false⟩

/-- A session with programs on the disk. -/
def setting : Session.Setting Unit :=
  { env := [], program := none, tools := Machine.toolbox [], elapsed := "1s" }

/-- A disk with the input and no tools. -/
def bare : Disk := Effect.applyAll ⟨[], []⟩ [.write arguments.input [] false]

/-- A disk with the input and a compiler that does nothing. -/
def disk : Disk :=
  Effect.applyAll bare [.write (Bytes.ofString "t/Compiler/PCompiler") (Machine.imageOf "true") true]

/-- The status is that of the build. -/
theorem compiler_decides :
    (Session.run setting arguments () disk).status = 0 ∧
      (Session.run setting arguments () bare).status = 255 := by
  have fits : ¬arguments.choice.Clashes := by
    rintro ⟨builds, _⟩
    cases builds
  have named : Request.unitNameOf? arguments.input = some "m" := by decide
  have returns : setting.tools.Returns := Machine.toolboxBy_returns Machine.runToEnd []
  obtain ⟨_, _, _, _, _, _, built⟩ := Session.session_outcome setting arguments () disk
  obtain ⟨_, _, _, _, _, _, unbuilt⟩ := Session.session_outcome setting arguments () bare
  obtain ⟨_, _, succeeds, _⟩ := built fits "m" named (by decide +kernel) (Bytes.ofString "t") rfl
  obtain ⟨_, _, _, status⟩ := unbuilt fits "m" named (by decide +kernel) (Bytes.ofString "t") rfl
  refine ⟨succeeds.mpr (by decide +kernel), ?_⟩
  rw [status returns]
  decide +kernel

end Compiled

end StagedBuild
