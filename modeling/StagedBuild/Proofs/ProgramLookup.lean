import StagedBuild.Proofs.ArtifactLayout
import StagedBuild.Proofs.StartFailures

/-!
# Where programs are found

The working directory of a call is entered before its program is looked up.  Only
the model check has one, and that is the output directory.  So a relative path of
the model checker is read from there, and the paths of the other tools are read
from where the build was started.

* A disk seen from another working directory is the same for absolute paths
  (`find_seenFrom`), and so is a program that is loaded by such paths alone
  (`loadFor_seenFrom`).
* The output directory is there once the support file was copied into it
  (`stat_of_copyFile`).
* A call of the model checker holds no zero byte if the one of the domain compiler
  held none (`holdsZero_modelCheckCall`).
* No tool that is launched and no stage moves the build to another directory
  (`stage_home`).

`programs_looked_up` puts this together for all tools that are launched, whatever they
do then.
-/

namespace StagedBuild

namespace Disk

/-! ## Other working directories -/

/-- A disk seen from a working directory. -/
def seenFrom (disk : Disk) (home : Location) : Disk := { disk with home := home }

section SeenFrom

variable {disk : Disk} {p : Path}

@[simp] theorem seenFrom_home (disk : Disk) : disk.seenFrom disk.home = disk := rfl

theorem get?_seenFrom (disk : Disk) (home loc : Location) :
    (disk.seenFrom home).get? loc = disk.get? loc := by
  cases loc with
  | nil => rfl
  | cons name rest => rfl

/-- An absolute path leads to the same place from every working directory. -/
theorem find_seenFrom (absolute : p.isAbsolute = true) (home : Location) (through : Bool) :
    (disk.seenFrom home).find p through = disk.find p through := by
  have start : (disk.seenFrom home).startOf p = disk.startOf p := by
    rw [startOf, startOf, if_pos absolute, if_pos absolute]
  rw [find, find, start, walk_congr (get?_seenFrom disk home)]

theorem stat_seenFrom (absolute : p.isAbsolute = true) (home : Location) :
    (disk.seenFrom home).stat p = disk.stat p := by
  rw [stat, stat, find_seenFrom absolute]

end SeenFrom

/-! ## The directory of a copy -/

section Above

variable {disk disk' : Disk} {base rest name : Path}

theorem checkPath_eq_ok {p : Path} :
    checkPath p = .ok () ↔ 0 ∉ p ∧ p ≠ [] ∧ p.length < pathLimit := by
  simp only [checkPath]
  split
  · next zero => simp_all
  · next zero =>
    split
    · next empty => simp_all
    · next empty =>
      split
      · next long => simp [long]
      · next long => simp_all

/-- A walk may start along a base if it may along a path below it. -/
theorem checkPath_base (ne : base ≠ []) (relative : rest.isAbsolute = false)
    (valid : checkPath (base.join rest) = .ok ()) : checkPath base = .ok () := by
  obtain ⟨zero, _, short⟩ := checkPath_eq_ok.mp valid
  obtain ⟨before, joined, rfl | rfl⟩ := Path.join_below relative ne
  · rw [joined] at zero short
    simp only [List.mem_append, not_or, List.length_append, List.length_cons] at zero short
    exact checkPath_eq_ok.mpr ⟨zero.1, ne, by omega⟩
  · rw [joined] at zero short
    simp only [List.mem_append, List.mem_cons, not_or, List.length_append,
      List.length_cons] at zero short
    refine checkPath_eq_ok.mpr ⟨?_, ne, ?_⟩
    · simpa using ⟨zero.1, zero.2.1⟩
    · simp only [List.length_append, List.length_singleton]
      omega

/-- The directory of the last name of a path below a base is where the base leads. -/
theorem stat_of_spot (ne : base ≠ []) (relative : name.isAbsolute = false)
    (single : namesOf name = [name]) {folder : Location} {last : Bytes} {slash : Bool}
    (h : disk.spot (base.join name) = .ok (.named folder last slash)) :
    disk.stat base = .ok (folder, .folder) := by
  have names : namesOf (base.join name) = namesOf base ++ [name] := by
    rw [namesOf_join relative ne, single]
  obtain ⟨valid, _, _, dirs, hdirs, hfolder, _⟩ := spot_eq_named_iff.mp h
  rw [names] at hdirs
  obtain ⟨rfl, _⟩ := List.append_inj' hdirs rfl
  rw [startOf_join relative ne] at hfolder
  obtain ⟨left, on⟩ := folderAt_eq_ok hfolder
  have ends : walk disk true linkLimit (disk.startOf base) (stepsOf base) =
      .ok (.entry folder .folder) := by
    rw [stepsOf, on true _ (fun _ => rfl)]
    split
    · rw [walk_here, walk_nil]
    · exact walk_nil ..
  have leads := walk_eq_ok_iff.mp ends
  exact stat_eq_ok.mpr (find_eq_ok_iff.mpr ⟨checkPath_base ne relative valid, leads⟩)

/-- The directory that a file was copied into is there. -/
theorem stat_of_copyFile (ne : base ≠ []) (relative : name.isAbsolute = false)
    (single : namesOf name = [name]) {source : Path}
    (copied : copyFile source (base.join name) disk = (.ok (), disk')) :
    ∃ folder, disk'.stat base = .ok (folder, .folder) := by
  obtain ⟨folder, last, hspot, _⟩ := spot_copyFile copied
  have before := stat_eq_ok.mp (stat_of_spot ne relative single hspot)
  exact ⟨folder, stat_eq_ok.mpr (find_copyFile copied before)⟩

end Above

/-! ## Operations stay where they are -/

section Home

variable {disk : Disk}

theorem makeFolders_home (p : Path) (disk : Disk) : (makeFolders p disk).2.home = disk.home := by
  have kept : KeptByFolders fun after => after.home = disk.home := by
    intro after folder name same _
    exact same
  exact keeping_makeFolders kept p disk rfl

theorem copyFile_home (source destination : Path) (disk : Disk) :
    (copyFile source destination disk).2.home = disk.home := by
  rcases copyFile_cases source destination disk with ⟨e, failed⟩ | ⟨_, _, _, _, _, _, _, done⟩
  · rw [failed]
  · rw [done]
    obtain ⟨_, _, _, _, _, _, _, _, ⟨_, _, _, _, same⟩ | ⟨_, _, same⟩⟩ := copied_cases done
    · rw [same]
      rfl
    · rw [same]

theorem unlink_home (p : Path) (disk : Disk) : (unlink p disk).2.home = disk.home := by
  rcases unlink_cases p disk with ⟨e, failed⟩ | ⟨_, _, _, _, _, _, _, removed⟩
  · rw [failed]
  · rw [removed]
    rfl

end Home

end Disk

namespace Machine

/-! ## Loading from another directory -/

namespace Loader

/-- Whether a file and its interpreters, so many at most, are named by absolute
paths. -/
def anchored (disk : Disk) : Nat → Path → Bool
  | 0, _ => true
  | limit + 1, path =>
      path.isAbsolute &&
        match disk.stat path with
        | .ok (_, .file data true) =>
            match interpreterOf? data with
            | some (interpreter, _) => anchored disk limit interpreter
            | none => true
        | _ => true

/-- Absolute paths load the same from every working directory. -/
theorem loadFor_seenFrom {disk : Disk} {limit : Nat} {path : Path}
    (h : anchored disk limit path = true) (home : Location) (args : List Bytes) :
    loadFor (disk.seenFrom home) limit path args = loadFor disk limit path args := by
  induction limit generalizing path args with
  | zero => rfl
  | succ limit ih =>
    rw [anchored, Bool.and_eq_true] at h
    obtain ⟨absolute, deeper⟩ := h
    rw [loadFor, loadFor, Disk.stat_seenFrom absolute]
    split
    · rfl
    · next loc data found =>
      rw [found] at deeper
      dsimp only at deeper
      split
      · rfl
      · split
        · next interpreter first named =>
          rw [named] at deeper
          exact ih deeper _
        · rfl
    · rfl

end Loader

/-- What a program that is named by a path starts as, from a working directory. -/
def startFrom (disk : Disk) (home : Location) (call : Invocation) :
    Except IoError (Loaded × Disk) :=
  (Loader.load (disk.seenFrom home) call.program (call.program :: call.args)).map fun loaded =>
    (loaded, disk.seenFrom home)

/-- A program that is named by absolute paths only is the same from every working
directory. -/
theorem startFrom_anchored {disk : Disk} {call : Invocation}
    (h : Loader.anchored disk (Loader.interpreterLimit + 1) call.program = true)
    (home other : Location) :
    (startFrom disk home call).map Prod.fst = (startFrom disk other call).map Prod.fst := by
  have loaded : ∀ origin, Loader.load (disk.seenFrom origin) call.program
      (call.program :: call.args) = Loader.load disk call.program (call.program :: call.args) := by
    intro origin
    exact Loader.loadFor_seenFrom h origin _
  rw [startFrom, startFrom, loaded, loaded]
  cases Loader.load disk call.program (call.program :: call.args) with
  | error cause => rfl
  | ok program => rfl

section Start

variable {env : Environment} {disk : Disk} {call : Invocation}

theorem find_path {searchPath : Option Bytes} {program : Path} {args : List Bytes}
    (slash : Bytes.slash ∈ program) :
    Loader.find disk searchPath program args = Loader.load disk program args := by
  have filled : program.isEmpty = false := by
    cases program with
    | nil => cases slash
    | cons b rest => rfl
  simp [Loader.find, filled, slash]

/-- A call without a working directory starts its program from where the build is. -/
theorem start_here (clean : holdsZero call = false) (slash : Bytes.slash ∈ call.program)
    (unmoved : call.folder = none) : start env disk call = startFrom disk disk.home call := by
  simp only [start, clean, unmoved, enter, find_path slash, startFrom, Disk.seenFrom_home]
  cases Loader.load disk call.program (call.program :: call.args) with
  | error cause => rfl
  | ok loaded => rfl

/-- A call with a working directory starts its program from there. -/
theorem start_moved (clean : holdsZero call = false) (slash : Bytes.slash ∈ call.program)
    {folder : Path} (moved : call.folder = some folder) {there : Location}
    (entered : disk.stat folder = .ok (there, .folder)) :
    start env disk call = startFrom disk there call := by
  simp only [start, clean, moved, enter, entered, find_path slash, startFrom, Disk.seenFrom]
  cases Loader.load { disk with home := there } call.program (call.program :: call.args) with
  | error cause => rfl
  | ok loaded => rfl

/-- A call does not start in a directory that is not there. -/
theorem start_nowhere (clean : holdsZero call = false) {folder : Path}
    (moved : call.folder = some folder) {cause : IoError}
    (missing : disk.stat folder = .error cause) : start env disk call = .error cause := by
  simp only [start, clean, moved, enter, missing]
  rfl

/-- A program that starts has no zero byte in its call. -/
theorem not_holdsZero_of_start {started : Loaded × Disk}
    (h : start env disk call = .ok started) : holdsZero call = false := by
  rw [start] at h
  split at h
  · cases h
  · next clean => simpa using clean

end Start

end Machine

/-! ## Zero bytes -/

theorem Machine.holdsZero_eq_false {call : Invocation} :
    holdsZero call = false ↔
      0 ∉ call.program ∧ (∀ arg ∈ call.args, 0 ∉ arg) ∧ 0 ∉ call.folder.getD [] := by
  simp [holdsZero, and_assoc]

namespace Toolchain

variable {toolchain : Toolchain}

/-- The call of the model checker has no zero byte if its program has none and the call
of the domain compiler had none. -/
theorem holdsZero_modelCheckCall {source output : Path} {choice : StageChoice}
    {request : Request} (made : Request.make source output choice = .ok request)
    (program : 0 ∉ toolchain.modelChecker)
    (clean : Machine.holdsZero (toolchain.domainCompileCall request) = false) :
    Machine.holdsZero (toolchain.modelCheckCall (Artifacts.ofRequest request)) = false := by
  obtain ⟨unitName, derived, rfl⟩ := Request.make_eq_ok made
  have ascii : IsAscii (Char.ofNat 0) := by decide
  obtain ⟨_, args, _⟩ := Machine.holdsZero_eq_false.mp clean
  simp only [domainCompileCall_args, List.forall_mem_cons, List.mem_append, not_or] at args
  obtain ⟨_, inSource, _, ⟨_, inOutput⟩, _⟩ := args
  -- Each name in the output directory has only bytes of the directory and its own.
  have inName : ∀ name : Path, 0 ∉ name → 0 ∉ nameOrPath (output.join name) := by
    intro name free zero
    rcases Path.mem_join (mem_nameOrPath zero) with above | slash | named
    · exact inOutput above
    · cases slash
    · exact free named
  have inLibrary : 0 ∉ Bytes.ofString (unitName ++ ".dll") := by
    intro zero
    have inText := (Utf8.mem_ofString_iff ascii _).mp zero
    rw [String.toList_append, List.mem_append] at inText
    rcases inText with inUnit | inSuffix
    · exact inSource (Request.zero_mem_of_unitName derived
        ((Utf8.mem_ofString_iff ascii _).mpr inUnit))
    · exact absurd inSuffix (by decide)
  have model := inName Artifacts.modelName (by decide)
  have support := inName Artifacts.supportName (by decide)
  have library := inName _ inLibrary
  refine Machine.holdsZero_eq_false.mpr ⟨program, ?_, inOutput⟩
  simp only [modelCheckCall_args, List.forall_mem_cons, List.mem_append, not_or]
  exact ⟨by decide, model, support, ⟨by decide, library⟩, nofun⟩

/-! ## Tools below a root -/

variable {root : Path}

theorem domainCompiler_ofRoot (root : Path) :
    (ofRoot root).domainCompiler = (ofRoot root).dataFolder.join (Bytes.ofString "PCompiler") := rfl

theorem modelChecker_ofRoot (root : Path) :
    (ofRoot root).modelChecker = (ofRoot root).dataFolder.join (Bytes.ofString "zc") := rfl

theorem dataFolder_ofRoot (root : Path) : (ofRoot root).dataFolder = root.join compilerName := rfl

theorem dataFolder_ne_nil (root : Path) : (ofRoot root).dataFolder ≠ [] := by
  rw [dataFolder_ofRoot]
  exact Path.join_ne_nil root (by decide)

/-- The tools below a root are named by paths and not by words. -/
theorem slash_mem_ofRoot (root : Path) :
    Bytes.slash ∈ (ofRoot root).domainCompiler ∧ Bytes.slash ∈ (ofRoot root).modelChecker := by
  have filled := dataFolder_ne_nil root
  rw [domainCompiler_ofRoot, modelChecker_ofRoot]
  exact ⟨Path.slash_mem_join filled (by decide), Path.slash_mem_join filled (by decide)⟩

theorem isAbsolute_modelChecker (absolute : root.isAbsolute = true) :
    (ofRoot root).modelChecker.isAbsolute = true := by
  have filled := Path.ne_nil_of_isAbsolute absolute
  rw [modelChecker_ofRoot, Path.isAbsolute_join (by decide) (dataFolder_ne_nil root),
    dataFolder_ofRoot, Path.isAbsolute_join (by decide) filled, absolute]

theorem zero_notMem_modelChecker (clean : 0 ∉ (ofRoot root).dataFolder) :
    0 ∉ (ofRoot root).modelChecker := by
  rw [modelChecker_ofRoot]
  intro zero
  rcases Path.mem_join zero with above | slash | named
  · exact clean above
  · cases slash
  · exact absurd named (by decide)

end Toolchain

/-! ## The run -/

namespace Pipeline

variable {σ ε : Type} {pipeline : Pipeline σ ε} {request : Request} {env : Environment}
  {tools₀ : σ} {disk₀ : Disk} {stage : Stage}

/-- A stage of programs ends where it began. -/
theorem stage_home (launches : pipeline.tools.Launches env) (stage : Stage) (tools : σ)
    (disk : Disk) : ((pipeline.stage request stage).run tools disk).disk.home = disk.home := by
  have prepared : (pipeline.prepare request stage disk).2.home = disk.home := by
    by_cases checks : stage = .modelCheck
    · subst checks
      simp only [prepare]
      split
      · exact Disk.copyFile_home _ _ disk
      · exact Disk.copyFile_home _ _ disk
    · rw [prepare_disk pipeline request checks]
  have cleaned : ∀ after, (cleanUp request stage after).2.home = after.home := by
    intro after
    by_cases checks : stage = .modelCheck
    · subst checks
      exact Disk.unlink_home _ after
    · rw [cleanUp_other request checks]
  rcases stage_cases pipeline request stage tools disk with
    ⟨error, disk₁, unready, ran⟩ |
      ⟨main?, disk₁, reply, tools₂, disk₂, result, ready, answered, _, ran⟩
  · rw [unready] at prepared
    rw [ran]
    exact prepared
  · have stayed := launches.home (pipeline.toolchain.callOf request stage main?) tools disk₁
    rw [answered] at stayed
    rw [ready] at prepared
    rw [ran, cleaned]
    exact stayed.trans prepared

/-- A stage that comes to a good end by its exit status has started its program. -/
theorem started_of_stage (launches : pipeline.tools.Launches env)
    (exits : stage ≠ .nativeBuild) {tools : σ} {disk : Disk} {main? : Option String}
    (well : ((pipeline.stage request stage).run tools disk).result = .ok main?) :
    ∃ main? disk₁ started, pipeline.prepare request stage disk = (.ok main?, disk₁) ∧
      Machine.start env disk₁ (pipeline.toolchain.callOf request stage main?) = .ok started := by
  rcases stage_cases pipeline request stage tools disk with
    ⟨error, disk₁, _, ran⟩ |
      ⟨main', disk₁, reply, tools₂, disk₂, result, ready, answered, came, ran⟩
  · rw [ran] at well
    cases well
  · cases start : Machine.start env disk₁ (pipeline.toolchain.callOf request stage main') with
    | ok started => exact ⟨main', disk₁, started, ready, start⟩
    | error cause =>
      obtain ⟨tools', complained⟩ := launches.unstarted tools start
      rw [answered] at complained
      cases complained
      have refused := verdict_unstarted stage
        (pipeline.toolchain.callOf request stage main').program (Machine.start_known start)
      rw [if_neg (fun fooled => exits fooled.1)] at refused
      rw [outcome_of_refused refused] at came
      rw [ran, ← came] at well
      cases well

/-- Only the domain compilation comes before the model check. -/
theorem before_modelCheck {before later : List Stage}
    (h : request.planned = before ++ .modelCheck :: later) : before = [.domainCompile] := by
  have nodup := planned_nodup request
  have starts : request.planned = .domainCompile ::
      [.modelCheck, .generateProject, .nativeBuild].filter request.choice.contains := rfl
  cases before with
  | nil =>
    rw [starts] at h
    cases h
  | cons first more =>
    have first_eq : first = .domainCompile := by
      rw [starts] at h
      exact (List.cons.inj h).1.symm
    subst first_eq
    cases more with
    | nil => rfl
    | cons second more =>
      have split : request.planned =
          [.domainCompile] ++ second :: (more ++ .modelCheck :: later) := h
      have order := planned_in_order split (List.mem_append_right more (.head _))
      have second_eq : second = .domainCompile := by
        cases second with
        | domainCompile => rfl
        | _ => exact absurd order (by decide)
      rw [split, second_eq] at nodup
      exact absurd (.head _) (List.nodup_cons.mp nodup).1

/-- The domain compiler was started before the model check. -/
theorem Reached.domainCompiler_started (launches : pipeline.tools.Launches env)
    (here : Reached pipeline request tools₀ disk₀ .modelCheck) :
    ∃ disk started, Machine.start env disk (pipeline.toolchain.domainCompileCall request) =
      .ok started := by
  obtain ⟨disk, ran⟩ := here.ran_stages
  rw [before_modelCheck here.planned, stages_cons] at ran
  cases first : (pipeline.stage request .domainCompile).run tools₀ disk with
  | mk log result tools after =>
    cases result with
    | error why =>
      rw [Build.run_bind_error first] at ran
      cases ran
    | ok main? =>
      have well : ((pipeline.stage request .domainCompile).run tools₀ disk).result = .ok main? :=
        congrArg Ended.result first
      have exits : Stage.domainCompile ≠ .nativeBuild := nofun
      obtain ⟨_, disk₁, started, _, start⟩ := started_of_stage launches exits well
      exact ⟨disk₁, started, start⟩

/-- A run of programs stays in its directory until it comes to a stage. -/
theorem Reached.home_eq (launches : pipeline.tools.Launches env)
    (here : Reached pipeline request tools₀ disk₀ stage) : here.disk.home = disk₀.home := by
  refine here.keeps_before (fun disk => disk.home = disk₀.home)
    (Disk.makeFolders_home request.output disk₀) ?_
  intro next there _ stayed
  exact (stage_home launches next there.tools there.disk).trans stayed

/-- No call of a domain compiler that was started, or of the model checker behind it,
holds a zero byte. -/
theorem Reached.calls_clean {root native source output : Path} {choice : StageChoice}
    (made : Request.make source output choice = .ok request)
    (below : pipeline.toolchain = { Toolchain.ofRoot root with nativeBuild := native })
    (launches : pipeline.tools.Launches env)
    (here : Reached pipeline request tools₀ disk₀ .modelCheck) :
    Machine.holdsZero (pipeline.toolchain.domainCompileCall request) = false ∧
      Machine.holdsZero (pipeline.toolchain.modelCheckCall (Artifacts.ofRequest request)) =
        false := by
  obtain ⟨disk, started, start⟩ := here.domainCompiler_started launches
  have clean := Machine.not_holdsZero_of_start start
  have program : 0 ∉ pipeline.toolchain.modelChecker := by
    have args := (Machine.holdsZero_eq_false.mp clean).2.1
    simp only [Toolchain.domainCompileCall_args, List.forall_mem_cons] at args
    rw [below] at args ⊢
    exact Toolchain.zero_notMem_modelChecker args.2.2.1
  exact ⟨clean, Toolchain.holdsZero_modelCheckCall made program clean⟩

/-- The output directory is there for the model checker. -/
theorem entered_of_copy {source output : Path} {choice : StageChoice}
    (made : Request.make source output choice = .ok request) (ne : output ≠ []) {origin : Path}
    {disk disk₁ : Disk}
    (copied : Disk.copyFile origin (Artifacts.ofRequest request).support disk = (.ok (), disk₁)) :
    ∃ there, disk₁.stat output = .ok (there, .folder) := by
  obtain ⟨unitName, _, rfl⟩ := Request.make_eq_ok made
  have into : (Artifacts.ofRequest ⟨source, output, unitName, choice⟩).support =
      output.join Artifacts.supportName := rfl
  rw [into] at copied
  exact Disk.stat_of_copyFile ne (by decide) (by decide) copied

/-- The domain compiler is looked up from the directory that the build runs in, and
the model checker from the output directory.  Below an absolute root both find the
same file, and the same program if no interpreter of it is named by a relative path.
In an empty output path nothing is started. -/
theorem programs_looked_up {root native source output : Path} {choice : StageChoice}
    (made : Request.make source output choice = .ok request)
    (below : pipeline.toolchain = { Toolchain.ofRoot root with nativeBuild := native })
    (launches : pipeline.tools.Launches env)
    (here : Reached pipeline request tools₀ disk₀ .modelCheck) {disk₁ : Disk}
    (copied : Disk.copyFile pipeline.toolchain.supportFile (Artifacts.ofRequest request).support
      here.disk = (.ok (), disk₁)) :
    let compile := pipeline.toolchain.domainCompileCall request
    let check := pipeline.toolchain.modelCheckCall (Artifacts.ofRequest request)
    let checker := pipeline.toolchain.modelChecker
    (∀ first : Reached pipeline request tools₀ disk₀ .domainCompile,
      Machine.start env first.disk compile = Machine.startFrom first.disk disk₀.home compile) ∧
    (output = [] → Machine.start env disk₁ check = .error .notFound) ∧
    (output ≠ [] → ∃ there, disk₁.stat output = .ok (there, .folder) ∧
      Machine.start env disk₁ check = Machine.startFrom disk₁ there check ∧
      (root.isAbsolute = true →
        (disk₁.seenFrom there).stat checker = (disk₁.seenFrom disk₀.home).stat checker ∧
        (Machine.Loader.anchored disk₁ (Machine.Loader.interpreterLimit + 1) checker = true →
          (Machine.start env disk₁ check).map Prod.fst =
            (Machine.startFrom disk₁ disk₀.home check).map Prod.fst))) := by
  intro compile check checker
  obtain ⟨compile_clean, check_clean⟩ := here.calls_clean made below launches
  have slashes := Toolchain.slash_mem_ofRoot root
  have compile_slash : Bytes.slash ∈ compile.program := by
    show Bytes.slash ∈ pipeline.toolchain.domainCompiler
    rw [below]
    exact slashes.1
  have check_slash : Bytes.slash ∈ check.program := by
    show Bytes.slash ∈ pipeline.toolchain.modelChecker
    rw [below]
    exact slashes.2
  have moved : check.folder = some output := by
    obtain ⟨unitName, _, request_eq⟩ := Request.make_eq_ok made
    exact congrArg (some ∘ Request.output) request_eq
  refine ⟨?_, ?_, ?_⟩
  · intro first
    rw [← first.home_eq launches]
    exact Machine.start_here compile_clean compile_slash rfl
  · rintro rfl
    exact Machine.start_nowhere check_clean moved rfl
  · intro ne
    obtain ⟨there, entered⟩ := entered_of_copy made ne copied
    have started : Machine.start env disk₁ check = Machine.startFrom disk₁ there check :=
      Machine.start_moved check_clean check_slash moved entered
    refine ⟨there, entered, started, ?_⟩
    intro absolute
    have checker_absolute : checker.isAbsolute = true := by
      simp only [checker, below]
      exact Toolchain.isAbsolute_modelChecker absolute
    refine ⟨?_, ?_⟩
    · rw [Disk.stat_seenFrom checker_absolute, Disk.stat_seenFrom checker_absolute]
    · intro anchored
      rw [started]
      exact Machine.startFrom_anchored anchored there disk₀.home

end Pipeline

/-! ## Absolute and relative roots -/

namespace CheckerLookup

def choice : StageChoice := ⟨true, false, false⟩

def request : Request := ⟨Bytes.ofString "m.p", Bytes.ofString "out", "m", choice⟩

/-- A pipeline with the tools below a root. -/
def pipeline (root : Path) : Pipeline Unit Event where
  toolchain := Toolchain.ofRoot root
  tools := Machine.toolbox []
  observer := Observer.full

/-- A disk with the program, its working directory at the root of the disk, and in `t`
the tools, which do nothing. -/
def disk : Disk :=
  Effect.applyAll ⟨[], []⟩
    [.write request.source (Bytes.ofString "main machine M") false,
      .write (Bytes.ofString "t/Compiler/PCompiler") (Machine.imageOf "true") true,
      .write (Bytes.ofString "t/Compiler/zc") (Machine.imageOf "true") true,
      .write (Bytes.ofString "t/Runtime/SMRuntime.zing") [] false]

/-- The call of the model checker. -/
def check (root : Path) : Invocation :=
  (pipeline root).toolchain.modelCheckCall (Artifacts.ofRequest request)

def absoluteRoot : Path := Bytes.ofString "/t"

/-- The run comes to the model check. -/
def here : Pipeline.Reached (pipeline absoluteRoot) request () disk .modelCheck :=
  .ofResult [.domainCompile] [] ⟨[.domainCompile], Artifacts.ofRequest request, none⟩ (by decide)
    (by decide +kernel)

/-- The disk with the copied support file. -/
def copied : Disk :=
  (Disk.copyFile (pipeline absoluteRoot).toolchain.supportFile
    (Artifacts.ofRequest request).support here.disk).2

theorem copyFile_support :
    Disk.copyFile (pipeline absoluteRoot).toolchain.supportFile
      (Artifacts.ofRequest request).support here.disk = (.ok (), copied) := by
  have well : (Disk.copyFile (pipeline absoluteRoot).toolchain.supportFile
      (Artifacts.ofRequest request).support here.disk).1 = .ok () := by decide +kernel
  rw [copied, ← well, Prod.eta]

/-- The model checker below an absolute root starts. -/
theorem checker_starts :
    (Machine.start [] copied (check absoluteRoot)).map Prod.fst =
      .ok ⟨Bytes.ofString "true",
        (check absoluteRoot).program :: (check absoluteRoot).args⟩ := by
  have made : Request.make (Bytes.ofString "m.p") (Bytes.ofString "out") choice = .ok request := by
    decide +kernel
  have launches := Machine.toolboxBy_launches Machine.runToEnd []
  have found := (Pipeline.programs_looked_up made rfl launches here copyFile_support).2.2
  obtain ⟨there, _, _, same⟩ := found (by decide)
  have loaded := (same (by decide)).2 (by decide +kernel)
  refine loaded.trans ?_
  decide +kernel

def relativeRoot : Path := Bytes.ofString "t"

/-- A run with a relative root fails, though the path of the model checker leads to a
program from where the build runs. -/
theorem checker_not_found :
    disk.isProgram (pipeline relativeRoot).toolchain.modelChecker = true ∧
      (((pipeline relativeRoot).run request).run () disk).result =
        .error (.failed (.stageFailed .modelCheck ["t/Compiler/zc: process not found"])) :=
  ⟨by decide +kernel, by decide +kernel⟩

end CheckerLookup

end StagedBuild
