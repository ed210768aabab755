import StagedBuild.Proofs.DataFlow
import StagedBuild.Proofs.Declarations
import StagedBuild.Proofs.Observation
import StagedBuild.Proofs.SessionOutcomes
import StagedBuild.Proofs.SilencedTools
import StagedBuild.Script

/-!
# What a session prints as its result

`Terminal.eventLine?` gives the line of an event.  A call has none.  The observer of
the terminal is the full one heard through `eventLine?` (`observer_eq`), so what is
printed while a build runs are the lines of its full log.

A session that comes to its build prints a heading, these lines, and a closing if the
build succeeds (`printed_of_full`).  Each of them is one line, since the name of a main
machine is a word (`isLine_of_run`).  The log of a build that fails with its output
directory made ends with the failure of a planned stage (`run_failed_last`).

The terminal hears calls but prints nothing for them, so a session with silenced tools
prints the same (`printed_silenced`).
-/

namespace StagedBuild

/-! ## Lines -/

namespace Terminal

/-- The line of an event. -/
def eventLine? : Event → Option Bytes
  | .started stage => some (line ("\x1b[34m  ◆ " ++ activity stage ++ "\x1b[0m" ++ " ..."))
  | .foundMain name => some (line ("    Main machine is \x1b[36m" ++ name ++ "\x1b[0m"))
  | .completed stage => some (line ("    \x1b[32m✓\x1b[0m " ++ stage.label))
  | .failed stage _ => some (line ("    \x1b[31m✗\x1b[0m " ++ stage.label))
  | .called .. => none

/-- What is printed before a build, for the name of its input. -/
def heading (name : Bytes) : Bytes :=
  line "" ++ line ("\x1b[1mpforge\x1b[0m - Building \x1b[36m" ++ Path.display name ++ "\x1b[0m") ++
    line ""

/-- What is printed after a build that succeeded. -/
def closing (request : Request) (elapsed : String) : Bytes :=
  line "" ++
    (if .nativeBuild ∈ request.planned then
      line ("\x1b[32mBuilt:\x1b[0m " ++ Path.display (Artifacts.ofRequest request).binary)
    else line ("\x1b[32mOutput:\x1b[0m " ++ Path.display request.output)) ++
    line ("\x1b[2mStages:\x1b[0m " ++ ", ".intercalate (request.planned.map Stage.label)) ++
    line ("\x1b[2mTime:\x1b[0m " ++ elapsed)

/-- The terminal hears the full log through the lines of its events. -/
theorem observer_eq :
    observer = Observer.full.through fun event => (eventLine? event).toList := by
  have lines : (∀ stage, some (startedLine stage) = eventLine? (.started stage)) ∧
      (∀ name, some (mainLine name) = eventLine? (.foundMain name)) ∧
      (∀ stage, some (completedLine stage) = eventLine? (.completed stage)) ∧
      ∀ stage error, some (failedLine stage) = eventLine? (.failed stage error) := by
    simp only [startedLine, mainLine, completedLine, failedLine, eventLine?, shown, Colour.code,
      Colour.number, ← String.append_assoc, String.reduceAppend, implies_true, and_self]
  obtain ⟨started, main, completed, failed⟩ := lines
  simp only [observer, Observer.full, Observer.through, List.flatMap_singleton, ← started,
    ← main, ← completed, ← failed]
  rfl

theorem header_eq {input : Path} {name : Bytes} (named : input.fileName? = some name) :
    header input = heading name := by
  simp only [header, heading, named, Option.getD_some, shown, Colour.code, Colour.number,
    ← String.append_assoc, String.reduceAppend]

/-- The summary of a build that reports what was planned. -/
theorem summary_eq {request : Request} {report : Report} (elapsed : String)
    (ran : report.stagesRun = request.planned)
    (located : report.artifacts = Artifacts.ofRequest request) :
    summary request report elapsed = closing request elapsed := by
  by_cases builds : Stage.nativeBuild ∈ request.planned
  · have binary : report.binary? = some (Artifacts.ofRequest request).binary := by
      rw [Report.binary?, ran, located, if_pos (List.contains_iff_mem.mpr builds)]
    simp only [summary, closing, madeLine, stagesLine, timeLine, binary, if_pos builds, ran, shown,
      Colour.code, Colour.number, String.reduceAppend]
  · have binary : report.binary? = none := by
      rw [Report.binary?, ran, if_neg fun listed => builds (List.contains_iff_mem.mp listed)]
    simp only [summary, closing, madeLine, stagesLine, timeLine, binary, if_neg builds, ran, shown,
      Colour.code, Colour.number, String.reduceAppend]

/-! ## One line each -/

/-- A text and the only line feed, at its end. -/
def IsLine (row : Bytes) : Prop :=
  ∃ text, row = text ++ [Bytes.lineFeed] ∧ Bytes.lineFeed ∉ text

theorem isLine_line {text : String} (single : '\n' ∉ text.toList) : IsLine (line text) := by
  have ascii : IsAscii '\n' := by decide
  exact ⟨Bytes.ofString text, rfl, mt (Utf8.mem_ofString_iff ascii text).mp single⟩

/-- The line of an event is one line, if the name of a main machine has no line feed. -/
theorem isLine_eventLine? {event : Event} {row : Bytes} (told : eventLine? event = some row)
    (single : ∀ name, event = .foundMain name → '\n' ∉ name.toList) : IsLine row := by
  cases event with
  | called call disk reply => cases told
  | foundMain name =>
    have inner := single name rfl
    rw [eventLine?, Option.some_inj] at told
    rw [← told]
    exact isLine_line (by simp [inner])
  | _ stage =>
    rw [eventLine?, Option.some_inj] at told
    rw [← told]
    refine isLine_line ?_
    cases stage <;> simp [activity, Stage.label]

end Terminal

/-- The name of a main machine is a word, so there is no line feed in it. -/
theorem MainMachine.lineFeed_notMem {program name : String}
    (found : find? program = some name) : '\n' ∉ name.toList := by
  have blank : isWord '\n' = false := not_isWord_of_isBlank (by decide)
  obtain ⟨chars, first, rfl⟩ := Option.map_eq_some_iff.mp found
  obtain ⟨d, rfl, -⟩ := first_of_findIn? first
  intro mem
  rw [String.toList_ofList] at mem
  have word := d.name_word.2 _ mem
  rw [blank] at word
  cases word

/-! ## Logs -/

namespace Pipeline

variable {σ ε : Type} {pipeline : Pipeline σ ε} {request : Request} {tools : σ}
  {disk disk' : Disk}

/-- A main machine in the log of a run was looked up. -/
theorem mainMachine?_of_log {name : String}
    (logged : .foundMain name ∈
      (((pipeline.watchedBy .full).run request).run tools disk).log) :
    ∃ program, pipeline.mainMachine? program = some name := by
  obtain ⟨earlier, later, log⟩ := List.append_of_mem logged
  obtain ⟨stage, here, front, behind, -, told⟩ := run_logged log
  have inside : .foundMain name ∈ (((pipeline.watchedBy .full).stage request stage).run
      here.tools here.disk).log := by
    rw [told]
    exact List.mem_append_right front (.head _)
  rcases stage_cases (pipeline.watchedBy .full) request stage here.tools here.disk with
    ⟨error, disk₁, _, ran⟩ |
      ⟨main?, disk₁, reply, tools₂, disk₂, result, ready, _, _, ran⟩
  · rw [ran] at inside
    simp [Observer.full] at inside
  · have quiet : .foundMain name ∉ Observer.full.ending stage result := by
      cases result with
      | ok u => simp [Observer.ending, Observer.full]
      | error why => cases why <;> simp [Observer.ending, Observer.full]
    rw [ran, observer_watchedBy, toolchain_watchedBy, full_log] at inside
    have looked : main? = some name := by
      simpa [Protocol.opening, quiet] using inside
    subst looked
    cases (isSome_of_prepare ready).mp rfl
    obtain ⟨_, bytes, _, found⟩ := prepare_generateProject ready
    exact ⟨Utf8.decode bytes, found.symm⟩

/-- The log of a run that failed with its output directory made ends with the failure of a
planned stage. -/
theorem run_failed_last {error : BuildError}
    (made : Disk.makeFolders request.output disk = (.ok (), disk'))
    (failed : (((pipeline.watchedBy .full).run request).run tools disk).result =
      .error (.failed error)) :
    ∃ stage ∈ request.planned, ∃ earlier,
      (((pipeline.watchedBy .full).run request).run tools disk).log =
        earlier ++ [.failed stage error] := by
  rw [run_made _ tools made] at failed ⊢
  obtain ⟨done, rest, blocks, last, _, _, planned, -, log, ends⟩ :=
    stages_follow pipeline request (blankReport request) request.planned tools disk'
  rw [log]
  cases rest with
  | nil =>
    obtain ⟨-, -, -, report, well, -⟩ := ends
    rw [failed] at well
    cases well
  | cons next later =>
    obtain ⟨why, broken, stopped⟩ := ends
    rw [failed] at stopped
    cases stopped
    have mem : next ∈ request.planned := by simp [planned]
    obtain ⟨earlier, rfl⟩ := broken.failed_last
    exact ⟨next, mem, blocks ++ earlier, by rw [List.append_assoc]⟩

end Pipeline

/-! ## Sessions -/

namespace Session

variable {σ : Type} {setting : Setting σ} {arguments : Arguments} {request : Request}
  {toolchain : Toolchain} {disk : Disk}

/-- The observer of a session hears the lines of the full log. -/
theorem pipeline_eq (setting : Setting σ) (toolchain : Toolchain) :
    pipeline setting toolchain =
      ((pipeline setting toolchain).watchedBy .full).heard
        fun event => (Terminal.eventLine? event).toList :=
  congrArg (pipeline setting toolchain).watchedBy Terminal.observer_eq

/-- Each line of a build is one line. -/
theorem isLine_of_run (setting : Setting σ) (toolchain : Toolchain) (request : Request)
    (tools : σ) (disk : Disk) {row : Bytes}
    (mem : row ∈ ((((pipeline setting toolchain).watchedBy .full).run request).run tools
      disk).log.filterMap Terminal.eventLine?) :
    Terminal.IsLine row := by
  obtain ⟨event, logged, told⟩ := List.mem_filterMap.mp mem
  refine Terminal.isLine_eventLine? told ?_
  rintro name rfl
  obtain ⟨program, looked⟩ := Pipeline.mainMachine?_of_log logged
  exact MainMachine.lineFeed_notMem looked

section Passed

variable {name : Bytes} (tools : σ) (named : arguments.input.fileName? = some name)
  (made : Request.make arguments.input arguments.output arguments.choice = .ok request)
  (present : disk.isThere arguments.input = true)
  (found : Toolchain.discoverBy setting.which arguments.root setting.env disk setting.program =
    .ok toolchain)

include named made present found

/-- A session that comes to its build prints the heading, what its build logs, and the
closing if the build succeeds. -/
theorem printed_of_found :
    let ended := ((pipeline setting toolchain).run request).run tools disk
    (run setting arguments tools disk).printed = Terminal.heading name ++ ended.log.flatten ++
      if ended.result.isOk then Terminal.closing request setting.elapsed else [] := by
  intro ended
  cases done : ((pipeline setting toolchain).run request).run tools disk with
  | mk log result tools' disk' =>
    have ended_eq : ended = ⟨log, result, tools', disk'⟩ := done
    cases result with
    | ok report =>
      obtain ⟨ran, located, -⟩ := Pipeline.run_report (congrArg Ended.result done)
      have closed := Terminal.summary_eq setting.elapsed ran located
      rw [run, build_of_found made present found, Build.run_bind_ok done, ended_eq,
        Terminal.header_eq named, closed]
      simp [Ended.behind, Except.isOk, Except.toBool]
    | error why =>
      rw [run_of_stopped made present found done, ended_eq, Terminal.header_eq named]
      simp [Except.isOk, Except.toBool]

/-- The same, said of the full log. -/
theorem printed_of_full :
    let ended := (((pipeline setting toolchain).watchedBy .full).run request).run tools disk
    (run setting arguments tools disk).printed =
      Terminal.heading name ++ (ended.log.filterMap Terminal.eventLine?).flatten ++
        if ended.result.isOk then Terminal.closing request setting.elapsed else [] := by
  intro ended
  have printed := printed_of_found tools named made present found
  rw [pipeline_eq, Pipeline.run_through] at printed
  rw [List.filterMap_eq_flatMap_toList]
  exact printed

/-- What tools print is not printed by a session. -/
theorem printed_silenced :
    (run { setting with tools := setting.tools.silenced } arguments tools disk).printed =
      (run setting arguments tools disk).printed := by
  have discreet : (pipeline setting toolchain).observer.Discreet :=
    ⟨fun _ _ _ => rfl, fun _ _ => rfl⟩
  have silenced : (run { setting with tools := setting.tools.silenced } arguments tools
      disk).printed = _ := printed_of_found tools named made present found
  have silent : ((pipeline { setting with tools := setting.tools.silenced } toolchain).run
      request).run tools disk = _ := Pipeline.run_silenced discreet request tools disk
  have same : ∀ result : Except Stop Report,
      (result.mapError Stop.silenced).isOk = result.isOk := by
    rintro (why | report) <;> rfl
  rw [silenced, silent, printed_of_found tools named made present found, Ended.silenced, same]

end Passed

/-- What a session prints that comes to its build: the heading with the name of its input,
a line for each event of its build in order, and the closing if and only if the build
succeeds.

Without an output directory there is the heading only.  Any other build that fails has
as its last line that a planned stage failed, the one that is the last event.  Only a
tool that is thrown out of its call ends a build in another way.

What the tools print is not in it: the same is printed if they print nothing but the
marker of the native build. -/
theorem printed_progress (setting : Setting σ) (arguments : Arguments) (tools : σ) (disk : Disk)
    {request : Request} {toolchain : Toolchain}
    (made : Request.make arguments.input arguments.output arguments.choice = .ok request)
    (present : disk.isThere arguments.input = true)
    (found : Toolchain.discoverBy setting.which arguments.root setting.env disk setting.program =
      .ok toolchain) :
    let printed := (run setting arguments tools disk).printed
    let ended := (((pipeline setting toolchain).watchedBy .full).run request).run tools disk
    let lines := ended.log.filterMap Terminal.eventLine?
    ∃ name, arguments.input.fileName? = some name ∧
      (printed = Terminal.heading name ++ lines.flatten ++
        if ended.result.isOk then Terminal.closing request setting.elapsed else []) ∧
      (∀ row ∈ lines, Terminal.IsLine row) ∧
      (∀ cause, (Disk.makeFolders request.output disk).1 = .error cause →
        ended.result = .error (.failed (.file request.output cause)) ∧
          printed = Terminal.heading name) ∧
      ((Disk.makeFolders request.output disk).1 = .ok () → ∀ error,
        ended.result = .error (.failed error) → ∃ stage ∈ request.planned,
          (∃ events, ended.log = events ++ [.failed stage error]) ∧
          ∃ above, lines =
            above ++ [Terminal.line ("    \x1b[31m✗\x1b[0m " ++ stage.label)]) ∧
      (setting.tools.Returns → ended.result ≠ .error .thrown) ∧
      (run { setting with tools := setting.tools.silenced } arguments tools disk).printed =
        printed := by
  intro printed ended lines
  obtain ⟨name, named⟩ : ∃ name, arguments.input.fileName? = some name := by
    obtain ⟨unitName, derived, -⟩ := Request.make_eq_ok made
    obtain ⟨stem, cut, -⟩ := Option.map_eq_some_iff.mp (Option.eq_some_of_filter_eq_some derived)
    obtain ⟨name, named, -⟩ := Option.map_eq_some_iff.mp cut
    exact ⟨name, named⟩
  have whole : printed = _ := printed_of_full tools named made present found
  have silenced := printed_silenced tools named made present found
  refine ⟨name, named, whole, ?_, ?_, ?_, ?_, silenced⟩
  · intro row mem
    exact isLine_of_run setting toolchain request tools disk mem
  · intro cause unmade
    have folders : Disk.makeFolders request.output disk = (.error cause, _) := Prod.ext unmade rfl
    have stopped := ((pipeline setting toolchain).watchedBy .full).run_unmade tools folders
    refine ⟨congrArg Ended.result stopped, ?_⟩
    rw [whole, stopped]
    simp [Except.isOk, Except.toBool]
  · intro made' error failed
    have folders : Disk.makeFolders request.output disk = (.ok (), _) := Prod.ext made' rfl
    obtain ⟨stage, mem, events, log⟩ := Pipeline.run_failed_last folders failed
    refine ⟨stage, mem, ⟨events, log⟩, events.filterMap Terminal.eventLine?, ?_⟩
    simp only [lines, ended, log, List.filterMap_append, List.filterMap_cons, List.filterMap_nil,
      Terminal.eventLine?]
  · intro returns
    exact Pipeline.run_returns returns request tools disk

end Session

/-! ## A project generation that fails -/

namespace FailedGeneration

def arguments : Arguments :=
  ⟨Bytes.ofString "a/m.p", Bytes.ofString "out", { generateProject := true },
    some (Bytes.ofString "t"), false⟩

/-- A session with scripted tools. -/
def setting : Session.Setting Script :=
  { env := [], program := none, tools := Script.toolbox, elapsed := "1s" }

def request : Request := ⟨arguments.input, arguments.output, "m", arguments.choice⟩

def toolchain : Toolchain := Toolchain.ofRoot (Bytes.ofString "t")

/-- Both tools print something, and the second one fails. -/
def script : Script :=
  [.ended true (Bytes.ofString "compiled") [], .ended false (Bytes.ofString "Build succeeded.") []]

def disk : Disk :=
  Effect.applyAll ⟨[], []⟩ [.write arguments.input (Bytes.ofString "main machine M") false]

/-- The last line is the failure of a planned stage, and nothing that a tool printed is
there. -/
theorem failure_shown :
    let printed := (Session.run setting arguments script disk).printed
    printed = ["", "\x1b[1mpforge\x1b[0m - Building \x1b[36mm.p\x1b[0m", "",
        "\x1b[34m  ◆ Running PCompiler\x1b[0m ...", "    \x1b[32m✓\x1b[0m domain compile",
        "\x1b[34m  ◆ Generating project\x1b[0m ...", "    Main machine is \x1b[36mM\x1b[0m",
        "    \x1b[31m✗\x1b[0m project generation"].flatMap Terminal.line ∧
      ∃ stage ∈ request.planned, ∃ above : List Bytes, printed =
        above.flatten ++ Terminal.line ("    \x1b[31m✗\x1b[0m " ++ stage.label) := by
  have made : Request.make arguments.input arguments.output arguments.choice = .ok request := by
    decide
  have present : disk.isThere arguments.input = true := by decide
  have found : Toolchain.discoverBy setting.which arguments.root setting.env disk setting.program =
      .ok toolchain := by decide
  have failed : ((((Session.pipeline setting toolchain).watchedBy .full).run request).run script
      disk).result = .error (.failed (.stageFailed .generateProject ["Build succeeded."])) := by
    decide +kernel
  have folders : (Disk.makeFolders request.output disk).1 = .ok () := by decide
  obtain ⟨name, _, whole, _, _, ends, _⟩ :=
    Session.printed_progress setting arguments script disk made present found
  obtain ⟨stage, mem, _, above, lines⟩ := ends folders _ failed
  refine ⟨by decide +kernel, stage, mem, Terminal.heading name :: above, ?_⟩
  rw [whole, lines, failed]
  simp [Except.isOk, Except.toBool]

end FailedGeneration

end StagedBuild
