import Mathlib.Data.List.TakeWhile
import StagedBuild.Proofs.DataFlow
import StagedBuild.Proofs.Declarations
import StagedBuild.Proofs.TextInPlace

/-!
# A declaration among other bytes

A `Phrase` is a declaration of a main machine with nothing before or behind it.  In
the bytes of a program it is kept whatever stands around it, valid or not, since
decoding keeps text in its place.  It is a declaration there if no word character
stands before it, so the program has a main machine and the project generator is
called (`Reached.calls_generator`).

It is the first declaration if no word before it is `main` (`Declaration.first_of_absent`).
The main machine then has its name.
-/

namespace StagedBuild

namespace MainMachine

/-! ## Words -/

/-- A word stands in a text, with no word character on either side. -/
def HasWord (word text : List Char) : Prop :=
  ∃ before after, text = before ++ (word ++ after) ∧
    (∀ c ∈ before.getLast?, isWord c = false) ∧ ∀ c ∈ after.head?, isWord c = false

theorem HasWord.isInfix {word text : List Char} (has : HasWord word text) : word <:+: text := by
  obtain ⟨before, after, split, _⟩ := has
  exact ⟨before, after, by rw [List.append_assoc, split]⟩

/-- The word runs of a text stand in it as words. -/
theorem hasWord_of_mem_runs {word text : List Char} (mem : .word word ∈ runs text) :
    HasWord word text := by
  obtain ⟨before, after, split⟩ := List.append_of_mem mem
  have whole := maximal_runs text
  rw [split] at whole
  refine ⟨before.flatMap Run.chars, after.flatMap Run.chars, ?_, ?_, ?_⟩
  · rw [← flatMap_chars_runs text, split, List.flatMap_append, List.flatMap_cons, Run.chars]
  · exact whole.left.ends.mpr fun last hlast =>
      Run.apart_word.mp ((List.isChain_append.mp whole.apart).2.2 last hlast _ rfl)
  · exact whole.right.tail.starts.mpr fun next first =>
      Run.word_apart.mp (whole.right.apart.rel_head? first)

/-! ## First declarations -/

/-- A body without `machine` among its words has no more of them than another body of
the same runs. -/
theorem length_le_of_body {modifiers modifiers' : List (List Char × List Char)}
    {lastGap lastGap' name name' : List Char} {after after' : List Run}
    (plain : ∀ word ∈ modifiers, word.1 ≠ machineWord)
    (same : body modifiers lastGap name after = body modifiers' lastGap' name' after') :
    modifiers.length ≤ modifiers'.length := by
  induction modifiers generalizing modifiers' with
  | nil => exact Nat.zero_le _
  | cons word rest ih =>
    obtain ⟨other, rest_plain⟩ := List.forall_mem_cons.mp plain
    cases modifiers' with
    | nil =>
      simp only [body_cons, body_nil, List.cons.injEq, Run.word.injEq] at same
      exact absurd same.1 other
    | cons word' rest' =>
      simp only [body_cons, List.cons.injEq] at same
      exact Nat.succ_le_succ (ih rest_plain same.2.2)

/-- A declaration is a first one if no word before it is `main` and none of its words
before the keyword is `machine`. -/
theorem Declaration.first_of_absent {text : List Char} (d : Declaration text)
    (absent : ¬HasWord mainWord d.before) (plain : ∀ word ∈ d.modifiers, word.1 ≠ machineWord) :
    d.First := by
  refine ⟨fun e => ?_, fun e together => ?_⟩
  · have runs_le : d.layout.before.length ≤ e.layout.before.length := by
      by_contra shorter
      -- The word `main` of an earlier declaration is among the runs before this one.
      have front : e.layout.before ++ [.word mainWord] <+: runs text :=
        ⟨_, by rw [List.append_assoc, List.singleton_append]; exact e.layout.laid.symm⟩
      have short : (e.layout.before ++ [Run.word mainWord]).length ≤ d.layout.before.length := by
        rw [List.length_append, List.length_singleton]
        omega
      have inside := List.prefix_of_prefix_length_le front ⟨_, d.layout.laid.symm⟩ short
      have mem : .word mainWord ∈ runs d.before := inside.subset (by simp)
      exact absent (hasWord_of_mem_runs mem)
    rw [← d.text_before, ← e.text_before]
    exact d.layout.length_before_le e.layout runs_le
  · have laid := d.layout.laid.symm.trans e.layout.laid
    have before : d.layout.before = e.layout.before := congrArg runs together.symm
    rw [before, List.append_cancel_left_eq, List.cons.injEq, List.cons.injEq] at laid
    exact length_le_of_body plain laid.2.2

/-! ## Declarations alone -/

/-- A declaration with nothing before or behind it. -/
structure Phrase where
  /-- The blanks behind `main`. -/
  gap : List Char
  /-- The words before `machine`, each with the blanks behind it. -/
  modifiers : List (List Char × List Char)
  /-- The blanks behind `machine`. -/
  lastGap : List Char
  /-- The declared name. -/
  name : List Char
  /-- There are blanks behind `main`. -/
  gap_blank : IsGap gap
  /-- Each word before `machine` is one, with blanks behind it. -/
  modifiers_proper : ∀ word ∈ modifiers, IsWord word.1 ∧ IsGap word.2
  /-- There are blanks behind `machine`. -/
  lastGap_blank : IsGap lastGap
  /-- The name is a word. -/
  name_word : IsWord name

namespace Phrase

/-- The text of a declaration. -/
def chars (d : Phrase) : List Char :=
  mainWord ++ (d.gap ++ (d.modifiers.flatMap (fun word => word.1 ++ word.2) ++
    (machineWord ++ (d.lastGap ++ d.name))))

/-- A declaration of a longer name. -/
def lengthen (d : Phrase) (more : List Char) (words : ∀ c ∈ more, isWord c = true) : Phrase where
  gap := d.gap
  modifiers := d.modifiers
  lastGap := d.lastGap
  name := d.name ++ more
  gap_blank := d.gap_blank
  modifiers_proper := d.modifiers_proper
  lastGap_blank := d.lastGap_blank
  name_word := ⟨List.append_ne_nil_of_left_ne_nil d.name_word.1 more,
    List.forall_mem_append.mpr ⟨d.name_word.2, words⟩⟩

theorem chars_lengthen (d : Phrase) {more : List Char} (words : ∀ c ∈ more, isWord c = true) :
    (d.lengthen more words).chars = d.chars ++ more := by
  simp only [chars, lengthen, List.append_assoc]

theorem chars_ne_nil (d : Phrase) : d.chars ≠ [] :=
  List.append_ne_nil_of_left_ne_nil isWord_mainWord.1 _

variable {before after : List Char}

/-- The declaration in a text. -/
def declaration (d : Phrase) (before_ends : ∀ c ∈ before.getLast?, isWord c = false)
    (after_starts : ∀ c ∈ after.head?, isWord c = false) :
    Declaration (before ++ (d.chars ++ after)) where
  before := before
  gap := d.gap
  modifiers := d.modifiers
  lastGap := d.lastGap
  name := d.name
  after := after
  spelled := by simp only [chars, List.append_assoc]
  before_ends := before_ends
  gap_blank := d.gap_blank
  modifiers_proper := d.modifiers_proper
  lastGap_blank := d.lastGap_blank
  name_word := d.name_word
  after_starts := after_starts

/-- A program with a declaration in it has a main machine.  The name goes on with the
word characters behind the declaration. -/
theorem find?_ne_none (d : Phrase) (before_ends : ∀ c ∈ before.getLast?, isWord c = false)
    (after : List Char) : find? (String.ofList (before ++ (d.chars ++ after))) ≠ none := by
  -- The name may go on behind the declaration, so a longer one is there.
  have words : ∀ c ∈ after.takeWhile isWord, isWord c = true := fun c mem =>
    List.mem_takeWhile_imp mem
  have starts : ∀ c ∈ (after.dropWhile isWord).head?, isWord c = false := by
    intro c first
    have kind := List.head?_dropWhile_not isWord after
    rw [Option.mem_def.mp first] at kind
    simpa using kind
  have e := (d.lengthen _ words).declaration before_ends starts
  rw [chars_lengthen, List.append_assoc, List.takeWhile_append_dropWhile] at e
  intro missing
  have none := (find?_eq_none_iff _).mp missing
  rw [String.toList_ofList] at none
  exact none.elim e

/-- The main machine has the name of a declaration in the program if that is a first
one. -/
theorem find?_eq_name (d : Phrase) (before_ends : ∀ c ∈ before.getLast?, isWord c = false)
    (after_starts : ∀ c ∈ after.head?, isWord c = false) (absent : ¬HasWord mainWord before)
    (plain : ∀ word ∈ d.modifiers, word.1 ≠ machineWord) :
    find? (String.ofList (before ++ (d.chars ++ after))) = some (String.ofList d.name) := by
  let e := d.declaration before_ends after_starts
  have first : e.First := e.first_of_absent absent plain
  refine (find?_eq_some_iff _ _).mpr ?_
  rw [String.toList_ofList, String.toList_ofList]
  exact ⟨e, first, rfl⟩

end Phrase

end MainMachine

/-! ## The call of the project generator -/

namespace Pipeline

open Protocol

variable {σ : Type} {pipeline : Pipeline σ Event} {request : Request} {tools₀ : σ} {disk₀ : Disk}

/-- Only the project generation misses a main machine, and only before its call. -/
theorem fails_noMainMachine {stage : Stage} {path : Path}
    (why : Fails pipeline.toolchain request stage (.noMainMachine path)) :
    stage = .generateProject := by
  rcases why with unready | ⟨output, refused⟩
  · cases unready
    rfl
  · cases refused

theorem outcome_ne_noMainMachine (stage : Stage) (disk : Disk) (reply : Reply) (path : Path) :
    outcome stage (cleanUp request stage disk).1 reply ≠ .error (.failed (.noMainMachine path)) := by
  intro missing
  cases reply with
  | thrown => cases missing
  | ended output =>
    rcases outcome_ended stage (cleanUp request stage disk).1 output with
      ⟨_, _, well⟩ | ⟨error, why, bad⟩
    · rw [well] at missing
      cases missing
    · rw [bad] at missing
      cases missing
      cases refused_of_verdict why

/-- A project generation that found a main machine calls the generator, whose answer the
run logs, and the run does not miss the main machine. -/
theorem Reached.calls_generator (here : Reached (pipeline.watchedBy Observer.full) request tools₀
    disk₀ .generateProject) {name : String} {seen : Disk}
    (ready : (pipeline.watchedBy Observer.full).prepare request .generateProject here.disk =
      (.ok (some name), seen)) :
    let ended := ((pipeline.watchedBy Observer.full).run request).run tools₀ disk₀
    (∃ reply tools' disk' later,
      pipeline.tools.answer (pipeline.toolchain.generateCall request name) here.tools seen =
        (reply, tools', disk') ∧
      ended.log = here.log ++ (leadUp .generateProject name ++
        .called (pipeline.toolchain.generateCall request name) seen reply :: later)) ∧
    ∀ path, ended.result ≠ .error (.failed (.noMainMachine path)) := by
  intro ended
  cases answered : pipeline.tools.answer (pipeline.toolchain.generateCall request name)
    here.tools seen with
  | mk reply rest =>
    obtain ⟨tools₂, disk₂⟩ := rest
    have ran := run_stage_called ready answered rfl
    rw [observer_watchedBy, toolchain_watchedBy, full_log, opening_eq (isSome_of_prepare ready),
      List.append_assoc, List.singleton_append] at ran
    cases came : outcome .generateProject (cleanUp request .generateProject disk₂).1 reply with
    | error why =>
      rw [came] at ran
      have stopped : ended = _ := here.run_of_stop ran
      rw [stopped]
      refine ⟨⟨reply, tools₂, disk₂, _, rfl, rfl⟩, fun path missing => ?_⟩
      cases missing
      exact outcome_ne_noMainMachine .generateProject disk₂ reply path came
    | ok u =>
      rw [came] at ran
      have goes_on : ended = _ := here.run_of_done ran
      rw [goes_on, Ended.log_behind, List.append_assoc, List.append_assoc, List.cons_append]
      refine ⟨⟨reply, tools₂, disk₂, _, rfl, rfl⟩, fun path missing => ?_⟩
      obtain ⟨stage, mem, why⟩ := stages_fail missing
      obtain rfl := fails_noMainMachine why
      exact here.not_mem_later mem

/-- A project generation that can read a program with a main machine is ready. -/
theorem prepare_of_found {name : String} {disk : Disk} {bytes : Bytes}
    (read : (Disk.readFile request.source disk).1 = .ok bytes)
    (found : pipeline.mainMachine? (Utf8.decode bytes) = some name) :
    (pipeline.watchedBy Observer.full).prepare request .generateProject disk =
      (.ok (some name), disk) := by
  have unchanged := Disk.readFile_disk request.source disk
  have found' : (pipeline.watchedBy Observer.full).mainMachine? (Utf8.decode bytes) = some name :=
    found
  simp only [prepare, read, found', unchanged]

end Pipeline

/-! ## Programs that are no text -/

/-- A byte of ASCII that is no word character. -/
def IsApart (b : UInt8) : Prop := b.toNat ≤ 0x7F ∧ isWord (Char.ofNat b.toNat) = false

instance (b : UInt8) : Decidable (IsApart b) :=
  inferInstanceAs (Decidable (b.toNat ≤ 0x7F ∧ isWord (Char.ofNat b.toNat) = false))

namespace Utf8

theorem decodeChars_ends {front : Bytes} (apart : ∀ b ∈ front.getLast?, IsApart b) :
    ∀ c ∈ (decodeChars front).getLast?, isWord c = false := by
  intro c last
  rcases List.eq_nil_or_concat front with rfl | ⟨before, b, rfl⟩
  · cases last
  · rw [List.concat_eq_append] at apart last
    obtain ⟨low, other⟩ := apart b List.getLast?_concat
    rw [decodeChars_append_ascii low] at last
    have same : Char.ofNat b.toNat = c := by simpa [decodeChars_eq, decodeFrom, finish] using last
    rw [← same]
    exact other

theorem decodeChars_starts {behind : Bytes} (apart : ∀ b ∈ behind.head?, IsApart b) :
    ∀ c ∈ (decodeChars behind).head?, isWord c = false := by
  intro c first
  cases behind with
  | nil => cases first
  | cons b rest =>
    obtain ⟨low, other⟩ := apart b rfl
    rw [decodeChars_eq, decodeFrom_ascii low] at first
    cases first
    exact other

end Utf8

namespace MainMachine

/-- A declaration is found among any other bytes.  If it is at the front of a program or
behind a byte of ASCII that is no word character, the program has a main machine.  A run
that comes to the project generation with that program asks the tools for one call, that
of the generator, and logs what they answer.

The main machine has the name of the declaration, if no word before it is `main`, none
of its words before the keyword is `machine`, and its name ends there.  The name may be
`machine` itself. -/
theorem found_among_bytes (d : Phrase) (front behind : Bytes)
    (front_ends : ∀ b ∈ front.getLast?, IsApart b) :
    let program := front ++ Bytes.ofChars d.chars ++ behind
    find? (Utf8.decode program) ≠ none ∧
    (∀ {σ : Type} {pipeline : Pipeline σ Event} {request : Request} {tools₀ : σ} {disk₀ : Disk}
      (here : Pipeline.Reached (pipeline.watchedBy Observer.full) request tools₀ disk₀
        .generateProject),
      pipeline.mainMachine? = find? →
      (Disk.readFile request.source here.disk).1 = .ok program →
      let ended := ((pipeline.watchedBy Observer.full).run request).run tools₀ disk₀
      (∃ name reply tools' disk' later, find? (Utf8.decode program) = some name ∧
        pipeline.tools.answer (pipeline.toolchain.generateCall request name) here.tools here.disk =
          (reply, tools', disk') ∧
        ended.log = here.log ++ (Pipeline.leadUp .generateProject name ++
          .called (pipeline.toolchain.generateCall request name) here.disk reply :: later)) ∧
      ∀ path, ended.result ≠ .error (.failed (.noMainMachine path))) ∧
    (¬HasWord mainWord (Utf8.decode front).toList →
      (∀ word ∈ d.modifiers, word.1 ≠ machineWord) →
      (∀ b ∈ behind.head?, IsApart b) →
      find? (Utf8.decode program) = some (String.ofList d.name)) := by
  intro program
  have text : Utf8.decode program =
      String.ofList (Utf8.decodeChars front ++ (d.chars ++ Utf8.decodeChars behind)) := by
    rw [Utf8.decode, ← Utf8.decodeChars_in_place d.chars_ne_nil, ← List.append_assoc]
  have before_ends := Utf8.decodeChars_ends front_ends
  have declared : find? (Utf8.decode program) ≠ none := by
    rw [text]
    exact d.find?_ne_none before_ends _
  refine ⟨declared, ?_, ?_⟩
  · intro σ pipeline request tools₀ disk₀ here finder read ended
    obtain ⟨name, found⟩ := Option.ne_none_iff_exists'.mp declared
    have ready := Pipeline.prepare_of_found read (finder ▸ found)
    obtain ⟨⟨reply, tools', disk', later, answered, logged⟩, hit⟩ := here.calls_generator ready
    exact ⟨⟨name, reply, tools', disk', later, found, answered, logged⟩, hit⟩
  · intro absent plain behind_starts
    rw [Utf8.decode, String.toList_ofList] at absent
    rw [text]
    exact d.find?_eq_name before_ends (Utf8.decodeChars_starts behind_starts) absent plain

end MainMachine

/-! ## A program in another encoding -/

namespace Latin

open MainMachine

/-- A comment with a byte that is no text. -/
def front : Bytes := Bytes.ofString "// caf" ++ [0xE9, 0x0A]

/-- `main model machine Foo` -/
def phrase : Phrase where
  gap := [' ']
  modifiers := [("model".toList, [' '])]
  lastGap := [' ']
  name := "Foo".toList
  gap_blank := ⟨nofun, List.all_eq_true.mp (by decide)⟩
  modifiers_proper := by
    intro word mem
    obtain rfl := List.mem_singleton.mp mem
    exact ⟨⟨nofun, List.all_eq_true.mp (by decide)⟩, ⟨nofun, List.all_eq_true.mp (by decide)⟩⟩
  lastGap_blank := ⟨nofun, List.all_eq_true.mp (by decide)⟩
  name_word := ⟨nofun, List.all_eq_true.mp (by decide)⟩

/-- A brace and a character that is cut off. -/
def behind : Bytes := [0x7B, 0xE2, 0x82]

def program : Bytes := front ++ Bytes.ofChars phrase.chars ++ behind

/-- A request for a project without a native build. -/
def request : Request := ⟨Bytes.ofString "m.p", Bytes.ofString "out", "m", ⟨false, true, false⟩⟩

/-- A pipeline with scripted tools. -/
def pipeline : Pipeline Script Event where
  toolchain := Toolchain.ofRoot (Bytes.ofString "t")
  tools := Script.toolbox
  observer := Observer.full

/-- All tools end well. -/
def script : Script := [.ended true [] [], .ended true [] []]

/-- A disk with the program. -/
def disk : Disk := Effect.applyAll ⟨[], []⟩ [.write request.source program false]

/-- The run comes to the project generation. -/
def here : Pipeline.Reached (pipeline.watchedBy Observer.full) request script disk
    .generateProject :=
  .ofResult [.domainCompile] [] ⟨[.domainCompile], Artifacts.ofRequest request, none⟩ (by decide)
    (by decide +kernel)

/-- The generator is told the declared name, and its answer is logged. -/
theorem generator_called :
    ∃ reply tools' disk' later,
      pipeline.tools.answer (pipeline.toolchain.generateCall request "Foo") here.tools here.disk =
        (reply, tools', disk') ∧
      ((pipeline.run request).run script disk).log =
        here.log ++ (Pipeline.leadUp .generateProject "Foo" ++
          .called (pipeline.toolchain.generateCall request "Foo") here.disk reply :: later) := by
  have read : (Disk.readFile request.source here.disk).1 = .ok program := by decide +kernel
  have absent : ¬HasWord mainWord (Utf8.decode front).toList := fun has =>
    absurd has.isInfix (by decide +kernel)
  have plain : ∀ word ∈ phrase.modifiers, word.1 ≠ machineWord := by decide
  have front_ends : ∀ b ∈ front.getLast?, IsApart b := by rintro _ ⟨⟩; decide
  have behind_starts : ∀ b ∈ behind.head?, IsApart b := by rintro _ ⟨⟩; decide
  obtain ⟨_, called, named⟩ := found_among_bytes phrase front behind front_ends
  obtain ⟨⟨name, reply, tools', disk', later, found, answered, logged⟩, _⟩ := called here rfl read
  rw [named absent plain behind_starts] at found
  cases found
  exact ⟨reply, tools', disk', later, answered, logged⟩

end Latin

end StagedBuild
