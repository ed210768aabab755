import Mathlib.Data.List.Nodup
import StagedBuild.Proofs.StageRuns
import StagedBuild.Proofs.SupportFailures
import StagedBuild.Register

/-!
# The lives of support copies

A copy that is made on a register is held until it is given up, by a removal, by a
drop, by another copy that takes its name, or at the end.  It is given up once and
unlinks its path then, and does nothing else.

* `Does` says what a step answers and logs, and `Course` what some steps do.
  `Does.run` and `Course.run` say that they run so.
* `Lives` is the life of one copy: it is made and then it is given up.  Each step is a
  part of the life of each copy (`Does.lives`), and so are some steps (`Course.lives`).
* `holder` says which copy a name has, by the answers (`Course.held_after`).
* `GivesUp` says where a session gives a copy up, and `unlinked_once` that its path is
  unlinked there and nowhere else.

The disk after some steps is the disk before with the logged entries done to it, so
what is not logged is not done.
-/

namespace StagedBuild

namespace Register

/-! ## What is done to the disk -/

/-- The disk after an entry. -/
def Entry.apply (disk : Disk) : Entry → Disk
  | .copied _ source destination => (Disk.copyFile source destination disk).2
  | .unlinked _ _ path => (Disk.unlink path disk).2
  | .changed change => change disk

/-- The disk after some entries. -/
def replay (disk : Disk) (log : List Entry) : Disk := log.foldl Entry.apply disk

@[simp] theorem replay_nil (disk : Disk) : replay disk [] = disk := rfl

@[simp] theorem replay_cons (disk : Disk) (entry : Entry) (log : List Entry) :
    replay disk (entry :: log) = replay (entry.apply disk) log := rfl

@[simp] theorem replay_append (disk : Disk) (first second : List Entry) :
    replay disk (first ++ second) = replay (replay disk first) second := List.foldl_append

/-- The number of the copy that an entry is about. -/
def Entry.number? : Entry → Option Nat
  | .copied number _ _ => some number
  | .unlinked number _ _ => some number
  | .changed _ => none

/-- The entries about one copy. -/
def own (number : Nat) (log : List Entry) : List Entry :=
  log.filter (·.number? = some number)

@[simp] theorem own_nil (number : Nat) : own number [] = [] := rfl

theorem own_cons_same {number : Nat} {entry : Entry} (log : List Entry)
    (same : entry.number? = some number) : own number (entry :: log) = entry :: own number log :=
  List.filter_cons_of_pos (decide_eq_true same)

theorem own_cons_other {number : Nat} {entry : Entry} (log : List Entry)
    (other : entry.number? ≠ some number) : own number (entry :: log) = own number log :=
  List.filter_cons_of_neg (by simpa using other)

@[simp] theorem own_append (number : Nat) (first second : List Entry) :
    own number (first ++ second) = own number first ++ own number second :=
  List.filter_append ..

theorem mem_own {number : Nat} {entry : Entry} {log : List Entry} :
    entry ∈ own number log ↔ entry ∈ log ∧ entry.number? = some number := by
  rw [own, List.mem_filter, decide_eq_true_iff]

/-! ## Copies that are given up -/

/-- What a copy logs when it is given up. -/
def Held.gone (held : Held) (how : Release) : Entry := .unlinked held.number how held.copy.path

/-- What is logged when the copy of a name is given up, if it has one. -/
def released (register : Register) (name : String) (how : Release) : List Entry :=
  (register.heldAs? name).toList.map (·.gone how)

theorem released_of_found {register : Register} {name : String} {held : Held}
    (found : register.heldAs? name = some held) (how : Release) :
    register.released name how = [held.gone how] := by
  rw [released, found, Option.toList_some, List.map_singleton]

/-- A register whose copies are armed, under names of their own and under numbers that
were given out. -/
structure Valid (register : Register) : Prop where
  /-- Each copy is still to be unlinked. -/
  armed : ∀ held ∈ register.held, held.copy.armed = true
  /-- No two copies have one name. -/
  names : (register.held.map Held.name).Nodup
  /-- No two copies have one number. -/
  numbers : (register.held.map Held.number).Nodup
  /-- The next copy has a new number. -/
  below : ∀ held ∈ register.held, held.number < register.made

section Held

variable {register : Register} {name : String} {number : Nat} {held : Held} {how : Release}
  {copies : List Held}

theorem mem_of_heldAs? (h : register.heldAs? name = some held) :
    held ∈ register.held ∧ held.name = name :=
  ⟨List.mem_of_find?_eq_some h, by simpa using List.find?_some h⟩

theorem mem_without : held ∈ (register.without name).held ↔
    held ∈ register.held ∧ held.name ≠ name := by
  simp [without]

theorem heldAs?_without (register : Register) (name other : String) :
    (register.without name).heldAs? other =
      if name = other then none else register.heldAs? other := by
  rw [heldAs?, heldAs?, without, List.find?_filter]
  split
  · next same =>
    subst same
    exact List.find?_eq_none.mpr fun held _ => by simp
  · next apart =>
    congr 1
    funext held
    by_cases named : held.name = other
    · simp [named, Ne.symm apart]
    · simp [named]

theorem heldAs?_hold (register : Register) (name other : String) (copy : SupportCopy) :
    (register.hold name copy).heldAs? other =
      if name = other then some ⟨name, register.made, copy⟩ else register.heldAs? other := by
  have without := register.heldAs?_without name other
  rw [heldAs?] at without
  rw [heldAs?, hold, List.find?_cons, without]
  by_cases same : name = other
  · simp [same]
  · simp [same, beq_false_of_ne same]

theorem valid_empty : empty.Valid := ⟨nofun, .nil, .nil, nofun⟩

theorem Valid.without (valid : register.Valid) (name : String) : (register.without name).Valid where
  armed held mem := valid.armed held (mem_without.mp mem).1
  names := valid.names.sublist (List.filter_sublist.map _)
  numbers := valid.numbers.sublist (List.filter_sublist.map _)
  below held mem := valid.below held (mem_without.mp mem).1

theorem Valid.hold (valid : register.Valid) (name : String) (path : Path) :
    (register.hold name ⟨path, true⟩).Valid where
  armed := List.forall_mem_cons.mpr ⟨rfl, (valid.without name).armed⟩
  names := by
    refine List.nodup_cons.mpr ⟨fun mem => ?_, (valid.without name).names⟩
    obtain ⟨held, there, same⟩ := List.mem_map.mp mem
    exact (mem_without.mp there).2 same
  numbers := by
    refine List.nodup_cons.mpr ⟨fun mem => ?_, (valid.without name).numbers⟩
    obtain ⟨held, there, same⟩ := List.mem_map.mp mem
    exact absurd same (Nat.ne_of_lt (valid.below held (mem_without.mp there).1))
  below := by
    refine List.forall_mem_cons.mpr ⟨Nat.lt_succ_self _, fun held mem => ?_⟩
    exact Nat.lt_succ_of_lt (valid.below held (mem_without.mp mem).1)

/-- A name has one copy at most. -/
theorem Valid.heldAs?_of_mem (valid : register.Valid) (mem : held ∈ register.held) :
    register.heldAs? held.name = some held := by
  cases found : register.heldAs? held.name with
  | none =>
    have missing := List.find?_eq_none.mp found held mem
    simp at missing
  | some other =>
    obtain ⟨there, same⟩ := mem_of_heldAs? found
    rw [List.inj_on_of_nodup_map valid.names there mem same]

/-- A copy that is not given up logs nothing. -/
theorem own_gone_other (other : ∀ held ∈ copies, held.number ≠ number) :
    own number (copies.map (·.gone how)) = [] := by
  refine List.filter_eq_nil_iff.mpr fun entry mem => ?_
  obtain ⟨held, there, rfl⟩ := List.mem_map.mp mem
  simpa [Held.gone, Entry.number?] using other held there

/-- A copy that is given up logs one entry. -/
theorem own_gone (numbers : (copies.map Held.number).Nodup) (mem : held ∈ copies) :
    own held.number (copies.map (·.gone how)) = [held.gone how] := by
  induction copies with
  | nil => cases mem
  | cons first rest ih =>
    rw [List.map_cons, List.nodup_cons] at numbers
    obtain ⟨new, numbers⟩ := numbers
    rw [List.map_cons]
    cases mem with
    | head =>
      have other : ∀ later ∈ rest, later.number ≠ held.number := fun later there same =>
        new (same ▸ List.mem_map_of_mem there)
      rw [own_cons_same _ rfl, own_gone_other other]
    | tail _ there =>
      have other : (first.gone how).number? ≠ some held.number := fun same =>
        new (Option.some.inj same ▸ List.mem_map_of_mem there)
      rw [own_cons_other _ other, ih numbers there]

end Held

/-! ## What a step does -/

/-- What is answered when a path was unlinked, or was not. -/
def Answer.ofRemoval (path : Path) : Except IoError Unit → Answer
  | .ok () => .removed
  | .error cause => .failed (.file path cause)

/-- What is answered when a file was copied, or was not. -/
def Answer.ofCopy (source destination : Path) : Except IoError Unit → Answer
  | .ok () => .made destination
  | .error cause => .failed (.file source cause)

/-- What a step on a register and a disk answers, what it logs, and the register after
it. -/
inductive Does (register : Register) (disk : Disk) :
    Step → Answer → List Entry → Register → Prop where
  /-- A new copy is made, and then the old one of its name is dropped. -/
  | made {name : String} {source destination : Path}
      (copied : (Disk.copyFile source destination disk).1 = .ok ()) :
      Does register disk (.make name source destination) (.made destination)
        (.copied register.made source destination :: register.released name .drop)
        (register.hold name ⟨destination, true⟩)
  /-- A copy is not made. -/
  | unmade {name : String} {source destination : Path} {cause : IoError}
      (uncopied : (Disk.copyFile source destination disk).1 = .error cause) :
      Does register disk (.make name source destination) (.failed (.file source cause)) [] register
  /-- There is nothing to remove. -/
  | absent {name : String} (missing : register.heldAs? name = none) :
      Does register disk (.remove name) .nothing [] register
  /-- A copy is removed.  It is given up even if its path cannot be unlinked. -/
  | removed {name : String} {held : Held} (found : register.heldAs? name = some held) :
      Does register disk (.remove name)
        (.ofRemoval held.copy.path (Disk.unlink held.copy.path disk).1)
        (register.released name .removal) (register.without name)
  /-- A copy is dropped, if there is one. -/
  | dropped {name : String} :
      Does register disk (.drop name) .nothing (register.released name .drop)
        (register.without name)
  /-- The disk is changed from outside. -/
  | changed {change : Disk → Disk} :
      Does register disk (.outside change) .nothing [.changed change] register

section Steps

variable {register register' : Register} {disk : Disk} {step : Step} {answer : Answer}
  {log : List Entry}

/-- Every step does something. -/
theorem exists_does (register : Register) (disk : Disk) (step : Step) :
    ∃ answer log register', Does register disk step answer log register' := by
  cases step with
  | make name source destination =>
    cases copied : (Disk.copyFile source destination disk).1 with
    | error cause => exact ⟨_, _, _, .unmade copied⟩
    | ok u => exact ⟨_, _, _, .made copied⟩
  | remove name =>
    cases found : register.heldAs? name with
    | none => exact ⟨_, _, _, .absent found⟩
    | some held => exact ⟨_, _, _, .removed found⟩
  | drop name => exact ⟨_, _, _, .dropped⟩
  | outside change => exact ⟨_, _, _, .changed⟩

/-- Dropping an armed copy gives it up. -/
theorem run_heldDrop {held : Held} (armed : held.copy.armed = true) (disk : Disk) :
    held.drop.run () disk = ⟨[held.gone .drop], .ok (), (), replay disk [held.gone .drop]⟩ := by
  obtain ⟨name, number, path, _⟩ := held
  cases armed
  exact Pipeline.run_drop_armed _ path () disk

theorem run_dropOf (valid : register.Valid) (name : String) (disk : Disk) :
    (register.dropOf name).run () disk =
      ⟨register.released name .drop, .ok (), (), replay disk (register.released name .drop)⟩ := by
  rw [dropOf, released]
  cases found : register.heldAs? name with
  | none => rfl
  | some held => exact run_heldDrop (valid.armed held (mem_of_heldAs? found).1) disk

/-- Steps run as `Does` says, and do to the disk what they log. -/
theorem Does.run (valid : register.Valid) (does : Does register disk step answer log register') :
    (register.step step).run () disk = ⟨log, .ok (answer, register'), (), replay disk log⟩ := by
  cases does with
  | @made name source destination copied =>
    have tried : (Build.attempt (SupportCopy.make source destination) :
        Build Unit Entry _).run () disk =
          ⟨[], .ok (.ok ⟨destination, true⟩), (), (Disk.copyFile source destination disk).2⟩ := by
      rw [Build.run_attempt, Pipeline.run_make, copied]
      rfl
    have noted := Build.run_note [Entry.copied register.made source destination] ()
      (Disk.copyFile source destination disk).2
    rw [Register.step, Build.run_bind_ok tried, Build.run_bind_ok noted,
      Build.run_bind_ok (run_dropOf valid name _)]
    simp [Ended.behind, Entry.apply]
  | @unmade name source destination cause uncopied =>
    have tried : (Build.attempt (SupportCopy.make source destination) :
        Build Unit Entry _).run () disk =
          ⟨[], .ok (.error (.failed (.file source cause))), (), disk⟩ := by
      rw [Build.run_attempt, Pipeline.run_make, uncopied, Disk.copyFile_unchanged uncopied]
      rfl
    rw [Register.step, Build.run_bind_ok tried]
    rfl
  | @absent name missing =>
    rw [Register.step, missing]
    rfl
  | @removed name held found =>
    obtain ⟨there, named⟩ := mem_of_heldAs? found
    have removed := Pipeline.run_remove (watcher held.number .removal) held.copy () disk
    rw [Register.step, found, released, found]
    dsimp only
    rw [Build.run_bind_ok removed]
    cases (Disk.unlink held.copy.path disk).1 <;> rfl
  | @dropped name =>
    rw [Register.step, Build.run_bind_ok (run_dropOf valid name disk)]
    simp [Ended.behind]
  | @changed change =>
    have noted := Build.run_note [Entry.changed change] () disk
    have changed : (Build.onDisk (modify change) : Build Unit Entry _).run () disk =
      ⟨[], .ok (.ok ()), (), change disk⟩ := rfl
    rw [Register.step, Build.run_bind_ok noted, Build.run_bind_ok changed]
    rfl

/-- A step keeps a register valid. -/
theorem Does.valid (valid : register.Valid)
    (does : Does register disk step answer log register') : register'.Valid := by
  cases does with
  | made copied => exact valid.hold _ _
  | unmade uncopied => exact valid
  | absent missing => exact valid
  | removed found => exact valid.without _
  | dropped => exact valid.without _
  | changed => exact valid

end Steps

/-! ## The life of a copy -/

/-- Where a copy stands in its life. -/
inductive Stand where
  /-- It is still to be made. -/
  | coming
  /-- It is held, at a path. -/
  | held (path : Path)
  /-- It was given up. -/
  | gone

/-- Where the copy of a number stands on a register. -/
inductive Stands (register : Register) (number : Nat) : Stand → Prop where
  /-- The number was not given out. -/
  | coming (above : register.made ≤ number) : Stands register number .coming
  /-- The copy is among those that are held. -/
  | held {held : Held} (there : held ∈ register.held) (same : held.number = number) :
      Stands register number (.held held.copy.path)
  /-- The number was given out, and the copy is held no more. -/
  | gone (below : number < register.made) (absent : ∀ held ∈ register.held, held.number ≠ number) :
      Stands register number .gone

/-- A part of the life of a copy, with its entries. -/
inductive Lives (number : Nat) : Stand → List Entry → Stand → Prop where
  /-- Nothing more happens to it. -/
  | rest (stand : Stand) : Lives number stand [] stand
  /-- It is made. -/
  | made (source destination : Path) {log : List Entry} {after : Stand}
      (later : Lives number (.held destination) log after) :
      Lives number .coming (.copied number source destination :: log) after
  /-- It is given up, and tries to unlink its path. -/
  | released (how : Release) (path : Path) {log : List Entry} {after : Stand}
      (later : Lives number .gone log after) :
      Lives number (.held path) (.unlinked number how path :: log) after

section Lives

variable {number : Nat} {before between after : Stand} {log log' : List Entry}

theorem Lives.trans (first : Lives number before log between)
    (second : Lives number between log' after) : Lives number before (log ++ log') after := by
  induction first with
  | rest stand => exact second
  | made source destination later ih => exact .made source destination (ih second)
  | released how path later ih => exact .released how path (ih second)

/-- A copy that was given up does nothing. -/
theorem Lives.of_gone (lives : Lives number .gone log after) : log = [] := by
  cases lives
  rfl

theorem Lives.of_coming (lives : Lives number .coming log .coming) : log = [] := by
  cases lives with
  | rest => rfl
  | made source destination later =>
    cases later with
    | released how path later => cases later

/-- A copy that was made and given up did no more than that. -/
theorem Lives.whole (lives : Lives number .coming log .gone) :
    ∃ source destination how,
      log = [.copied number source destination, .unlinked number how destination] := by
  cases lives with
  | made source destination later =>
    cases later with
    | released how path later =>
      rw [later.of_gone]
      exact ⟨source, destination, how, rfl⟩

end Lives

section Parts

variable {register register' : Register} {number : Nat} {stand : Stand} {disk : Disk}
  {step : Step} {answer : Answer} {log : List Entry}

theorem Valid.number_inj (valid : register.Valid) {first second : Held}
    (h₁ : first ∈ register.held) (h₂ : second ∈ register.held)
    (same : first.number = second.number) : first = second :=
  List.inj_on_of_nodup_map valid.numbers h₁ h₂ same

theorem own_released_other {name : String} {how : Release}
    (other : ∀ held ∈ register.held, held.name = name → held.number ≠ number) :
    own number (register.released name how) = [] := by
  refine own_gone_other fun held mem => ?_
  obtain ⟨there, named⟩ := mem_of_heldAs? (Option.mem_toList.mp mem)
  exact other held there named

/-- Giving up the copy of a name is a part of the life of each copy. -/
theorem lives_released (valid : register.Valid) (stands : Stands register number stand)
    (name : String) (how : Release) :
    ∃ after, Lives number stand (own number (register.released name how)) after ∧
      Stands (register.without name) number after := by
  cases stands with
  | coming above =>
    rw [own_released_other fun held there _ same =>
      absurd (valid.below held there) (by rw [same]; exact Nat.not_lt.mpr above)]
    exact ⟨.coming, .rest _, .coming above⟩
  | gone below absent =>
    rw [own_released_other fun held there _ => absent held there]
    exact ⟨.gone, .rest _, .gone below fun held mem => absent held (mem_without.mp mem).1⟩
  | @held held there same =>
    subst same
    by_cases named : held.name = name
    · -- The copy has the name, so it is the one that is given up.
      subst named
      have given : register.released held.name how = [held].map (·.gone how) := by
        rw [released, valid.heldAs?_of_mem there]
        rfl
      have alone : ([held].map Held.number).Nodup := List.nodup_singleton _
      rw [given, own_gone alone (List.mem_singleton_self held)]
      refine ⟨.gone, .released how _ (.rest _), .gone (valid.below held there) ?_⟩
      intro other mem same
      obtain ⟨mem, apart⟩ := mem_without.mp mem
      exact apart (congrArg Held.name (valid.number_inj mem there same))
    · rw [own_released_other fun given mem has same =>
        named (valid.number_inj mem there same ▸ has)]
      exact ⟨_, .rest _, .held (mem_without.mpr ⟨there, named⟩) rfl⟩

theorem Stands.hold {name : String} {copy : SupportCopy}
    (stands : Stands (register.without name) number stand) (other : number ≠ register.made) :
    Stands (register.hold name copy) number stand := by
  cases stands with
  | coming above => exact .coming (Nat.lt_of_le_of_ne above (Ne.symm other))
  | held there same => exact .held (.tail _ there) same
  | gone below absent =>
    exact .gone (Nat.lt_succ_of_lt below) (List.forall_mem_cons.mpr ⟨Ne.symm other, absent⟩)

/-- A step is a part of the life of each copy. -/
theorem Does.lives (valid : register.Valid) (does : Does register disk step answer log register')
    (stands : Stands register number stand) :
    ∃ after, Lives number stand (own number log) after ∧ Stands register' number after := by
  cases does with
  | @made name source destination copied =>
    by_cases new : number = register.made
    · subst new
      cases stands with
      | held there same => exact absurd same (Nat.ne_of_lt (valid.below _ there))
      | gone below absent => exact absurd below (Nat.lt_irrefl _)
      | coming above =>
        have older : own register.made (register.released name .drop) = [] :=
          own_released_other fun held there _ => Nat.ne_of_lt (valid.below held there)
        have there : (⟨name, register.made, ⟨destination, true⟩⟩ : Held) ∈
            (register.hold name ⟨destination, true⟩).held := .head _
        rw [own_cons_same _ rfl, older]
        exact ⟨_, .made source destination (.rest _), .held there rfl⟩
    · have other : (Entry.copied register.made source destination).number? ≠ some number :=
        fun same => new (Option.some.inj same).symm
      obtain ⟨after, lives, stands⟩ := lives_released valid stands name .drop
      rw [own_cons_other _ other]
      exact ⟨after, lives, stands.hold new⟩
  | unmade uncopied => exact ⟨stand, .rest stand, stands⟩
  | absent missing => exact ⟨stand, .rest stand, stands⟩
  | removed found => exact lives_released valid stands _ _
  | dropped => exact lives_released valid stands _ _
  | changed => exact ⟨stand, .rest stand, stands⟩

end Parts

/-! ## Some steps -/

/-- What some steps answer, each with the disk after it, what they log, and the register
after them. -/
inductive Course : Register → Disk → List Step → List (Answer × Disk) → List Entry → Register →
    Prop where
  /-- No step does nothing. -/
  | done (register : Register) (disk : Disk) : Course register disk [] [] [] register
  /-- One step, and then the others where it ended. -/
  | next {register register₁ register₂ : Register} {disk : Disk} {step : Step} {later : List Step}
      {answer : Answer} {answers : List (Answer × Disk)} {log log' : List Entry}
      (first : Does register disk step answer log register₁)
      (rest : Course register₁ (replay disk log) later answers log' register₂) :
      Course register disk (step :: later) ((answer, replay disk log) :: answers) (log ++ log')
        register₂

section Courses

variable {register register' : Register} {disk : Disk} {todo earlier later : List Step}
  {step : Step} {answers : List (Answer × Disk)} {log : List Entry}

/-- Some steps always do something. -/
theorem exists_course (register : Register) (disk : Disk) (todo : List Step) :
    ∃ answers log register', Course register disk todo answers log register' := by
  induction todo generalizing register disk with
  | nil => exact ⟨_, _, _, .done register disk⟩
  | cons step later ih =>
    obtain ⟨answer, log, register₁, first⟩ := exists_does register disk step
    obtain ⟨answers, log', register₂, rest⟩ := ih register₁ (replay disk log)
    exact ⟨_, _, _, .next first rest⟩

theorem Course.valid (course : Course register disk todo answers log register')
    (valid : register.Valid) : register'.Valid := by
  induction course with
  | done register disk => exact valid
  | next first rest ih => exact ih (first.valid valid)

/-- Some steps run as `Course` says, and do to the disk what they log. -/
theorem Course.run (course : Course register disk todo answers log register')
    (valid : register.Valid) :
    (register.steps todo).run () disk = ⟨log, .ok (answers, register'), (), replay disk log⟩ := by
  induction course with
  | done register disk => rfl
  | @next register register₁ register₂ disk step later answer answers log log' first rest ih =>
    have here : (Build.theDisk : Build Unit Entry Disk).run () (replay disk log) =
      ⟨[], .ok (replay disk log), (), replay disk log⟩ := rfl
    rw [steps, Build.run_bind_ok (first.run valid), Build.run_bind_ok here,
      Build.run_bind_ok (ih (first.valid valid))]
    simp [Ended.behind]

/-- Some steps are a part of the life of each copy. -/
theorem Course.lives (course : Course register disk todo answers log register')
    (valid : register.Valid) {number : Nat} {stand : Stand}
    (stands : Stands register number stand) :
    ∃ after, Lives number stand (own number log) after ∧ Stands register' number after := by
  induction course generalizing stand with
  | done register disk => exact ⟨stand, .rest stand, stands⟩
  | next first rest ih =>
    obtain ⟨between, lives, stands⟩ := first.lives valid stands
    obtain ⟨after, lives', stands⟩ := ih (first.valid valid) stands
    rw [own_append]
    exact ⟨after, lives.trans lives', stands⟩

/-- Steps in two parts. -/
theorem Course.append {register₁ register₂ : Register} {answers₁ answers₂ : List (Answer × Disk)}
    {log₁ log₂ : List Entry} (first : Course register disk earlier answers₁ log₁ register₁)
    (second : Course register₁ (replay disk log₁) later answers₂ log₂ register₂) :
    Course register disk (earlier ++ later) (answers₁ ++ answers₂) (log₁ ++ log₂) register₂ := by
  induction first with
  | done register disk => exact second
  | next step rest ih =>
    rw [replay_append] at second
    rw [List.append_assoc]
    exact .next step (ih second)

/-- Some steps can be cut in two parts. -/
theorem Course.cut (course : Course register disk (earlier ++ later) answers log register') :
    ∃ answers₁ log₁ between answers₂ log₂, Course register disk earlier answers₁ log₁ between ∧
      Course between (replay disk log₁) later answers₂ log₂ register' ∧
      answers = answers₁ ++ answers₂ ∧ log = log₁ ++ log₂ := by
  induction earlier generalizing register disk answers log with
  | nil => exact ⟨_, _, _, _, _, .done _ _, course, rfl, rfl⟩
  | cons step earlier ih =>
    cases course with
    | @next _ register₁ _ _ _ _ answer answers log log' first rest =>
      obtain ⟨answers₁, log₁, between, answers₂, log₂, front, back, rfl, rfl⟩ := ih rest
      rw [← replay_append] at back
      exact ⟨_, _, between, answers₂, log₂, .next first front, back, rfl,
        by rw [List.append_assoc]⟩

/-- What some steps log is logged by one of them. -/
theorem Course.logged (course : Course register disk todo answers log register') {entry : Entry}
    (mem : entry ∈ log) :
    ∃ earlier step later answers₁ log₁ register₁ answer log₂ register₂,
      todo = earlier ++ step :: later ∧ Course register disk earlier answers₁ log₁ register₁ ∧
      Does register₁ (replay disk log₁) step answer log₂ register₂ ∧ entry ∈ log₂ := by
  induction course with
  | done register disk => cases mem
  | @next register register₁ register₂ disk step later answer answers log log' first rest ih =>
    rcases List.mem_append.mp mem with here | there
    · exact ⟨[], step, later, [], [], register, answer, log, register₁, rfl, .done _ _, first, here⟩
    · obtain ⟨earlier, step', later', answers₁, log₁, before, answer', log₂, after, rfl, front,
        does, mem⟩ := ih there
      rw [← replay_append] at does
      exact ⟨step :: earlier, step', later', _, log ++ log₁, before, answer', log₂, after, rfl,
        .next first front, does, mem⟩

end Courses

/-! ## The copies that are made -/

/-- The source and the destination of the copy that a step made, by its answer. -/
def madeBy? : Step × Answer × Disk → Option (Path × Path)
  | (.make _ source destination, .made _, _) => some (source, destination)
  | _ => none

/-- The sources and destinations of the copies that some steps made, by their answers. -/
def copiesMade (todo : List Step) (answers : List (Answer × Disk)) : List (Path × Path) :=
  (todo.zip answers).filterMap madeBy?

/-- The copy that a name has after a step, by its answer.  Given are the number of a copy
that it makes and the copy that the name had before. -/
def holderAfter (name : String) (number : Nat) (held? : Option Held) :
    Step × Answer × Disk → Option Held
  | (.make other _ destination, .made _, _) =>
      if other = name then some ⟨name, number, ⟨destination, true⟩⟩ else held?
  | (.remove other, _) => if other = name then none else held?
  | (.drop other, _) => if other = name then none else held?
  | _ => held?

/-- The copy that a name has after some steps, by their answers. -/
def holder (name : String) : Nat → Option Held → List (Step × Answer × Disk) → Option Held
  | _, held?, [] => held?
  | number, held?, done :: later =>
      holder name (number + (madeBy? done).toList.length) (holderAfter name number held? done) later

section Numbers

variable {register register' : Register} {disk : Disk} {todo : List Step}
  {answers : List (Answer × Disk)} {log : List Entry}

theorem Does.numbered {step : Step} {answer : Answer}
    (does : Does register disk step answer log register') (after : Disk) :
    match madeBy? (step, answer, after) with
    | some (source, destination) =>
        register'.made = register.made + 1 ∧ .copied register.made source destination ∈ log
    | none => register'.made = register.made := by
  cases does with
  | made copied => exact ⟨rfl, .head _⟩
  | unmade uncopied => rfl
  | absent missing => rfl
  | removed found => rfl
  | dropped => rfl
  | changed => rfl

/-- Copies are numbered in the order in which they are made. -/
theorem Course.numbered (course : Course register disk todo answers log register') :
    register'.made = register.made + (copiesMade todo answers).length ∧
      ∀ k source destination, (copiesMade todo answers)[k]? = some (source, destination) →
        .copied (register.made + k) source destination ∈ log := by
  induction course with
  | done register disk => exact ⟨rfl, nofun⟩
  | @next register register₁ register₂ disk step later answer answers log log' first rest ih =>
    have one := first.numbered (replay disk log)
    obtain ⟨count, logged⟩ := ih
    simp only [copiesMade, List.zip_cons_cons, List.filterMap_cons]
    cases born : madeBy? (step, answer, replay disk log) with
    | none =>
      rw [born] at one
      rw [one] at count logged
      exact ⟨count, fun k source destination h => List.mem_append_right _ (logged k _ _ h)⟩
    | some paths =>
      rw [born] at one
      obtain ⟨next, here⟩ := one
      rw [next] at count logged
      constructor
      · rw [count, List.length_cons, copiesMade]
        omega
      · intro k source destination h
        cases k with
        | zero =>
          cases h
          exact List.mem_append_left _ here
        | succ k =>
          have there := logged k source destination h
          rw [Nat.add_assoc, Nat.add_comm 1 k] at there
          exact List.mem_append_right _ there

theorem Course.length (course : Course register disk todo answers log register') :
    answers.length = todo.length := by
  induction course with
  | done register disk => rfl
  | next first rest ih => rw [List.length_cons, List.length_cons, ih]

theorem Does.held_after {step : Step} {answer : Answer}
    (does : Does register disk step answer log register') (name : String) (after : Disk) :
    register'.heldAs? name =
      holderAfter name register.made (register.heldAs? name) (step, answer, after) := by
  cases does with
  | @made other source destination copied =>
    rw [heldAs?_hold, holderAfter]
    split
    · next same => rw [same]
    · rfl
  | unmade uncopied => rfl
  | @absent other missing =>
    rw [holderAfter]
    split
    · next same => rw [← same, missing]
    · rfl
  | @removed other held found => exact heldAs?_without register other name
  | @dropped other => exact heldAs?_without register other name
  | changed => rfl

/-- A name has the copy that the answers say. -/
theorem Course.held_after (course : Course register disk todo answers log register')
    (name : String) :
    register'.heldAs? name =
      holder name register.made (register.heldAs? name) (todo.zip answers) := by
  induction course with
  | done register disk => rfl
  | @next register register₁ register₂ disk step later answer answers log log' first rest ih =>
    have count : register₁.made =
        register.made + (madeBy? (step, answer, replay disk log)).toList.length := by
      have one := first.numbered (replay disk log)
      split at one
      · next born => rw [one.1, born, Option.toList_some, List.length_singleton]
      · next none => rw [one, none, Option.toList_none, List.length_nil, Nat.add_zero]
    rw [List.zip_cons_cons, holder, ← count, ← first.held_after name]
    exact ih

end Numbers

/-! ## The end of a session -/

/-- What is logged when the copies that are left are dropped. -/
def closing (register : Register) : List Entry := register.left.map (·.gone .drop)

section Closing

variable {register : Register} {disk : Disk} {todo : List Step}
  {answers : List (Answer × Disk)} {log : List Entry}

theorem mem_left {held : Held} : held ∈ register.left ↔ held ∈ register.held := List.mem_mergeSort

theorem run_drops {copies : List Held} (armed : ∀ held ∈ copies, held.copy.armed = true)
    (disk : Disk) :
    (copies.forM Held.drop).run () disk =
      ⟨copies.map (·.gone .drop), .ok (), (), replay disk (copies.map (·.gone .drop))⟩ := by
  induction copies generalizing disk with
  | nil => rfl
  | cons held rest ih =>
    obtain ⟨first, later⟩ := List.forall_mem_cons.mp armed
    rw [List.forM, Build.run_bind_ok (run_heldDrop first disk), ih later]
    rfl

/-- The end of a session is the end of the life of each copy. -/
theorem lives_closing (valid : register.Valid) {number : Nat} {stand : Stand}
    (stands : Stands register number stand) :
    Lives number stand (own number register.closing)
      (if number < register.made then .gone else .coming) := by
  cases stands with
  | coming above =>
    have other : ∀ held ∈ register.left, held.number ≠ number := by
      intro held mem same
      have below := valid.below held (mem_left.mp mem)
      omega
    rw [closing, own_gone_other other, if_neg (Nat.not_lt.mpr above)]
    exact .rest _
  | gone below absent =>
    rw [closing, own_gone_other fun held mem => absent held (mem_left.mp mem), if_pos below]
    exact .rest _
  | held there same =>
    subst same
    have numbers : (register.left.map Held.number).Nodup :=
      ((List.mergeSort_perm register.held _).map Held.number).nodup_iff.mpr valid.numbers
    rw [closing, own_gone numbers (mem_left.mpr there), if_pos (valid.below _ there)]
    exact .released .drop _ (.rest _)

theorem run_session (course : Course empty disk todo answers log register) :
    (session todo).run () disk =
      ⟨log ++ register.closing, .ok answers, (), replay disk (log ++ register.closing)⟩ := by
  have armed : ∀ held ∈ register.left, held.copy.armed = true := fun held mem =>
    (course.valid valid_empty).armed held (mem_left.mp mem)
  have closed : register.close.run () (replay disk log) = _ := run_drops armed _
  rw [session, Build.run_bind_ok (course.run valid_empty)]
  dsimp only
  rw [Build.run_bind_ok closed]
  simp [Ended.behind, closing]

end Closing

/-- A session comes to a step.  Given are the register and the disk that the step finds
and what was logged before. -/
inductive Comes (todo : List Step) (disk : Disk) : Step → Register → Disk → List Entry → Prop where
  /-- The steps before it lead there. -/
  | intro {earlier later : List Step} {step : Step} {answers : List (Answer × Disk)}
      {log : List Entry} {register : Register} {now : Disk}
      (split : todo = earlier ++ step :: later)
      (ran : (empty.steps earlier).run () disk = ⟨log, .ok (answers, register), (), now⟩) :
      Comes todo disk step register now log

/-- A session comes to give up a copy.  Given are how, and what was logged before. -/
inductive GivesUp (todo : List Step) (disk : Disk) : Held → Release → List Entry → Prop where
  /-- It is removed. -/
  | removal {name : String} {register : Register} {now : Disk} {front : List Entry} {held : Held}
      (comes : Comes todo disk (.remove name) register now front)
      (found : register.heldAs? name = some held) : GivesUp todo disk held .removal front
  /-- It is dropped. -/
  | drop {name : String} {register : Register} {now : Disk} {front : List Entry} {held : Held}
      (comes : Comes todo disk (.drop name) register now front)
      (found : register.heldAs? name = some held) : GivesUp todo disk held .drop front
  /-- Another copy was made that takes its name. -/
  | replacement {name : String} {source destination : Path} {register : Register} {now : Disk}
      {front : List Entry} {held : Held}
      (comes : Comes todo disk (.make name source destination) register now front)
      (copied : (Disk.copyFile source destination now).1 = .ok ())
      (found : register.heldAs? name = some held) :
      GivesUp todo disk held .drop (front ++ [.copied register.made source destination])
  /-- It is left at the end, and those before it in the order of names were dropped. -/
  | closing {answers : List (Answer × Disk)} {log : List Entry} {register : Register} {now : Disk}
      {before behind : List Held} {held : Held}
      (ran : (empty.steps todo).run () disk = ⟨log, .ok (answers, register), (), now⟩)
      (left : register.left = before ++ held :: behind) :
      GivesUp todo disk held .drop (log ++ before.map (·.gone .drop))

/-- What the answers and the log of a session say of its copies. -/
structure GivenUpOnce (todo : List Step) (disk : Disk) (answers : List (Answer × Disk))
    (log : List Entry) : Prop where
  /-- Each step is answered. -/
  answered : answers.length = todo.length
  /-- A step that is to make a copy makes it if the file can be copied on the disk that the
  step finds, and else it fails. -/
  making : ∀ earlier name source destination later,
    todo = earlier ++ .make name source destination :: later →
    answers[earlier.length]?.map Prod.fst = some (.ofCopy source destination
      (Disk.copyFile source destination ((empty.steps earlier).run () disk).disk).1)
  /-- A name has the copy that was made last under it, if it was not given up since. -/
  named : ∀ earlier later front answers' register now,
    todo = earlier ++ later →
    (empty.steps earlier).run () disk = ⟨front, .ok (answers', register), (), now⟩ →
    ∀ name, register.heldAs? name = holder name 0 none (earlier.zip answers)
  /-- Each copy that was made tries to unlink its destination once, and does nothing else.
  Nothing is done for a copy that was not made. -/
  once : ∀ number,
    match (copiesMade todo answers)[number]? with
    | some (source, destination) =>
        ∃ how, own number log =
          [.copied number source destination, .unlinked number how destination]
    | none => own number log = []
  /-- A copy tries it where it is given up, and does nothing afterwards. -/
  given_up : ∀ held how front, GivesUp todo disk held how front →
    ∃ behind, log = front ++ held.gone how :: behind ∧ own held.number behind = []
  /-- It is tried nowhere else. -/
  only_then : ∀ number how path, .unlinked number how path ∈ log →
    ∃ held front, GivesUp todo disk held how front ∧ held.gone how = .unlinked number how path
  /-- A copy that is not made might as well not be asked for. -/
  unmade : ∀ earlier name source destination later cause,
    todo = earlier ++ .make name source destination :: later →
    (Disk.copyFile source destination ((empty.steps earlier).run () disk).disk).1 =
      .error cause →
    ((session (earlier ++ later)).run () disk).log = log

section Sessions

variable {register : Register} {disk : Disk} {todo : List Step}
  {answers : List (Answer × Disk)} {log : List Entry}

/-- The entries of each copy in a session. -/
theorem Course.once (course : Course empty disk todo answers log register) (number : Nat) :
    match (copiesMade todo answers)[number]? with
    | some (source, destination) =>
        ∃ how, own number (log ++ register.closing) =
          [.copied number source destination, .unlinked number how destination]
    | none => own number (log ++ register.closing) = [] := by
  obtain ⟨count, logged⟩ := course.numbered
  obtain ⟨between, lives, stands⟩ := course.lives valid_empty (.coming (Nat.zero_le number))
  have whole := lives.trans (lives_closing (course.valid valid_empty) stands)
  rw [← own_append] at whole
  cases made : (copiesMade todo answers)[number]? with
  | none =>
    have above : ¬number < register.made := by
      rw [count]
      have := List.getElem?_eq_none_iff.mp made
      simpa [empty] using this
    rw [if_neg above] at whole
    exact whole.of_coming
  | some paths =>
    obtain ⟨source, destination⟩ := paths
    have below : number < register.made := by
      rw [count]
      obtain ⟨short, -⟩ := List.getElem?_eq_some_iff.mp made
      simpa [empty] using short
    rw [if_pos below] at whole
    obtain ⟨source', destination', how, entries⟩ := whole.whole
    -- The entry of the step that made the copy is the first of these.
    have mem : .copied number source destination ∈ own number (log ++ register.closing) := by
      have there := logged number source destination made
      rw [empty, Nat.zero_add] at there
      exact mem_own.mpr ⟨List.mem_append_left _ there, rfl⟩
    rw [entries, List.mem_cons, List.mem_singleton] at mem
    rcases mem with same | other
    · cases same
      exact ⟨how, entries⟩
    · cases other

/-- Steps that end alike were alike. -/
theorem Course.of_run {earlier : List Step} {register' : Register} {after : Disk}
    {answers' : List (Answer × Disk)} {log' : List Entry}
    (course : Course empty disk earlier answers log register)
    (ran : (empty.steps earlier).run () disk = ⟨log', .ok (answers', register'), (), after⟩) :
    log = log' ∧ register = register' ∧ replay disk log = after := by
  rw [course.run valid_empty] at ran
  cases ran
  exact ⟨rfl, rfl, rfl⟩

/-- A step that a session comes to is one of its course. -/
theorem Course.comes (course : Course empty disk todo answers log register) {step : Step}
    {before : Register} {now : Disk} {front : List Entry}
    (comes : Comes todo disk step before now front) :
    ∃ answer own_log after later answers' behind, Does before now step answer own_log after ∧
      Course after (replay now own_log) later answers' behind register ∧
      log = front ++ (own_log ++ behind) ∧ before.Valid := by
  obtain ⟨rfl, ran⟩ := comes
  obtain ⟨_, _, _, _, _, earlier, rest, -, rfl⟩ := course.cut
  obtain ⟨rfl, rfl, rfl⟩ := earlier.of_run ran
  cases rest with
  | next first rest => exact ⟨_, _, _, _, _, _, first, rest, rfl, earlier.valid valid_empty⟩

/-- The step whose last entry gives a copy up is the end of the life of the copy. -/
theorem Course.given_up_by (course : Course empty disk todo answers log register) {step : Step}
    {before : Register} {now : Disk} {front : List Entry}
    (comes : Comes todo disk step before now front) {held : Held} {how : Release}
    (there : held ∈ before.held) {first : List Entry} (quiet : own held.number first = [])
    (gives : ∀ answer own_log after, Does before now step answer own_log after →
      own_log = first ++ [held.gone how]) :
    ∃ behind, log ++ register.closing = front ++ first ++ held.gone how :: behind ∧
      own held.number behind = [] := by
  obtain ⟨answer, own_log, after, later, answers', behind, does, rest, rfl, valid⟩ :=
    course.comes comes
  obtain rfl := gives _ _ _ does
  obtain ⟨between, lives, stands⟩ := does.lives valid (.held there rfl)
  rw [own_append, quiet, List.nil_append, own_cons_same _ rfl, own_nil] at lives
  refine ⟨behind ++ register.closing, by simp, ?_⟩
  cases lives with
  | released how path later =>
    cases later with
    | rest =>
      obtain ⟨after, later, stands⟩ := rest.lives (does.valid valid) stands
      have whole := later.trans (lives_closing (course.valid valid_empty) stands)
      rw [own_append]
      exact whole.of_gone

/-- A copy that is given up tries to unlink its path then, and nothing is done for it
afterwards. -/
theorem Course.given_up (course : Course empty disk todo answers log register) {held : Held}
    {how : Release} {front : List Entry} (gives : GivesUp todo disk held how front) :
    ∃ behind, log ++ register.closing = front ++ held.gone how :: behind ∧
      own held.number behind = [] := by
  cases gives with
  | @removal name before now front held comes found =>
    have given := course.given_up_by comes (mem_of_heldAs? found).1 (own_nil held.number)
      fun answer own_log after does => by
        cases does with
        | absent missing =>
          rw [found] at missing
          cases missing
        | removed _ => exact released_of_found found .removal
    rwa [List.append_nil] at given
  | @drop name before now front held comes found =>
    have given := course.given_up_by comes (mem_of_heldAs? found).1 (own_nil held.number)
      fun answer own_log after does => by
        cases does
        exact released_of_found found .drop
    rwa [List.append_nil] at given
  | @replacement name source destination before now front held comes copied found =>
    obtain ⟨_, _, _, _, _, _, _, _, _, valid⟩ := course.comes comes
    obtain ⟨there, -⟩ := mem_of_heldAs? found
    have older : (Entry.copied before.made source destination).number? ≠ some held.number :=
      fun same => Nat.ne_of_gt (valid.below held there) (Option.some.inj same)
    exact course.given_up_by comes there (own_cons_other [] older)
      fun answer own_log after does => by
        cases does with
        | made _ => rw [released_of_found found, List.singleton_append]
        | unmade uncopied =>
          rw [copied] at uncopied
          cases uncopied
  | @closing answers' log' register' now before behind held ran left =>
    obtain ⟨rfl, rfl, rfl⟩ := course.of_run ran
    have numbers : (register.left.map Held.number).Nodup :=
      ((List.mergeSort_perm register.held _).map Held.number).nodup_iff.mpr
        (course.valid valid_empty).numbers
    rw [left, List.map_append, List.map_cons] at numbers
    have apart := (List.nodup_cons.mp (List.nodup_append.mp numbers).2.1).1
    refine ⟨behind.map (·.gone .drop), by simp [Register.closing, left], ?_⟩
    exact own_gone_other fun other mem same => apart (same ▸ List.mem_map_of_mem mem)

/-- What is logged as an unlink is that of a copy that is given up. -/
theorem Course.only_then (course : Course empty disk todo answers log register) {number : Nat}
    {how : Release} {path : Path} (mem : .unlinked number how path ∈ log ++ register.closing) :
    ∃ held front, GivesUp todo disk held how front ∧
      held.gone how = .unlinked number how path := by
  rcases List.mem_append.mp mem with mem | mem
  · obtain ⟨earlier, step, later, _, front, before, answer, own_log, after, split, ran, does, mem⟩ :=
      course.logged mem
    have comes : Comes todo disk step before _ front := .intro split (ran.run valid_empty)
    cases does with
    | made copied =>
      rcases List.mem_cons.mp mem with same | mem
      · cases same
      · obtain ⟨held, found, same⟩ := List.mem_map.mp mem
        cases same
        exact ⟨held, _, .replacement comes copied (Option.mem_toList.mp found), rfl⟩
    | unmade uncopied => cases mem
    | absent missing => cases mem
    | removed _ =>
      obtain ⟨held, found, same⟩ := List.mem_map.mp mem
      cases same
      exact ⟨held, _, .removal comes (Option.mem_toList.mp found), rfl⟩
    | dropped =>
      obtain ⟨held, found, same⟩ := List.mem_map.mp mem
      cases same
      exact ⟨held, _, .drop comes (Option.mem_toList.mp found), rfl⟩
    | changed => cases List.mem_singleton.mp mem
  · obtain ⟨held, there, same⟩ := List.mem_map.mp mem
    cases same
    obtain ⟨before, behind, left⟩ := List.append_of_mem there
    exact ⟨held, _, .closing (course.run valid_empty) left, rfl⟩

/-- A step that is to make a copy is answered by whether the file can be copied. -/
theorem Course.making {earlier later : List Step} {name : String} {source destination : Path}
    (course : Course empty disk (earlier ++ .make name source destination :: later) answers log
      register) :
    answers[earlier.length]?.map Prod.fst = some (.ofCopy source destination
      (Disk.copyFile source destination ((empty.steps earlier).run () disk).disk).1) := by
  obtain ⟨answers₁, _, before, _, _, front, rest, rfl, rfl⟩ := course.cut
  rw [front.run valid_empty, ← front.length, List.getElem?_append_right (Nat.le_refl _),
    Nat.sub_self]
  cases rest with
  | next first rest =>
    cases first with
    | made copied =>
      rw [copied]
      rfl
    | unmade uncopied =>
      rw [uncopied]
      rfl

/-- A name has the copy that the answers of the session say. -/
theorem Course.named {earlier later : List Step} {front : List Entry}
    {answers' : List (Answer × Disk)} {register' : Register} {now : Disk}
    (course : Course empty disk (earlier ++ later) answers log register)
    (ran : (empty.steps earlier).run () disk = ⟨front, .ok (answers', register'), (), now⟩)
    (name : String) : register'.heldAs? name = holder name 0 none (earlier.zip answers) := by
  obtain ⟨answers₁, _, between, answers₂, _, first, -, rfl, -⟩ := course.cut
  obtain ⟨-, rfl, -⟩ := first.of_run ran
  have zipped : earlier.zip (answers₁ ++ answers₂) = earlier.zip answers₁ := by
    have both : (earlier ++ []).zip (answers₁ ++ answers₂) =
        earlier.zip answers₁ ++ [].zip answers₂ := List.zip_append first.length.symm
    rwa [List.append_nil, List.zip_nil_left, List.append_nil] at both
  rw [zipped]
  exact first.held_after name

/-- A session without a copy that is not made logs the same. -/
theorem Course.unmade {earlier later : List Step} {name : String} {source destination : Path}
    {cause : IoError}
    (course : Course empty disk (earlier ++ .make name source destination :: later) answers log
      register)
    (uncopied : (Disk.copyFile source destination ((empty.steps earlier).run () disk).disk).1 =
      .error cause) :
    ((session (earlier ++ later)).run () disk).log = log ++ register.closing := by
  obtain ⟨_, _, before, _, _, front, rest, -, rfl⟩ := course.cut
  rw [front.run valid_empty] at uncopied
  cases rest with
  | next first rest =>
    cases first with
    | made copied =>
      rw [uncopied] at copied
      cases copied
    | unmade _ =>
      rw [run_session (front.append rest)]
      rfl

end Sessions

/-- In a session each copy that was made tries to unlink its path once, when it is removed
or else when it is dropped, and the disk at the end comes of what is logged. -/
theorem unlinked_once (todo : List Step) (disk : Disk) :
    ∃ answers log, (session todo).run () disk = ⟨log, .ok answers, (), replay disk log⟩ ∧
      GivenUpOnce todo disk answers log := by
  obtain ⟨answers, log, register, course⟩ := exists_course empty disk todo
  refine ⟨answers, log ++ register.closing, run_session course, ?_⟩
  exact {
    answered := course.length
    making := by
      rintro earlier name source destination later rfl
      exact course.making
    named := by
      rintro earlier later front answers' register now rfl ran
      exact course.named ran
    once := course.once
    given_up := fun held how front gives => course.given_up gives
    only_then := fun number how path mem => course.only_then mem
    unmade := by
      rintro earlier name source destination later cause rfl uncopied
      exact course.unmade uncopied }

/-! ## Copies on one path -/

namespace Interleaved

/-- The file that is copied. -/
def source : Path := Bytes.ofString "lib"

/-- The path of every copy. -/
def destination : Path := Bytes.ofString "copy"

/-- Two copies are made and the first is removed.  Another file is then put at the path.
The name of the second copy is not taken by one that cannot be made, and then by a third.
A fourth is dropped, and the third is left. -/
def todo : List Step := [
  .make "a" source destination, .make "b" source destination, .remove "a",
  .change (.write destination (Bytes.ofString "other") false),
  .make "b" (Bytes.ofString "missing") destination, .make "b" source destination,
  .make "c" source destination, .drop "c"]

/-- A disk with the file. -/
def disk : Disk := ⟨[([source], .file [] false)], []⟩

/-- Four copies are made, and each unlinks the path once. -/
theorem each_unlinked_once :
    ∃ answers log, (session todo).run () disk = ⟨log, .ok answers, (), replay disk log⟩ ∧
      copiesMade todo answers = List.replicate 4 (source, destination) ∧
      log.filterMap Entry.number? = [0, 1, 0, 2, 1, 3, 3, 2] ∧
      ∀ number < 4, ∃ how, own number log =
        [.copied number source destination, .unlinked number how destination] := by
  obtain ⟨answers, log, ran, given⟩ := unlinked_once todo disk
  have copies : ((session todo).run () disk).result.map (copiesMade todo) =
      .ok (List.replicate 4 (source, destination)) := by decide +kernel
  have numbers : ((session todo).run () disk).log.filterMap Entry.number? =
      [0, 1, 0, 2, 1, 3, 3, 2] := by decide +kernel
  rw [ran] at copies numbers
  have made : copiesMade todo answers = List.replicate 4 (source, destination) :=
    Except.ok.inj copies
  refine ⟨answers, log, ran, made, numbers, fun number below => ?_⟩
  have once := given.once number
  rw [made, List.getElem?_replicate_of_lt below] at once
  exact once

end Interleaved

end Register

end StagedBuild
