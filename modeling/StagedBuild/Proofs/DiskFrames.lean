import StagedBuild.Proofs.DiskSteps

/-!
# What a walk looks at

A walk looks locations up one after the other, and `Consults` says which.  Only
these matter: a walk ends at the same place on every disk that holds the same
there (`Leads.frame`).  What it looks up on the way are directories and links, and
all else is where it ends (`Leads.held`).

So a path leads to the same entry after a directory was made, after another file
was opened or filled, and after an entry was erased that its walk does not look
up.  `fileData?` is what a path reads, and the operations are described by what
they do to it.

* Making directories changes no file (`fileData?_makeFolders`).
* A copy empties its source if the destination leads to it, and otherwise keeps it
  (`fileData?_copyFile`).
* An unlink keeps a file unless it takes an entry away that the file is read
  through (`fileData?_unlink`).

What all operations keep is put together along the operation (`Keeping`).
-/

namespace StagedBuild

namespace Disk

/-- A walk along names, over so many links at most, looks a location up. -/
inductive Consults (disk : Disk) (through : Bool) :
    Nat → Location → List Bytes → Location → Prop where
  /-- Behind the directory itself. -/
  | here {links : Nat} {loc : Location} {rest : List Bytes} {asked : Location}
      (next : Consults disk through links loc rest asked) :
      Consults disk through links loc (Path.here :: rest) asked
  /-- Behind the directory above. -/
  | up {links : Nat} {loc : Location} {rest : List Bytes} {asked : Location}
      (next : Consults disk through links loc.dropLast rest asked) :
      Consults disk through links loc (Path.up :: rest) asked
  /-- The first name. -/
  | name (links : Nat) {loc : Location} {name : Bytes} (rest : List Bytes)
      (proper : Proper name) : Consults disk through links loc (name :: rest) (loc ++ [name])
  /-- Behind a directory. -/
  | folder {links : Nat} {loc : Location} {name : Bytes} {rest : List Bytes} {asked : Location}
      (proper : Proper name) (get : disk.get? (loc ++ [name]) = some .folder)
      (next : Consults disk through links (loc ++ [name]) rest asked) :
      Consults disk through links loc (name :: rest) asked
  /-- Behind a link. -/
  | link {links : Nat} {loc : Location} {name : Bytes} {target : Path} {rest : List Bytes}
      {asked : Location} (proper : Proper name)
      (get : disk.get? (loc ++ [name]) = some (.link target))
      (followed : rest = [] → through = true)
      (next : Consults disk through links (if target.isAbsolute then [] else loc)
        (stepsOf target ++ rest) asked) :
      Consults disk through (links + 1) loc (name :: rest) asked

section Walks

variable {disk disk' : Disk} {through : Bool} {links : Nat} {start asked : Location}
  {names : List Bytes} {found : Found}

/-- A walk ends at the same place on a disk that holds the same wherever it
looks. -/
theorem Leads.frame (h : Leads disk through links start names found)
    (agree : ∀ asked, Consults disk through links start names asked →
      disk'.get? asked = disk.get? asked) :
    Leads disk' through links start names found := by
  induction h with
  | done links loc => exact .done links loc
  | here next ih => exact .here (ih fun asked h => agree asked (.here h))
  | up next ih => exact .up (ih fun asked h => agree asked (.up h))
  | vacant links proper get =>
    exact .vacant links proper ((agree _ (.name links [] proper)).trans get)
  | folder proper get next ih =>
    have same := (agree _ (.name _ _ proper)).trans get
    exact .folder proper same (ih fun asked h => agree asked (.folder proper get h))
  | last links proper get stops =>
    exact .last links proper ((agree _ (.name links [] proper)).trans get) stops
  | link proper get followed next ih =>
    have same := (agree _ (.name _ _ proper)).trans get
    exact .link proper same followed (ih fun asked h => agree asked (.link proper get followed h))

/-- What a walk looks up is a directory, a link or the place where it ends. -/
theorem Leads.held (h : Leads disk through links start names found)
    (consulted : Consults disk through links start names asked) :
    disk.get? asked = some .folder ∨ (∃ target, disk.get? asked = some (.link target)) ∨
      (found = .vacant asked ∧ disk.get? asked = none) ∨
      ∃ node, found = .entry asked node ∧ disk.get? asked = some node := by
  induction h with
  | done links loc => cases consulted
  | here next ih =>
    cases consulted with
    | here consulted => exact ih consulted
    | name _ _ proper => exact absurd rfl proper.ne_here
    | folder proper _ _ => exact absurd rfl proper.ne_here
    | link proper _ _ _ => exact absurd rfl proper.ne_here
  | up next ih =>
    cases consulted with
    | up consulted => exact ih consulted
    | name _ _ proper => exact absurd rfl proper.ne_up
    | folder proper _ _ => exact absurd rfl proper.ne_up
    | link proper _ _ _ => exact absurd rfl proper.ne_up
  | vacant links proper get =>
    cases consulted with
    | here _ => exact absurd rfl proper.ne_here
    | up _ => exact absurd rfl proper.ne_up
    | name _ _ _ => exact .inr (.inr (.inl ⟨rfl, get⟩))
    | folder _ get' _ => rw [get] at get'; cases get'
    | link _ get' _ _ => rw [get] at get'; cases get'
  | folder proper get next ih =>
    cases consulted with
    | here _ => exact absurd rfl proper.ne_here
    | up _ => exact absurd rfl proper.ne_up
    | name _ _ _ => exact .inl get
    | folder _ _ consulted => exact ih consulted
    | link _ get' _ _ => rw [get] at get'; cases get'
  | @last links loc name node proper get stops =>
    cases consulted with
    | here _ => exact absurd rfl proper.ne_here
    | up _ => exact absurd rfl proper.ne_up
    | name _ _ _ => exact .inr (.inr (.inr ⟨node, rfl, get⟩))
    | folder _ _ consulted => cases consulted
    | link _ get' followed _ =>
      rw [get] at get'
      cases get'
      have unfollowed : through = false := stops
      rw [followed rfl] at unfollowed
      cases unfollowed
  | @link links loc name target rest found proper get followed next ih =>
    cases consulted with
    | here _ => exact absurd rfl proper.ne_here
    | up _ => exact absurd rfl proper.ne_up
    | name _ _ _ => exact .inr (.inl ⟨target, get⟩)
    | folder _ get' _ => rw [get] at get'; cases get'
    | link _ get' _ consulted =>
      rw [get] at get'
      cases get'
      exact ih consulted

/-- A location is looked up whatever it holds. -/
theorem Consults.elsewhere (h : Consults disk through links start names asked)
    (agree : ∀ other, other ≠ asked → disk'.get? other = disk.get? other) :
    Consults disk' through links start names asked := by
  induction h with
  | here next ih => exact .here (ih agree)
  | up next ih => exact .up (ih agree)
  | name links rest proper => exact .name links rest proper
  | @folder links loc name rest asked proper get next ih =>
    by_cases same : loc ++ [name] = asked
    · subst same
      exact .name links rest proper
    · exact .folder proper ((agree _ same).trans get) (ih agree)
  | @link links loc name target rest asked proper get followed next ih =>
    by_cases same : loc ++ [name] = asked
    · subst same
      exact .name (links + 1) rest proper
    · exact .link proper ((agree _ same).trans get) followed (ih agree)

/-- A walk does not end at an entry if it looks a location up that holds nothing. -/
theorem Leads.ne_entry_of_consults (h : Leads disk through links start names found)
    (consulted : Consults disk through links start names asked)
    (get : disk.get? asked = none) (loc : Location) (node : Node) : found ≠ .entry loc node := by
  rcases h.held consulted with folder | ⟨target, link⟩ | ⟨vacant, _⟩ | ⟨node', _, entry⟩
  · rw [folder] at get; cases get
  · rw [link] at get; cases get
  · rw [vacant]; exact nofun
  · rw [entry] at get; cases get

end Walks

/-! ## Places for files -/

/-- A file may be put at a place: it is vacant or holds a file already. -/
def FilePlace (disk : Disk) (target : Location) : Prop :=
  disk.get? target = none ∨ ∃ data executable, disk.get? target = some (.file data executable)

section Places

variable {disk : Disk} {target : Location}

/-- Only a file lies at a place for a file. -/
theorem FilePlace.file (place : disk.FilePlace target) {node : Node}
    (get : disk.get? target = some node) : ∃ data executable, node = .file data executable := by
  rcases place with vacant | ⟨data, executable, held⟩
  · rw [vacant] at get
    cases get
  · rw [held] at get
    cases get
    exact ⟨data, executable, rfl⟩

theorem FilePlace.ne_root (place : disk.FilePlace target) : target ≠ [] := by
  rintro rfl
  obtain ⟨_, _, folder⟩ := place.file rfl
  cases folder

/-- A place for a file is one again after a file was put there. -/
theorem FilePlace.insert (place : disk.FilePlace target) (data : Bytes) (executable : Bool) :
    (disk.insert target (.file data executable)).FilePlace target := by
  refine .inr ⟨data, executable, ?_⟩
  rw [get?_insert _ _ _ place.ne_root, if_pos rfl]

/-- A place where a walk ends for a file. -/
theorem filePlace_of_endsAt {p : Path} {through : Bool} {found : Found}
    (h : disk.find p through = .ok found) (ends : EndsAt target found) :
    disk.FilePlace target := by
  have lies := find_lies h
  match found, ends with
  | .vacant _, rfl => exact .inl lies
  | .entry _ (.file data executable), rfl => exact .inr ⟨_, _, lies.resolve_left nofun⟩

/-- A walk ends where it did after a file or a directory was put at a place for a file
where it does not end. -/
theorem Leads.insert_other {through : Bool} {links : Nat} {start : Location}
    {names : List Bytes} {found : Found} (new : Node) (place : disk.FilePlace target)
    (h : Leads disk through links start names found) (other : ¬EndsAt target found) :
    Leads (disk.insert target new) through links start names found := by
  refine h.frame ?_
  intro asked consulted
  rw [get?_insert _ _ _ place.ne_root, if_neg]
  rintro rfl
  rcases h.held consulted with folder | ⟨link, hlink⟩ | ⟨rfl, _⟩ | ⟨node, rfl, get⟩
  · obtain ⟨_, _, file⟩ := place.file folder
    cases file
  · obtain ⟨_, _, file⟩ := place.file hlink
    cases file
  · exact other rfl
  · obtain ⟨_, _, rfl⟩ := place.file get
    exact other rfl

end Places

/-! ## Paths -/

/-- A path is read through a location. -/
def Reads (disk : Disk) (p : Path) (asked : Location) : Prop :=
  Consults disk true linkLimit (disk.startOf p) (stepsOf p) asked

/-- What the regular file holds that a path leads to. -/
def fileData? (disk : Disk) (p : Path) : Option Bytes :=
  match disk.find p true with
  | .ok (.entry _ (.file data _)) => some data
  | _ => none

section Paths

variable {disk disk' : Disk} {p : Path} {loc asked : Location} {node : Node} {data : Bytes}

theorem fileData?_eq_some :
    disk.fileData? p = some data ↔
      ∃ loc executable, disk.find p true = .ok (.entry loc (.file data executable)) := by
  rw [fileData?]
  constructor
  · intro h
    split at h
    · next loc data' executable found =>
      cases h
      exact ⟨loc, executable, found⟩
    · cases h
  · rintro ⟨loc, executable, found⟩
    rw [found]

theorem stat_eq_ok : disk.stat p = .ok (loc, node) ↔ disk.find p true = .ok (.entry loc node) := by
  rw [stat]
  split
  · next found => simp [found]
  · next found => simp [found]
  · next found => simp [found]

/-- A path leads to the same entry on a disk that holds the same wherever it is read
through. -/
theorem find_frame {found : Found} (h : disk.find p true = .ok found)
    (home : disk'.home = disk.home)
    (agree : ∀ asked, disk.Reads p asked → disk'.get? asked = disk.get? asked) :
    disk'.find p true = .ok found := by
  obtain ⟨valid, leads⟩ := find_eq_ok_iff.mp h
  have start : disk'.startOf p = disk.startOf p := by rw [startOf, startOf, home]
  refine find_eq_ok_iff.mpr ⟨valid, ?_⟩
  rw [start]
  exact leads.frame agree

/-- A path leads to the same entry after another place for a file was filled. -/
theorem find_insert_other {target : Location} {found : Found} (new : Node)
    (place : disk.FilePlace target) (h : disk.find p true = .ok found)
    (other : ¬EndsAt target found) : (disk.insert target new).find p true = .ok found := by
  obtain ⟨valid, leads⟩ := find_eq_ok_iff.mp h
  exact find_eq_ok_iff.mpr ⟨valid, leads.insert_other new place other⟩

/-- A file reads the same after an entry was erased that it is not read through. -/
theorem fileData?_erase {gone : Location} (h : disk.fileData? p = some data)
    (ne_root : gone ≠ []) (unread : ¬disk.Reads p gone) :
    (disk.erase gone).fileData? p = some data := by
  obtain ⟨loc, executable, found⟩ := fileData?_eq_some.mp h
  refine fileData?_eq_some.mpr ⟨loc, executable, find_frame found rfl ?_⟩
  intro asked consulted
  rw [get?_erase _ _ ne_root, if_neg]
  rintro rfl
  exact unread consulted

/-- A path reads nothing after an entry was erased that it is read through. -/
theorem fileData?_erase_read {gone : Location} (ne_root : gone ≠ []) (read : disk.Reads p gone) :
    (disk.erase gone).fileData? p = none := by
  have agree : ∀ other, other ≠ gone → (disk.erase gone).get? other = disk.get? other := by
    intro other ne
    rw [get?_erase _ _ ne_root, if_neg ne]
  have vacant : (disk.erase gone).get? gone = none := by rw [get?_erase _ _ ne_root, if_pos rfl]
  rw [Option.eq_none_iff_forall_ne_some]
  intro data h
  obtain ⟨loc, executable, found⟩ := fileData?_eq_some.mp h
  exact (find_eq_ok_iff.mp found).2.ne_entry_of_consults (read.elsewhere agree) vacant loc _ rfl

end Paths

/-! ## Making directories -/

/-- An operation keeps what holds of disks, also if it fails. -/
def Keeping {α : Type} (keeps : Disk → Prop) (operation : DiskM α) : Prop :=
  ∀ disk, keeps disk → keeps (operation disk).2

section Keeping

variable {α β : Type} {keeps : Disk → Prop}

theorem Keeping.pure (a : α) : Keeping keeps (pure a : DiskM α) := fun _ h => h

theorem Keeping.throw (e : IoError) : Keeping keeps (throw e : DiskM α) := fun _ h => h

theorem Keeping.bind {operation : DiskM α} {next : α → DiskM β} (first : Keeping keeps operation)
    (rest : ∀ a, Keeping keeps (next a)) : Keeping keeps (operation >>= next) := by
  intro disk h
  cases result : operation disk with
  | mk outcome disk' =>
    have kept : keeps disk' := by
      have := first disk h
      rwa [result] at this
    cases outcome with
    | ok a =>
      rw [bind_ok result]
      exact rest a disk' kept
    | error e =>
      rw [bind_error result]
      exact kept

theorem Keeping.attempt {operation : DiskM α} (h : Keeping keeps operation) :
    Keeping keeps (attempt operation) := h

theorem Keeping.get : Keeping keeps (get : DiskM Disk) := fun _ h => h

end Keeping

section MakeFolders

/-- It holds of disks whatever directory is made at a vacant place. -/
def KeptByFolders (keeps : Disk → Prop) : Prop :=
  ∀ disk folder name, keeps disk → disk.get? (folder ++ [name]) = none →
    keeps (disk.insert (folder ++ [name]) .folder)

variable {keeps : Disk → Prop}

theorem keeping_makeFolder (kept : KeptByFolders keeps) (p : Path) :
    Keeping keeps (makeFolder p) := by
  intro disk h
  rcases makeFolder_cases p disk with ⟨e, failed⟩ | ⟨folder, name, slash, _, _, vacant, made⟩
  · rw [failed]
    exact h
  · rw [made]
    exact kept disk folder name h vacant

/-- A failed directory is made up for if the path leads to one. -/
theorem keeping_unlessFolder (p : Path) (e : IoError) :
    Keeping keeps (do if (← get).isFolder p then pure () else throw e : DiskM Unit) := by
  refine Keeping.get.bind fun disk => ?_
  split
  · exact .pure ()
  · exact .throw e

theorem keeping_ensureFolder {p : Path} (kept : Keeping keeps (makeFolder p)) :
    Keeping keeps (ensureFolder p) := by
  refine kept.attempt.bind fun made => ?_
  cases made with
  | ok u => exact .pure ()
  | error e => exact keeping_unlessFolder p e

/-- What is kept when any of some directories is made is kept when the first of them is
made with all that are missing above it. -/
theorem keeping_makeFirst {paths : List Path}
    (kept : ∀ p ∈ paths, Keeping keeps (makeFolder p)) : Keeping keeps (makeFirst paths) := by
  induction paths with
  | nil => exact .pure ()
  | cons p above ih =>
    have first := kept p (.head _)
    refine first.attempt.bind fun made => ?_
    split
    · exact .pure ()
    · exact (ih fun next mem => kept next (.tail _ mem)).bind fun _ => keeping_ensureFolder first
    · exact keeping_unlessFolder p _

/-- What is kept whenever a directory is made at a vacant place is kept when all that
are missing on a path are made. -/
theorem keeping_makeFolders (kept : KeptByFolders keeps) (p : Path) :
    Keeping keeps (makeFolders p) :=
  keeping_makeFirst fun next _ => keeping_makeFolder kept next

/-- Making directories changes no file. -/
theorem fileData?_makeFolders {disk : Disk} {p : Path} {data : Bytes} (folder : Path)
    (h : disk.fileData? p = some data) :
    (makeFolders folder disk).2.fileData? p = some data := by
  have kept : KeptByFolders fun disk => disk.fileData? p = some data := by
    intro disk folder name h vacant
    obtain ⟨loc, executable, found⟩ := fileData?_eq_some.mp h
    have other : ¬EndsAt (folder ++ [name]) (.entry loc (.file data executable)) := by
      rintro rfl
      rw [(find_lies found).resolve_left nofun] at vacant
      cases vacant
    exact fileData?_eq_some.mpr
      ⟨loc, executable, find_insert_other .folder (.inl vacant) found other⟩
  exact keeping_makeFolders kept folder disk h

end MakeFolders

/-! ## Copying -/

/-- A copy empties its source if the destination leads to it, and keeps it if not. -/
theorem fileData?_copyFile {source destination : Path} {disk disk' : Disk} {data : Bytes}
    (h : disk.fileData? source = some data)
    (copied : copyFile source destination disk = (.ok (), disk')) :
    (disk.stat destination = disk.stat source → disk'.fileData? source = some []) ∧
      (disk.stat destination ≠ disk.stat source → disk'.fileData? source = some data) := by
  obtain ⟨loc, executable, found⟩ := fileData?_eq_some.mp h
  have held := (find_lies found).resolve_left nofun
  have source_at := stat_eq_ok.mpr found
  obtain ⟨loc', data', executable', _, _, target, source_at', _, changed⟩ := copied_cases copied
  rw [source_at] at source_at'
  cases source_at'
  rw [source_at]
  rcases changed with ⟨found', old, hfind, ends, rfl⟩ | ⟨kind, hfind, rfl⟩
  · have place := filePlace_of_endsAt hfind ends
    have emptied : (disk.insert target (.file [] old)).get? target = some (.file [] old) := by
      rw [get?_insert _ _ _ place.ne_root, if_pos rfl]
    by_cases same : target = loc
    · subst same
      -- The file was emptied before it is read, so the copy holds nothing either.
      have read : (disk.insert target (.file [] old)).dataAt target = [] := by
        rw [dataAt, emptied]
      have both := find_insert [] old found rfl
      have filled := find_insert [] executable both rfl
      rw [read]
      refine ⟨fun _ => fileData?_eq_some.mpr ⟨_, _, filled⟩, fun apart => absurd ?_ apart⟩
      match found', ends with
      | .vacant _, rfl => rw [(find_lies hfind : disk.get? _ = none)] at held; cases held
      | .entry _ (.file _ _), rfl =>
        have held' := (find_lies hfind).resolve_left nofun
        rw [held] at held'
        cases held'
        exact stat_eq_ok.mpr hfind
    · have both := find_insert_other (.file [] old) place found (Ne.symm same)
      have read : (disk.insert target (.file [] old)).dataAt loc = data := by
        rw [dataAt, (find_lies both).resolve_left nofun]
      have kept := find_insert_other (.file data executable) (.inr ⟨_, _, emptied⟩) both
        (Ne.symm same)
      rw [read]
      refine ⟨fun meet => absurd ?_ same, fun _ => fileData?_eq_some.mpr ⟨_, _, kept⟩⟩
      have hfind' := stat_eq_ok.mp meet
      rw [hfind] at hfind'
      cases hfind'
      exact ends.symm
  · have apart : disk'.stat destination ≠ .ok (loc, .file data executable) := by
      rw [stat_eq_ok.mpr hfind]
      exact nofun
    exact ⟨fun meet => absurd meet apart, fun _ => h⟩

/-! ## Unlinking -/

/-- Unlinking one path takes an entry away that another is read through. -/
def Severs (disk : Disk) (p other : Path) : Prop :=
  ∃ folder name, (unlink p disk).1 = .ok () ∧ disk.spot p = .ok (.named folder name false) ∧
    disk.Reads other (folder ++ [name])

/-- A file reads the same after an unlink that takes no entry away that it is read
through. -/
theorem fileData?_unlink {disk : Disk} {p other : Path} {data : Bytes}
    (h : disk.fileData? other = some data) (spared : ¬disk.Severs p other) :
    (unlink p disk).2.fileData? other = some data := by
  rcases unlink_cases p disk with ⟨e, failed⟩ | ⟨folder, name, node, hspot, _, _, _, removed⟩
  · rw [failed]
    exact h
  · rw [removed]
    refine fileData?_erase h (by simp) fun read => spared ⟨folder, name, ?_, hspot, read⟩
    rw [removed]

/-- A path reads nothing after an unlink that takes an entry away that it is read
through. -/
theorem fileData?_unlink_severed {disk : Disk} {p other : Path} (severed : disk.Severs p other) :
    (unlink p disk).2.fileData? other = none := by
  obtain ⟨folder, name, well, hspot, read⟩ := severed
  rcases unlink_cases p disk with ⟨e, failed⟩ | ⟨folder', name', node, hspot', _, _, _, removed⟩
  · rw [failed] at well
    cases well
  · rw [hspot] at hspot'
    cases hspot'
    rw [removed]
    exact fileData?_erase_read (by simp) read

/-- An entry that is no directory is erased by its name. -/
theorem unlink_named {disk : Disk} {p : Path} {folder : Location} {name : Bytes} {node : Node}
    (hspot : disk.spot p = .ok (.named folder name false)) (short : name.length ≤ nameLimit)
    (get : disk.get? (folder ++ [name]) = some node) (ne_folder : node ≠ .folder) :
    unlink p disk = (.ok (), disk.erase (folder ++ [name])) := by
  have spotted := look_apply (·.spot p) disk
  have got : (MonadState.get : DiskM Disk) disk = (.ok disk, disk) := rfl
  rw [unlink, bind_ok (spotted.trans (by rw [hspot]))]
  simp only [if_neg (Nat.not_lt.mpr short)]
  rw [bind_ok got, get]
  cases node with
  | folder => exact absurd rfl ne_folder
  | file data executable => rfl
  | link target => rfl
  | device kind => rfl

theorem folderAt_insert {disk : Disk} {start folder target : Location} {names : List Bytes}
    (new : Node) (place : disk.FilePlace target) (h : disk.folderAt start names = .ok folder) :
    (disk.insert target new).folderAt start names = .ok folder :=
  folderAt_eq_ok_iff.mpr ((folderAt_eq_ok_iff.mp h).insert_other new place nofun)

/-- The last name of a path is in the same directory after a place for a file was
filled. -/
theorem spot_insert {disk : Disk} {p : Path} {folder target : Location} {name : Bytes}
    {slash : Bool} (new : Node) (place : disk.FilePlace target)
    (h : disk.spot p = .ok (.named folder name slash)) :
    (disk.insert target new).spot p = .ok (.named folder name slash) := by
  obtain ⟨valid, ne_here, ne_up, dirs, hdirs, hfolder, hslash⟩ := spot_eq_named_iff.mp h
  exact spot_eq_named_iff.mpr
    ⟨valid, ne_here, ne_up, dirs, hdirs, folderAt_insert new place hfolder, hslash⟩

/-- A path that leads to a file or a device is unlinked. -/
theorem unlink_of_find {disk : Disk} {p : Path} {folder loc : Location} {name : Bytes}
    {node : Node} (hspot : disk.spot p = .ok (.named folder name false))
    (hfind : disk.find p true = .ok (.entry loc node)) (ne_folder : node ≠ .folder) :
    (unlink p disk).1 = .ok () := by
  obtain ⟨left, on⟩ := walk_of_spot hspot
  obtain ⟨_, leads⟩ := find_eq_ok_iff.mp hfind
  have last : walk disk true left folder [name] = .ok (.entry loc node) :=
    (on true).symm.trans leads.walk
  have entry : ∃ held, Proper name ∧ disk.get? (folder ++ [name]) = some held ∧ held ≠ .folder := by
    cases leads_of_walk last with
    | here next => cases next; exact absurd rfl ne_folder
    | up next => cases next; exact absurd rfl ne_folder
    | folder proper get next => cases next; exact absurd rfl ne_folder
    | last _ proper get _ => exact ⟨_, proper, get, ne_folder⟩
    | link proper get _ _ => exact ⟨_, proper, get, nofun⟩
  obtain ⟨held, proper, get, held_ne⟩ := entry
  rw [unlink_named hspot proper.short get held_ne]

/-- A copy keeps the directory that another path leads to. -/
theorem find_copyFile {source destination p : Path} {disk disk' : Disk} {folder : Location}
    (copied : copyFile source destination disk = (.ok (), disk'))
    (h : disk.find p true = .ok (.entry folder .folder)) :
    disk'.find p true = .ok (.entry folder .folder) := by
  obtain ⟨_, _, _, _, _, target, _, _, ⟨found, old, hfind, ends, rfl⟩ | ⟨kind, _, rfl⟩⟩ :=
    copied_cases copied
  · have place := filePlace_of_endsAt hfind ends
    have emptied := find_insert_other (.file [] old) place h nofun
    exact find_insert_other _ (place.insert [] old) emptied nofun
  · exact h

/-- The destination of a copy names the same entry before and after it. -/
theorem spot_copyFile {source destination : Path} {disk disk' : Disk}
    (copied : copyFile source destination disk = (.ok (), disk')) :
    ∃ folder name, disk.spot destination = .ok (.named folder name false) ∧
      disk'.spot destination = .ok (.named folder name false) := by
  obtain ⟨_, _, _, folder, name, target, _, hspot,
    ⟨found, old, hfind, ends, rfl⟩ | ⟨kind, _, rfl⟩⟩ := copied_cases copied
  · have place := filePlace_of_endsAt hfind ends
    have emptied := spot_insert (.file [] old) place hspot
    exact ⟨folder, name, hspot, spot_insert _ (place.insert [] old) emptied⟩
  · exact ⟨folder, name, hspot, hspot⟩

/-- What was copied can be unlinked at once. -/
theorem unlink_of_copyFile {source destination : Path} {disk disk' : Disk}
    (copied : copyFile source destination disk = (.ok (), disk')) :
    (unlink destination disk').1 = .ok () := by
  obtain ⟨folder, name, _, hspot⟩ := spot_copyFile copied
  obtain ⟨loc, node, hfind, ne_folder⟩ := find_of_copyFile copied
  exact unlink_of_find hspot hfind ne_folder

end Disk

end StagedBuild
