import StagedBuild.Disk.Walk

/-!
# Walks as derivations

`Leads` gives the walks that end somewhere by rules, one for each kind of step.
`walk_eq_ok_iff` says that these are the walks of the library.  Facts about walks
are proved by induction on a derivation, with the links and the names at once.

* A walk ends at what the disk holds there (`Leads.lies`).
* A walk that ends at a file or a vacant place ends at the file that is put there
  (`Leads.insert`).
* A walk that ends at an entry after one was erased ended there before
  (`Leads.of_erase`).
* A walk that ends at an entry also does if it does not follow the link at the end
  (`Leads.nofollow`).
* A walk through a directory goes on from the directory (`Leads.through`).

The last name of a path is in the directory that the names before it lead to
(`spot_eq_named_iff`).  `hasEntry_of_find` and `not_hasEntry_erase` say when a path names an entry.
-/

namespace StagedBuild

namespace Disk

/-! ## Disks that hold the same -/

section Views

variable {disk disk' : Disk} {through : Bool}

theorem follow_congr (agree : ∀ loc, disk'.get? loc = disk.get? loc)
    (jump : Location → List Bytes → Except IoError Found) (loc : Location)
    (names : List Bytes) :
    follow disk' through jump loc names = follow disk through jump loc names := by
  induction names generalizing loc with
  | nil => rfl
  | cons name rest ih => simp only [follow, agree, ih]

/-- Disks that hold the same are walked alike. -/
theorem walk_congr (agree : ∀ loc, disk'.get? loc = disk.get? loc) (links : Nat) :
    walk disk' through links = walk disk through links := by
  induction links with
  | zero =>
    funext loc names
    exact follow_congr agree _ loc names
  | succ links ih =>
    funext loc names
    rw [walk, walk, ih]
    exact follow_congr agree _ loc names

theorem folderAt_congr (agree : ∀ loc, disk'.get? loc = disk.get? loc) (start : Location)
    (names : List Bytes) : disk'.folderAt start names = disk.folderAt start names := by
  rw [folderAt, folderAt, walk_congr agree]

end Views

/-! ## Derivations -/

/-- A name that is looked up in its directory. -/
structure Proper (name : Bytes) : Prop where
  /-- It does not name the directory itself. -/
  ne_here : name ≠ Path.here
  /-- It does not name the directory above. -/
  ne_up : name ≠ Path.up
  /-- It is not too long. -/
  short : name.length ≤ nameLimit

/-- A walk may end at a node: it is no directory, and no link that is followed. -/
def Stops (through : Bool) : Node → Prop
  | .folder => False
  | .link _ => through = false
  | _ => True

/-- From a directory, names lead to a place, over so many links at most. -/
inductive Leads (disk : Disk) (through : Bool) :
    Nat → Location → List Bytes → Found → Prop where
  /-- No name is left. -/
  | done (links : Nat) (loc : Location) : Leads disk through links loc [] (.entry loc .folder)
  /-- The directory itself. -/
  | here {links : Nat} {loc : Location} {rest : List Bytes} {found : Found}
      (next : Leads disk through links loc rest found) :
      Leads disk through links loc (Path.here :: rest) found
  /-- The directory above. -/
  | up {links : Nat} {loc : Location} {rest : List Bytes} {found : Found}
      (next : Leads disk through links loc.dropLast rest found) :
      Leads disk through links loc (Path.up :: rest) found
  /-- The last name has no entry. -/
  | vacant (links : Nat) {loc : Location} {name : Bytes} (proper : Proper name)
      (get : disk.get? (loc ++ [name]) = none) :
      Leads disk through links loc [name] (.vacant (loc ++ [name]))
  /-- A name has a directory. -/
  | folder {links : Nat} {loc : Location} {name : Bytes} {rest : List Bytes} {found : Found}
      (proper : Proper name) (get : disk.get? (loc ++ [name]) = some .folder)
      (next : Leads disk through links (loc ++ [name]) rest found) :
      Leads disk through links loc (name :: rest) found
  /-- The last name has another entry. -/
  | last (links : Nat) {loc : Location} {name : Bytes} {node : Node} (proper : Proper name)
      (get : disk.get? (loc ++ [name]) = some node) (stops : Stops through node) :
      Leads disk through links loc [name] (.entry (loc ++ [name]) node)
  /-- A name has a link. -/
  | link {links : Nat} {loc : Location} {name : Bytes} {target : Path} {rest : List Bytes}
      {found : Found} (proper : Proper name)
      (get : disk.get? (loc ++ [name]) = some (.link target))
      (followed : rest = [] → through = true)
      (next : Leads disk through links (if target.isAbsolute then [] else loc)
        (stepsOf target ++ rest) found) :
      Leads disk through (links + 1) loc (name :: rest) found

/-- Where a walk goes on from a link, with so many links left. -/
def jump (disk : Disk) (through : Bool) : Nat → Location → List Bytes → Except IoError Found
  | 0 => fun _ _ => .error .tooManyLinks
  | links + 1 => walk disk through links

theorem walk_eq (disk : Disk) (through : Bool) (links : Nat) :
    walk disk through links = follow disk through (jump disk through links) := by
  cases links <;> rfl

/-- A walk has a derivation.  The induction is on the names, under the same for
the jumps. -/
theorem leads_of_follow {disk : Disk} {through : Bool} {links : Nat}
    (hjump : ∀ {n}, links = n + 1 → ∀ {loc names found},
      jump disk through links loc names = .ok found → Leads disk through n loc names found)
    {loc : Location} {names : List Bytes} {found : Found}
    (h : follow disk through (jump disk through links) loc names = .ok found) :
    Leads disk through links loc names found := by
  induction names generalizing loc with
  | nil => cases h; exact .done links loc
  | cons name rest ih =>
    rw [follow] at h
    split at h
    · next here => subst here; exact .here (ih h)
    · next ne_here =>
      split at h
      · next up => subst up; exact .up (ih h)
      · next ne_up =>
        split at h
        · cases h
        · next short =>
          have proper : Proper name := ⟨ne_here, ne_up, Nat.le_of_not_lt short⟩
          split at h
          · next get =>
            cases rest with
            | nil => cases h; exact .vacant links proper get
            | cons _ _ => cases h
          · next get => exact .folder proper get (ih h)
          · next target get =>
            cases hstop : rest.isEmpty && !through with
            | true =>
              rw [hstop] at h
              cases rest with
              | nil =>
                cases h
                have unfollowed : through = false := by simpa using hstop
                exact .last links proper get unfollowed
              | cons _ _ => cases hstop
            | false =>
              rw [hstop] at h
              have followed : rest = [] → through = true := by
                rintro rfl
                simpa using hstop
              cases links with
              | zero => cases h
              | succ n => exact .link proper get followed (hjump rfl h)
          · next node ne_folder ne_link get =>
            cases rest with
            | nil =>
              cases h
              refine .last links proper get ?_
              cases node with
              | folder => exact absurd rfl ne_folder
              | link target => exact absurd rfl (ne_link target)
              | file data executable => trivial
              | device kind => trivial
            | cons _ _ => cases h

theorem leads_of_walk {disk : Disk} {through : Bool} {links : Nat} {loc : Location}
    {names : List Bytes} {found : Found} (h : walk disk through links loc names = .ok found) :
    Leads disk through links loc names found := by
  induction links generalizing loc names found with
  | zero =>
    refine leads_of_follow ?_ h
    rintro n ⟨⟩
  | succ links ih =>
    refine leads_of_follow ?_ h
    rintro n ⟨⟩ loc names found hjump
    exact ih hjump

/-! One equation for each kind of step. -/

theorem walk_nil (disk : Disk) (through : Bool) (links : Nat) (loc : Location) :
    walk disk through links loc [] = .ok (.entry loc .folder) := by
  rw [walk_eq]
  rfl

theorem walk_here (disk : Disk) (through : Bool) (links : Nat) (loc : Location)
    (rest : List Bytes) :
    walk disk through links loc (Path.here :: rest) = walk disk through links loc rest := by
  rw [walk_eq, follow, if_pos rfl]

theorem walk_up (disk : Disk) (through : Bool) (links : Nat) (loc : Location)
    (rest : List Bytes) :
    walk disk through links loc (Path.up :: rest) =
      walk disk through links loc.dropLast rest := by
  rw [walk_eq, follow, if_neg (by decide), if_pos rfl]

theorem walk_vacant {disk : Disk} {loc : Location} {name : Bytes} (through : Bool) (links : Nat)
    (proper : Proper name) (get : disk.get? (loc ++ [name]) = none) :
    walk disk through links loc [name] = .ok (.vacant (loc ++ [name])) := by
  rw [walk_eq, follow, if_neg proper.ne_here, if_neg proper.ne_up,
    if_neg (Nat.not_lt.mpr proper.short), get]
  rfl

theorem walk_folder {disk : Disk} {loc : Location} {name : Bytes} (through : Bool) (links : Nat)
    (rest : List Bytes) (proper : Proper name)
    (get : disk.get? (loc ++ [name]) = some .folder) :
    walk disk through links loc (name :: rest) =
      walk disk through links (loc ++ [name]) rest := by
  rw [walk_eq, follow, if_neg proper.ne_here, if_neg proper.ne_up,
    if_neg (Nat.not_lt.mpr proper.short), get]

theorem walk_last {disk : Disk} {through : Bool} {loc : Location} {name : Bytes} {node : Node}
    (links : Nat) (proper : Proper name) (get : disk.get? (loc ++ [name]) = some node)
    (stops : Stops through node) :
    walk disk through links loc [name] = .ok (.entry (loc ++ [name]) node) := by
  rw [walk_eq, follow, if_neg proper.ne_here, if_neg proper.ne_up,
    if_neg (Nat.not_lt.mpr proper.short), get]
  cases node with
  | folder => exact stops.elim
  | link target => rw [show through = false from stops]; rfl
  | file data executable => rfl
  | device kind => rfl

theorem walk_link {disk : Disk} {through : Bool} {loc : Location} {name : Bytes} {target : Path}
    {rest : List Bytes} (links : Nat) (proper : Proper name)
    (get : disk.get? (loc ++ [name]) = some (.link target))
    (followed : rest = [] → through = true) :
    walk disk through (links + 1) loc (name :: rest) =
      walk disk through links (if target.isAbsolute then [] else loc)
        (stepsOf target ++ rest) := by
  rw [walk_eq, follow, if_neg proper.ne_here, if_neg proper.ne_up,
    if_neg (Nat.not_lt.mpr proper.short), get]
  have jumps : (rest.isEmpty && !through) = false := by
    cases rest with
    | nil => rw [followed rfl]; rfl
    | cons _ _ => rfl
  simp only [jumps]
  rfl

theorem Leads.walk {disk : Disk} {through : Bool} {links : Nat} {loc : Location}
    {names : List Bytes} {found : Found} (h : Leads disk through links loc names found) :
    walk disk through links loc names = .ok found := by
  induction h with
  | done links loc => exact walk_nil ..
  | here next ih => rw [walk_here, ih]
  | up next ih => rw [walk_up, ih]
  | vacant links proper get => exact walk_vacant _ links proper get
  | folder proper get next ih => rw [walk_folder _ _ _ proper get, ih]
  | last links proper get stops => exact walk_last links proper get stops
  | link proper get followed next ih => rw [walk_link _ proper get followed, ih]

/-- The walks that end somewhere are those with a derivation. -/
theorem walk_eq_ok_iff {disk : Disk} {through : Bool} {links : Nat} {loc : Location}
    {names : List Bytes} {found : Found} :
    Disk.walk disk through links loc names = .ok found ↔
      Leads disk through links loc names found :=
  ⟨leads_of_walk, Leads.walk⟩

/-! ## Where a walk ends -/

/-- The disk holds what was found. -/
def Lies (disk : Disk) : Found → Prop
  | .entry loc node => node = .folder ∨ disk.get? loc = some node
  | .vacant loc => disk.get? loc = none

/-- A walk ends at what the disk holds there. -/
theorem Leads.lies {disk : Disk} {through : Bool} {links : Nat} {loc : Location}
    {names : List Bytes} {found : Found} (h : Leads disk through links loc names found) :
    disk.Lies found := by
  induction h with
  | done links loc => exact .inl rfl
  | here next ih => exact ih
  | up next ih => exact ih
  | vacant links proper get => exact get
  | folder proper get next ih => exact ih
  | last links proper get stops => exact .inr get
  | link proper get followed next ih => exact ih

/-- A walk ended at a place for a file: vacant, or with a file already. -/
def EndsAt (loc : Location) : Found → Prop
  | .vacant other => other = loc
  | .entry other (.file _ _) => other = loc
  | _ => False

/-- A walk that ends at a place for a file ends at the file that is put there. -/
theorem Leads.insert {disk : Disk} {through : Bool} {links : Nat} {loc start : Location}
    {names : List Bytes} {found : Found} (data : Bytes) (executable : Bool)
    (place : disk.get? loc = none ∨ ∃ data executable, disk.get? loc = some (.file data executable))
    (h : Leads disk through links start names found) (ends : EndsAt loc found) :
    Leads (disk.insert loc (.file data executable)) through links start names
      (.entry loc (.file data executable)) := by
  have proper_loc : loc ≠ [] := by
    rintro rfl
    rcases place with vacant | ⟨_, _, file⟩
    · cases vacant
    · cases file
  -- Only a file may lie at the place, so a walk passes no directory or link there.
  have elsewhere : ∀ {other node}, disk.get? other = some node → Stops true node ∨ other ≠ loc := by
    intro other node get
    by_cases same : other = loc
    · subst same
      rcases place with vacant | ⟨_, _, file⟩
      · rw [vacant] at get; cases get
      · rw [file] at get; cases get; exact .inl trivial
    · exact .inr same
  induction h with
  | done links loc => exact ends.elim
  | here next ih => exact .here (ih ends)
  | up next ih => exact .up (ih ends)
  | vacant links proper get =>
    cases ends
    exact .last links proper (by rw [get?_insert _ _ _ proper_loc, if_pos rfl]) trivial
  | folder proper get next ih =>
    rcases elsewhere get with stops | other
    · exact stops.elim
    · exact .folder proper (by rw [get?_insert _ _ _ proper_loc, if_neg other, get]) (ih ends)
  | @last links start name node proper get stops =>
    cases node with
    | folder => exact stops.elim
    | link target => exact ends.elim
    | device kind => exact ends.elim
    | file _ _ =>
      cases ends
      exact .last links proper (by rw [get?_insert _ _ _ proper_loc, if_pos rfl]) trivial
  | link proper get followed next ih =>
    rcases elsewhere get with stops | other
    · cases stops
    · exact .link proper (by rw [get?_insert _ _ _ proper_loc, if_neg other, get]) followed
        (ih ends)

/-! ## After an entry was erased -/

/-- A walk that ends at an entry after one was erased ended there before. -/
theorem Leads.of_erase {disk : Disk} {through : Bool} {links : Nat} {gone start : Location}
    {names : List Bytes} {found : Found} (proper_gone : gone ≠ [])
    (h : Leads (disk.erase gone) through links start names found) {loc : Location} {node : Node}
    (entry : found = .entry loc node) : Leads disk through links start names found := by
  have before : ∀ {other node}, (disk.erase gone).get? other = some node →
      disk.get? other = some node := by
    intro other node get
    rw [get?_erase _ _ proper_gone] at get
    split at get
    · cases get
    · exact get
  induction h with
  | done links loc => exact .done links loc
  | here next ih => exact .here (ih entry)
  | up next ih => exact .up (ih entry)
  | vacant links proper get => cases entry
  | folder proper get next ih => exact .folder proper (before get) (ih entry)
  | last links proper get stops => exact .last links proper (before get) stops
  | link proper get followed next ih => exact .link proper (before get) followed (ih entry)

/-! ## Through a directory -/

/-- A walk through a directory goes on from the directory, with some links left. -/
theorem Leads.through {disk : Disk} {links : Nat} {start : Location} {dirs : List Bytes}
    {names : List Bytes} {found : Found} (h : Leads disk true links start names found)
    (hnames : names = dirs ++ [Path.here]) :
    ∃ folder left, found = .entry folder .folder ∧ ∀ through rest,
      (rest = [] → through = true) →
      Disk.walk disk through links start (dirs ++ rest) =
        Disk.walk disk through left folder rest := by
  induction h generalizing dirs with
  | done links loc => simp at hnames
  | @here links loc names found next ih =>
    cases dirs with
    | nil =>
      cases hnames
      cases next
      exact ⟨loc, links, rfl, fun _ _ _ => rfl⟩
    | cons dir dirs =>
      cases hnames
      obtain ⟨folder, left, hfound, hwalk⟩ := ih rfl
      refine ⟨folder, left, hfound, fun through rest followed => ?_⟩
      rw [List.cons_append, walk_here, hwalk through rest followed]
  | @up links loc names found next ih =>
    cases dirs with
    | nil => cases hnames
    | cons dir dirs =>
      cases hnames
      obtain ⟨folder, left, hfound, hwalk⟩ := ih rfl
      refine ⟨folder, left, hfound, fun through rest followed => ?_⟩
      rw [List.cons_append, walk_up, hwalk through rest followed]
  | vacant links proper get =>
    cases dirs with
    | nil => cases hnames; exact absurd rfl proper.ne_here
    | cons dir dirs => simp at hnames
  | folder proper get next ih =>
    cases dirs with
    | nil => cases hnames; exact absurd rfl proper.ne_here
    | cons dir dirs =>
      cases hnames
      obtain ⟨folder, left, hfound, hwalk⟩ := ih rfl
      refine ⟨folder, left, hfound, fun through rest followed => ?_⟩
      rw [List.cons_append, walk_folder _ _ _ proper get, hwalk through rest followed]
  | last links proper get stops =>
    cases dirs with
    | nil => cases hnames; exact absurd rfl proper.ne_here
    | cons dir dirs => simp at hnames
  | @link links loc name target names found proper get followed next ih =>
    cases dirs with
    | nil => cases hnames; exact absurd rfl proper.ne_here
    | cons dir dirs =>
      cases hnames
      obtain ⟨folder, left, hfound, hwalk⟩ := ih (List.append_assoc ..).symm
      refine ⟨folder, left, hfound, fun through rest followed => ?_⟩
      have passed : dirs ++ rest = [] → through = true := fun h =>
        followed (List.append_eq_nil_iff.mp h).2
      rw [List.cons_append, walk_link _ proper get passed, ← List.append_assoc,
        hwalk through rest followed]

/-! ## Entries at paths -/

/-- Whether a path names an entry.  A link at its end is not followed. -/
def hasEntry (disk : Disk) (p : Path) : Bool :=
  match disk.find p false with
  | .ok (.entry _ _) => true
  | _ => false

theorem hasEntry_iff {disk : Disk} {p : Path} :
    disk.hasEntry p = true ↔ ∃ loc node, disk.find p false = .ok (.entry loc node) := by
  rw [hasEntry]
  split
  · next loc node h => exact ⟨fun _ => ⟨loc, node, h⟩, fun _ => rfl⟩
  · next h => exact ⟨nofun, fun ⟨loc, node, h'⟩ => absurd h' (h loc node)⟩

theorem find_eq_ok_iff {disk : Disk} {p : Path} {through : Bool} {found : Found} :
    disk.find p through = .ok found ↔
      checkPath p = .ok () ∧ Leads disk through linkLimit (disk.startOf p) (stepsOf p) found := by
  rw [find, ← walk_eq_ok_iff]
  cases checkPath p with
  | error e => simp
  | ok u => simp

theorem find_lies {disk : Disk} {p : Path} {through : Bool} {found : Found}
    (h : disk.find p through = .ok found) : disk.Lies found :=
  (find_eq_ok_iff.mp h).2.lies

/-- A path that ends at a place for a file leads to the file that is put there. -/
theorem find_insert {disk : Disk} {p : Path} {through : Bool} {loc : Location} {found : Found}
    (data : Bytes) (executable : Bool) (h : disk.find p through = .ok found)
    (ends : EndsAt loc found) :
    (disk.insert loc (.file data executable)).find p through =
      .ok (.entry loc (.file data executable)) := by
  obtain ⟨valid, leads⟩ := find_eq_ok_iff.mp h
  refine find_eq_ok_iff.mpr ⟨valid, leads.insert data executable ?_ ends⟩
  have lies := leads.lies
  match found, ends with
  | .vacant _, rfl => exact .inl lies
  | .entry _ (.file _ _), rfl => exact .inr ⟨_, _, lies.resolve_left nofun⟩

/-- The directory that names lead to is where the walk into it ends. -/
theorem folderAt_eq_ok_iff {disk : Disk} {start folder : Location} {dirs : List Bytes} :
    disk.folderAt start dirs = .ok folder ↔
      Leads disk true linkLimit start (dirs ++ [Path.here]) (.entry folder .folder) := by
  rw [folderAt, ← walk_eq_ok_iff]
  constructor
  · intro h
    cases hwalk : walk disk true linkLimit start (dirs ++ [Path.here]) with
    | error e => rw [hwalk] at h; cases h
    | ok found =>
      obtain ⟨_, _, rfl, _⟩ := (leads_of_walk hwalk).through rfl
      rw [hwalk] at h
      cases h
      rfl
  · intro h
    rw [h]

/-- A walk through the directory that names lead to goes on from it. -/
theorem folderAt_eq_ok {disk : Disk} {start folder : Location} {dirs : List Bytes}
    (h : disk.folderAt start dirs = .ok folder) :
    ∃ left, ∀ through rest, (rest = [] → through = true) →
      walk disk through linkLimit start (dirs ++ rest) = walk disk through left folder rest := by
  obtain ⟨_, left, entry, on⟩ := (folderAt_eq_ok_iff.mp h).through rfl
  cases entry
  exact ⟨left, on⟩

/-- The last name of a path is in a directory if the names before it lead there. -/
theorem spot_eq_named_iff {disk : Disk} {p : Path} {folder : Location} {name : Bytes}
    {slash : Bool} :
    disk.spot p = .ok (.named folder name slash) ↔
      checkPath p = .ok () ∧ name ≠ Path.here ∧ name ≠ Path.up ∧
        ∃ dirs, namesOf p = dirs ++ [name] ∧ disk.folderAt (disk.startOf p) dirs = .ok folder ∧
          slash = decide (p.getLast? = some Bytes.slash) := by
  rw [spot]
  constructor
  · intro h
    split at h
    · cases h
    · next valid =>
      dsimp only at h
      split at h
      · cases h
      · next last hlast =>
        split at h
        · cases hfolder : disk.folderAt (disk.startOf p) (namesOf p) <;> rw [hfolder] at h <;>
            cases h
        · next plain =>
          obtain ⟨dirs, hdirs⟩ := List.getLast?_eq_some_iff.mp hlast
          rw [hdirs, List.dropLast_concat] at h
          cases hfolder : disk.folderAt (disk.startOf p) dirs with
          | error e => rw [hfolder] at h; cases h
          | ok folder' =>
            rw [hfolder] at h
            cases h
            exact ⟨valid, fun here => plain (.inl here), fun up => plain (.inr up), dirs, hdirs,
              hfolder, rfl⟩
  · rintro ⟨valid, ne_here, ne_up, dirs, hdirs, hfolder, rfl⟩
    have plain : ¬(name = Path.here ∨ name = Path.up) := by
      rw [not_or]
      exact ⟨ne_here, ne_up⟩
    rw [valid]
    dsimp only
    rw [hdirs, List.getLast?_concat, List.dropLast_concat]
    simp only [if_neg plain, hfolder, Except.map]

/-- A walk along a path goes on from the directory that holds its last name. -/
theorem walk_of_spot {disk : Disk} {p : Path} {folder : Location} {name : Bytes} {slash : Bool}
    (h : disk.spot p = .ok (.named folder name slash)) :
    ∃ left, ∀ through,
      walk disk through linkLimit (disk.startOf p) (stepsOf p) =
        walk disk through left folder (name :: if slash then [Path.here] else []) := by
  obtain ⟨_, _, _, dirs, hdirs, hfolder, rfl⟩ := spot_eq_named_iff.mp h
  obtain ⟨left, on⟩ := folderAt_eq_ok hfolder
  refine ⟨left, ?_⟩
  intro through
  rw [stepsOf, hdirs, List.append_assoc, List.singleton_append,
    on through _ fun empty => absurd empty (List.cons_ne_nil _ _)]
  simp only [decide_eq_true_eq]

/-- A path names nothing after its entry was erased, whatever led to it. -/
theorem not_hasEntry_erase {disk : Disk} {p : Path} {folder : Location} {name : Bytes}
    {node : Node} (h : disk.spot p = .ok (.named folder name false))
    (short : name.length ≤ nameLimit) (get : disk.get? (folder ++ [name]) = some node)
    (ne_folder : node ≠ .folder) : (disk.erase (folder ++ [name])).hasEntry p = false := by
  obtain ⟨_, ne_here, ne_up, _⟩ := spot_eq_named_iff.mp h
  obtain ⟨left, on⟩ := walk_of_spot h
  have proper_loc : folder ++ [name] ≠ [] := by simp
  have stops : Stops false node := by
    cases node with
    | folder => exact ne_folder rfl
    | link target => exact rfl
    | file data executable => trivial
    | device kind => trivial
  rw [Bool.eq_false_iff]
  intro there
  obtain ⟨loc, found, hfind⟩ := hasEntry_iff.mp there
  obtain ⟨_, leads⟩ := find_eq_ok_iff.mp hfind
  -- The walk ended at the same entry before, and that is the one that was erased.
  have before := (leads.of_erase proper_loc rfl).walk
  have last : walk disk false linkLimit (disk.startOf p) (stepsOf p) =
      walk disk false left folder [name] := on false
  rw [show (disk.erase (folder ++ [name])).startOf p = disk.startOf p from rfl, last,
    walk_last left ⟨ne_here, ne_up, short⟩ get stops] at before
  cases before
  rcases leads.lies with folder | held
  · exact ne_folder folder
  · rw [get?_erase _ _ proper_loc, if_pos rfl] at held
    cases held

end Disk

end StagedBuild
