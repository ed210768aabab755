import StagedBuild.Disk.Operations
import StagedBuild.Proofs.Walks

/-!
# Operations on files in closed form

`bind_ok` and `bind_error` follow an operation through its first part.  With
them each operation is given by its cases (`makeFolder_cases`, `copyFile_cases`,
`copied_cases`, `unlink_cases`), and `copyFile_apply` gives a copy in one equation.
An operation that fails before its one change leaves the disk as it was, so failed
copies (`copyFile_unchanged`) and failed removals change nothing.
-/

namespace StagedBuild

namespace Disk

variable {α β : Type}

/-! ## One part after the other -/

theorem bind_ok {operation : DiskM α} {next : α → DiskM β} {disk disk' : Disk} {a : α}
    (h : operation disk = (.ok a, disk')) : (operation >>= next) disk = next a disk' := by
  simp only [bind, ExceptT.bind, ExceptT.mk, StateT.bind, h]
  rfl

theorem bind_error {operation : DiskM α} {next : α → DiskM β} {disk disk' : Disk} {e : IoError}
    (h : operation disk = (.error e, disk')) : (operation >>= next) disk = (.error e, disk') := by
  simp only [bind, ExceptT.bind, ExceptT.mk, StateT.bind, h]
  rfl

/-- Looking changes nothing. -/
theorem look_apply (view : Disk → Except IoError α) (disk : Disk) :
    look view disk = (view disk, disk) := by
  have h : (get : DiskM Disk) disk = (.ok disk, disk) := rfl
  rw [look, bind_ok h]
  cases view disk <;> rfl

/-! ## Reading -/

/-- Reading changes nothing. -/
theorem readFile_disk (p : Path) (disk : Disk) : (readFile p disk).2 = disk := by
  have looked := look_apply (·.stat p) disk
  rw [readFile]
  cases h : disk.stat p with
  | error e => rw [bind_error (looked.trans (by rw [h]))]
  | ok found =>
    rw [bind_ok (looked.trans (by rw [h]))]
    obtain ⟨loc, node⟩ := found
    cases node <;> rfl

/-! ## Opening and copying -/

/-- Where an emptied file is opened and the disk with the file. -/
def opened (disk : Disk) (p : Path) (executable : Bool) : Except IoError (Location × Disk) :=
  match disk.spot p with
  | .error e => .error e
  | .ok (.itself _) => .error .isADirectory
  | .ok (.named ..) =>
      if asksForFolder (linkLimit + 1) disk p then .error .isADirectory
      else match disk.find p true with
        | .error e => .error e
        | .ok (.vacant loc) => .ok (loc, disk.insert loc (.file [] executable))
        | .ok (.entry loc (.file _ old)) => .ok (loc, disk.insert loc (.file [] old))
        | .ok (.entry loc (.device _)) => .ok (loc, disk)
        | .ok (.entry _ _) => .error .isADirectory

theorem openEmptied_apply (disk : Disk) (p : Path) (executable : Bool) :
    openEmptied p executable disk =
      match opened disk p executable with
      | .error e => (.error e, disk)
      | .ok (loc, disk') => (.ok loc, disk') := by
  have spotted := look_apply (·.spot p) disk
  have walked := look_apply (·.find p true) disk
  rw [openEmptied, opened]
  cases hs : disk.spot p with
  | error e => rw [bind_error (spotted.trans (by rw [hs]))]
  | ok spot =>
    rw [bind_ok (spotted.trans (by rw [hs]))]
    cases spot with
    | itself folder => rfl
    | named folder name slash =>
      have got : (get : DiskM Disk) disk = (.ok disk, disk) := rfl
      dsimp only
      rw [bind_ok got]
      split
      · rfl
      · cases hf : disk.find p true with
        | error e => exact bind_error (walked.trans (by rw [hf]))
        | ok found =>
          refine (bind_ok (walked.trans (by rw [hf]))).trans ?_
          cases found with
          | vacant loc => rfl
          | entry loc node => cases node <;> rfl

/-- An opened file with its data and permission.  A device stays. -/
def filled (disk : Disk) (loc : Location) (data : Bytes) (executable : Bool) : Disk :=
  match disk.get? loc with
  | some (.file _ _) => disk.insert loc (.file data executable)
  | _ => disk

theorem fill_apply (disk : Disk) (loc : Location) (data : Bytes) (executable : Bool) :
    fill loc data executable disk = (.ok (), disk.filled loc data executable) := by
  have h : (get : DiskM Disk) disk = (.ok disk, disk) := rfl
  rw [fill, bind_ok h, filled]
  cases disk.get? loc with
  | none => rfl
  | some node => cases node <;> rfl

/-- A copy looks at its source and opens its destination before it changes anything. -/
theorem copyFile_apply (source destination : Path) (disk : Disk) :
    copyFile source destination disk =
      match disk.stat source with
      | .error e => (.error e, disk)
      | .ok (loc, .file _ executable) =>
          match disk.opened destination executable with
          | .error e => (.error e, disk)
          | .ok (target, disk₁) => (.ok (), disk₁.filled target (disk₁.dataAt loc) executable)
      | .ok _ => (.error .notARegularFile, disk) := by
  have looked := look_apply (·.stat source) disk
  rw [copyFile]
  cases hs : disk.stat source with
  | error e => rw [bind_error (looked.trans (by rw [hs]))]
  | ok found =>
    rw [bind_ok (looked.trans (by rw [hs]))]
    obtain ⟨loc, node⟩ := found
    cases node with
    | folder => rfl
    | link target => rfl
    | device kind => rfl
    | file data executable =>
      have emptied := openEmptied_apply disk destination executable
      dsimp only
      cases ho : disk.opened destination executable with
      | error e =>
        rw [ho] at emptied
        exact bind_error emptied
      | ok place =>
        obtain ⟨target, disk₁⟩ := place
        rw [ho] at emptied
        have got : (get : DiskM Disk) disk₁ = (.ok disk₁, disk₁) := rfl
        exact (bind_ok emptied).trans ((bind_ok got).trans (fill_apply _ _ _ _))

/-- A copy fails and changes nothing, or its source is a regular file, its
destination is opened and filled. -/
theorem copyFile_cases (source destination : Path) (disk : Disk) :
    (∃ e, copyFile source destination disk = (.error e, disk)) ∨
    ∃ loc data executable target disk₁,
      disk.stat source = .ok (loc, .file data executable) ∧
      disk.opened destination executable = .ok (target, disk₁) ∧
      copyFile source destination disk =
        (.ok (), disk₁.filled target (disk₁.dataAt loc) executable) := by
  rw [copyFile_apply]
  split
  · next e _ => exact .inl ⟨e, rfl⟩
  · next loc data executable found =>
    split
    · next e _ => exact .inl ⟨e, rfl⟩
    · next target disk₁ opened =>
      exact .inr ⟨loc, data, executable, target, disk₁, found, opened, rfl⟩
  · exact .inl ⟨_, rfl⟩

/-- A copy that fails changes nothing. -/
theorem copyFile_unchanged {source destination : Path} {disk : Disk} {cause : IoError}
    (failed : (copyFile source destination disk).1 = .error cause) :
    (copyFile source destination disk).2 = disk := by
  rcases copyFile_cases source destination disk with
    ⟨e, uncopied⟩ | ⟨loc, data, executable, target, disk₁, found, opened, copied⟩
  · rw [uncopied]
  · rw [copied] at failed
    cases failed

theorem opened_cases {disk disk₁ : Disk} {p : Path} {executable : Bool} {target : Location}
    (h : disk.opened p executable = .ok (target, disk₁)) :
    (∃ found old, disk.find p true = .ok found ∧ EndsAt target found ∧
      disk₁ = disk.insert target (.file [] old)) ∨
    ∃ kind, disk.find p true = .ok (.entry target (.device kind)) ∧ disk₁ = disk := by
  rw [opened] at h
  split at h
  · cases h
  · cases h
  · split at h
    · cases h
    split at h
    · cases h
    · next loc hfind => cases h; exact .inl ⟨_, executable, hfind, rfl, rfl⟩
    · next loc data old hfind => cases h; exact .inl ⟨_, old, hfind, rfl, rfl⟩
    · next loc kind hfind => cases h; exact .inr ⟨kind, hfind, rfl⟩
    · cases h

theorem spot_of_opened {disk disk₁ : Disk} {p : Path} {executable : Bool} {target : Location}
    (h : disk.opened p executable = .ok (target, disk₁)) :
    ∃ folder name, disk.spot p = .ok (.named folder name false) := by
  rw [opened] at h
  split at h
  · cases h
  · cases h
  · next folder name slash hspot =>
    split at h
    · cases h
    · next files =>
      have ends : slash = false := by
        rw [asksForFolder, hspot] at files
        simp only [Bool.or_eq_true, not_or, Bool.not_eq_true] at files
        exact files.1
      exact ⟨folder, name, ends ▸ hspot⟩

/-- A copy that ends well has put a file at the place that its destination leads to, or
has given the data to a device.  The place is emptied before the source is read. -/
theorem copied_cases {source destination : Path} {disk disk' : Disk}
    (copied : copyFile source destination disk = (.ok (), disk')) :
    ∃ loc data executable folder name target,
      disk.stat source = .ok (loc, .file data executable) ∧
      disk.spot destination = .ok (.named folder name false) ∧
      ((∃ found old, disk.find destination true = .ok found ∧ EndsAt target found ∧
          disk' = (disk.insert target (.file [] old)).insert target
            (.file ((disk.insert target (.file [] old)).dataAt loc) executable)) ∨
        ∃ kind, disk.find destination true = .ok (.entry target (.device kind)) ∧
          disk' = disk) := by
  rcases copyFile_cases source destination disk with
    ⟨e, failed⟩ | ⟨loc, data, executable, target, disk₁, source_at, ho, done⟩
  · rw [failed] at copied
    cases copied
  rw [done] at copied
  cases copied
  obtain ⟨folder, name, hspot⟩ := spot_of_opened ho
  refine ⟨loc, data, executable, folder, name, target, source_at, hspot, ?_⟩
  rcases opened_cases ho with ⟨found, old, hfind, ends, rfl⟩ | ⟨kind, hfind, rfl⟩
  · have get := (find_lies (find_insert [] old hfind ends)).resolve_left nofun
    rw [filled, get]
    exact .inl ⟨found, old, hfind, ends, rfl⟩
  · have get := (find_lies hfind).resolve_left nofun
    rw [filled, get]
    exact .inr ⟨kind, hfind, rfl⟩

/-- The destination of a copy leads to an entry that is no directory. -/
theorem find_of_copyFile {source destination : Path} {disk disk' : Disk}
    (copied : copyFile source destination disk = (.ok (), disk')) :
    ∃ loc node, disk'.find destination true = .ok (.entry loc node) ∧ node ≠ .folder := by
  obtain ⟨_, _, _, _, _, target, _, _, ⟨found, old, hfind, ends, rfl⟩ | ⟨kind, hfind, rfl⟩⟩ :=
    copied_cases copied
  · have emptied := find_insert [] old hfind ends
    exact ⟨target, _, find_insert _ _ emptied rfl, nofun⟩
  · exact ⟨target, _, hfind, nofun⟩

/-- Making a directory fails and changes nothing, or puts one at a vacant place. -/
theorem makeFolder_cases (p : Path) (disk : Disk) :
    (∃ e, makeFolder p disk = (.error e, disk)) ∨
    ∃ folder name slash,
      disk.spot p = .ok (.named folder name slash) ∧
      name.length ≤ nameLimit ∧
      disk.get? (folder ++ [name]) = none ∧
      makeFolder p disk = (.ok (), disk.insert (folder ++ [name]) .folder) := by
  have spotted := look_apply (·.spot p) disk
  rw [makeFolder]
  cases hs : disk.spot p with
  | error e => exact .inl ⟨e, by rw [bind_error (spotted.trans (by rw [hs]))]⟩
  | ok spot =>
    rw [bind_ok (spotted.trans (by rw [hs]))]
    cases spot with
    | itself folder => exact .inl ⟨_, rfl⟩
    | named folder name slash =>
      have got : (get : DiskM Disk) disk = (.ok disk, disk) := rfl
      by_cases hlong : nameLimit < name.length
      · exact .inl ⟨.nameTooLong, by simp only [if_pos hlong]; rfl⟩
      · simp only [if_neg hlong]
        rw [bind_ok got]
        cases vacant : disk.get? (folder ++ [name]) with
        | none => exact .inr ⟨folder, name, slash, rfl, Nat.le_of_not_lt hlong, vacant, rfl⟩
        | some node => exact .inl ⟨_, rfl⟩

/-! ## Unlinking -/

/-- An unlink fails and changes nothing, or it erases an entry that is no
directory. -/
theorem unlink_cases (p : Path) (disk : Disk) :
    (∃ e, unlink p disk = (.error e, disk)) ∨
    ∃ folder name node,
      disk.spot p = .ok (.named folder name false) ∧
      name.length ≤ nameLimit ∧
      disk.get? (folder ++ [name]) = some node ∧ node ≠ .folder ∧
      unlink p disk = (.ok (), disk.erase (folder ++ [name])) := by
  have spotted := look_apply (·.spot p) disk
  rw [unlink]
  cases hs : disk.spot p with
  | error e => exact .inl ⟨e, by rw [bind_error (spotted.trans (by rw [hs]))]⟩
  | ok spot =>
    rw [bind_ok (spotted.trans (by rw [hs]))]
    cases spot with
    | itself folder => exact .inl ⟨_, rfl⟩
    | named folder name slash =>
      have got : (get : DiskM Disk) disk = (.ok disk, disk) := rfl
      by_cases hlong : nameLimit < name.length
      · exact .inl ⟨.nameTooLong, by simp only [if_pos hlong]; rfl⟩
      · have hshort : name.length ≤ nameLimit := Nat.le_of_not_lt hlong
        simp only [if_neg hlong]
        rw [bind_ok got]
        cases hg : disk.get? (folder ++ [name]) with
        | none => exact .inl ⟨.notFound, rfl⟩
        | some node =>
          cases node with
          | folder => exact .inl ⟨.isADirectory, rfl⟩
          | file data executable =>
            cases slash with
            | true => exact .inl ⟨.notADirectory, rfl⟩
            | false => exact .inr ⟨folder, name, _, rfl, hshort, hg, nofun, rfl⟩
          | link target =>
            cases slash with
            | true => exact .inl ⟨.notADirectory, rfl⟩
            | false => exact .inr ⟨folder, name, _, rfl, hshort, hg, nofun, rfl⟩
          | device kind =>
            cases slash with
            | true => exact .inl ⟨.notADirectory, rfl⟩
            | false => exact .inr ⟨folder, name, _, rfl, hshort, hg, nofun, rfl⟩

/-- A path that was unlinked names nothing. -/
theorem not_hasEntry_of_unlink {p : Path} {disk disk' : Disk}
    (h : unlink p disk = (.ok (), disk')) : disk'.hasEntry p = false := by
  rcases unlink_cases p disk with
    ⟨e, failed⟩ | ⟨folder, name, node, hspot, short, get, ne_folder, removed⟩
  · rw [failed] at h
    cases h
  · rw [removed] at h
    cases h
    exact not_hasEntry_erase hspot short get ne_folder

end Disk

end StagedBuild
