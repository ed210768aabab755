import StagedBuild.Disk.Walk

/-!
# Operations on files

An operation changes a disk and gives a result or the cause why it failed.  An
operation that fails part way keeps what it did before.

* `makeFolder` makes one directory and `makeFolders` all that are missing on a
  path.
* `readFile` gives the bytes of a file.
* `copyFile` opens the source, checks that it is a regular file, empties or
  makes the destination, and then fills it.  Links at the end of either path are
  followed.  No file is made where a directory is asked for.  A file copied onto itself ends up empty, for it is emptied before it
  is read.
* `unlink` removes an entry that is no directory.  A link is removed and not what
  it leads to.
* `rename` moves an entry with all below it.  What lay at its new place is
  replaced.
-/

namespace StagedBuild

/-- An operation that changes a disk and may fail. -/
abbrev DiskM := ExceptT IoError (StateM Disk)

namespace Disk

/-- Look at the disk. -/
def look {α : Type} (view : Disk → Except IoError α) : DiskM α := do
  let disk ← get
  match view disk with
  | .ok a => pure a
  | .error e => throw e

/-- The outcome of an operation, failed or not. -/
def attempt {α : Type} (operation : DiskM α) : DiskM (Except IoError α) := fun disk =>
  let (result, disk) := operation disk
  (.ok result, disk)

/-! ## Directories -/

/-- Make a directory. -/
def makeFolder (p : Path) : DiskM Unit := do
  match ← look (·.spot p) with
  | .itself _ => throw .alreadyExists
  | .named folder name _ =>
      if nameLimit < name.length then throw .nameTooLong
      match (← get).get? (folder ++ [name]) with
      | some _ => throw .alreadyExists
      | none => modify (·.insert (folder ++ [name]) .folder)

/-- Make a directory unless the path leads to one. -/
def ensureFolder (p : Path) : DiskM Unit := do
  match ← attempt (makeFolder p) with
  | .ok () => pure ()
  | .error e => if (← get).isFolder p then pure () else throw e

/-- Make the first of some paths, where each next path is above the one before.
If a path above it is missing, that is made first. -/
def makeFirst : List Path → DiskM Unit
  | [] => pure ()
  | p :: above => do
      match ← attempt (makeFolder p) with
      | .ok () => pure ()
      | .error .notFound => do
          makeFirst above
          ensureFolder p
      | .error e => if (← get).isFolder p then pure () else throw e

/-- Make a directory and all that are missing above it.  The empty path asks for
nothing. -/
def makeFolders (p : Path) : DiskM Unit := makeFirst p.ancestors

/-! ## Files -/

/-- The bytes of the file that a path leads to. -/
def readFile (p : Path) : DiskM Bytes := do
  match ← look (·.stat p) with
  | (_, .file data _) => pure data
  | (_, .folder) => throw .isADirectory
  | _ => pure []

/-- Open a file for writing and empty it.  A missing file is made.  An existing
one keeps its permission. -/
def openEmptied (p : Path) (executable : Bool) : DiskM Location := do
  match ← look (·.spot p) with
  | .itself _ => throw .isADirectory
  | .named .. =>
      if asksForFolder (linkLimit + 1) (← get) p then throw .isADirectory
      match ← look (·.find p true) with
      | .vacant loc => do
          modify (·.insert loc (.file [] executable))
          pure loc
      | .entry loc (.file _ old) => do
          modify (·.insert loc (.file [] old))
          pure loc
      | .entry loc (.device _) => pure loc
      | .entry _ _ => throw .isADirectory

/-- Open a file for writing and keep what it holds.  A missing file is made. -/
def openKept (p : Path) (executable : Bool) : DiskM Location := do
  match ← look (·.find p true) with
  | .entry loc (.file _ _) => pure loc
  | _ => openEmptied p executable

/-- The bytes at a location. -/
def dataAt (disk : Disk) (loc : Location) : Bytes :=
  match disk.get? loc with
  | some (.file data _) => data
  | _ => []

/-- Fill an opened file and set its permission.  A device takes what it is
given. -/
def fill (loc : Location) (data : Bytes) (executable : Bool) : DiskM Unit := do
  match (← get).get? loc with
  | some (.file _ _) => modify (·.insert loc (.file data executable))
  | _ => pure ()

/-- Copy a regular file with its permission. -/
def copyFile (source destination : Path) : DiskM Unit := do
  match ← look (·.stat source) with
  | (loc, .file _ executable) => do
      let target ← openEmptied destination executable
      let disk ← get
      fill target (disk.dataAt loc) executable
  | _ => throw .notARegularFile

/-- Write a file with a permission. -/
def writeFile (p : Path) (data : Bytes) (executable : Bool) : DiskM Unit := do
  let loc ← openEmptied p executable
  fill loc data executable

/-- Remove an entry that is no directory. -/
def unlink (p : Path) : DiskM Unit := do
  match ← look (·.spot p) with
  | .itself _ => throw .isADirectory
  | .named folder name slash =>
      if nameLimit < name.length then throw .nameTooLong
      match (← get).get? (folder ++ [name]) with
      | none => throw .notFound
      | some .folder => throw .isADirectory
      | some _ =>
          if slash then throw .notADirectory
          modify (·.erase (folder ++ [name]))

/-- Make a link. -/
def makeLink (p target : Path) : DiskM Unit := do
  match ← look (·.spot p) with
  | .itself _ => throw .alreadyExists
  | .named folder name slash =>
      if nameLimit < name.length then throw .nameTooLong
      match (← get).get? (folder ++ [name]) with
      | some _ => throw .alreadyExists
      | none =>
          if slash then throw .notFound
          modify (·.insert (folder ++ [name]) (.link target))

/-- The entry that a path names, and its location.  A link is not followed. -/
def entryAt (p : Path) : DiskM (Location × Node) := do
  match ← look (·.spot p) with
  | .itself folder => pure (folder, .folder)
  | .named folder name _ =>
      match (← get).get? (folder ++ [name]) with
      | some node => pure (folder ++ [name], node)
      | none => throw .notFound

/-- Remove an empty directory. -/
def removeFolder (p : Path) : DiskM Unit := do
  match ← entryAt p with
  | (loc, .folder) =>
      if !((← get).below loc).isEmpty then throw .notEmpty
      modify (·.erase loc)
  | _ => throw .notADirectory

/-- Allow or forbid to execute a file. -/
def setExecutable (p : Path) (executable : Bool) : DiskM Unit := do
  match ← look (·.stat p) with
  | (loc, .file data _) => modify (·.insert loc (.file data executable))
  | _ => pure ()

/-- Refuses to replace an entry by one of another kind, and a directory that has
entries. -/
def checkReplaced (disk : Disk) (loc : Location) (node : Node) : Except IoError Unit :=
  match disk.get? loc, node with
  | none, _ => .ok ()
  | some .folder, .folder => if (disk.below loc).isEmpty then .ok () else .error .notEmpty
  | some .folder, _ => .error .isADirectory
  | some _, .folder => .error .notADirectory
  | some _, _ => .ok ()

/-- Move an entry and all below it. -/
def rename (source destination : Path) : DiskM Unit := do
  let (loc, node) ← entryAt source
  match ← look (·.spot destination) with
  | .itself _ => throw .alreadyExists
  | .named folder name _ =>
      let target := folder ++ [name]
      if target = loc then return
      if loc.isPrefixOf target then throw (.other "Invalid argument")
      look fun disk => checkReplaced disk target node
      let disk ← get
      let moved := (([], node) :: disk.below loc).map fun (names, node) => (target ++ names, node)
      let cleared := (disk.eraseBelow loc).eraseBelow target
      set { cleared with entries := moved ++ cleared.entries }

/-- Remove an entry and all below it. -/
def removeAll (p : Path) : DiskM Unit := do
  match ← look (·.spot p) with
  | .itself _ => throw .isADirectory
  | .named folder name _ => modify (·.eraseBelow (folder ++ [name]))

end Disk

end StagedBuild
