import StagedBuild.Disk.Listing
import StagedBuild.Machine.Shell.Conditions
import StagedBuild.Machine.Utility.Basic

/-!
# Small programs that work on files
-/

namespace StagedBuild

namespace Machine

namespace Utility

/-! ## Paths -/

/-- Print the last name of a path. -/
def basename : Utility
  | [] => needOperand
  | path :: rest =>
      let name := ((Disk.namesOf path).getLast?).getD [Bytes.slash]
      let ending := (rest.head?).getD []
      if !ending.isEmpty && ending.isSuffixOf name && ending != name then
        sayLine (name.take (name.length - ending.length))
      else sayLine name

/-- Print a path without its last name. -/
def dirname : Utility
  | [] => needOperand
  | path :: _ =>
      match Path.parent? path with
      | some above => sayLine (if above.isEmpty then Path.here else above)
      | none => sayLine (if Path.isAbsolute path then [Bytes.slash] else Path.here)

/-- Print the working directory. -/
def pwd : Utility := fun _ => do
  sayLine (Disk.pathOf (← get).disk.home)

/-- Print the names in directories. -/
def ls : Utility := fun args => do
  let (letters, paths) := options args
  let shownNames (disk : Disk) (loc : Location) : List Bytes :=
    let names := ((disk.below loc).filterMap fun (names, _) =>
      match names with
      | [name] => some name
      | _ => none).mergeSort Disk.bytesLe
    let hidden (name : Bytes) : Bool := name.head? == some Bytes.dot
    if has letters 'a' then Path.here :: Path.up :: names
    else if has letters 'A' then names
    else names.filter (!hidden ·)
  let paths := if paths.isEmpty then [Path.here] else paths.mergeSort Disk.bytesLe
  let disk := (← get).disk
  let (folders, others) := paths.partition fun path => !has letters 'd' && disk.isFolder path
  (others ++ folders).forM fun path => do
    match disk.stat path with
    | .ok (loc, .folder) =>
        if has letters 'd' then sayLine path
        else do
          if !(← get).printed.isEmpty then say [Bytes.lineFeed]
          if 1 < paths.length then sayLine (path ++ [0x3A])
          (shownNames disk loc).forM sayLine
    | .ok _ => sayLine path
    | .error cause => do
        complainOf "cannot access" path cause
        endWith 2

/-! ## Files -/

/-- Make directories. -/
def mkdir : Utility := fun args => do
  let (letters, paths) := options args
  forOperands paths fun path =>
    onDisk "cannot create directory" path
      (if has letters 'p' then Disk.makeFolders path else Disk.makeFolder path)

/-- Remove empty directories. -/
def rmdir : Utility := fun args => do
  forOperands (options args).2 fun path =>
    onDisk "failed to remove" path (Disk.removeFolder path)

/-- Remove entries. -/
def rm : Utility := fun args => do
  let (letters, paths) := options args
  let deep := has letters 'r' || has letters 'R'
  if paths.isEmpty && has letters 'f' then return
  forOperands paths fun path => do
    match ← tryOnDisk (Disk.entryAt path) with
    | .error .notFound =>
        if !has letters 'f' then complainOf "cannot remove" path .notFound
    | .ok (_, .folder) =>
        if deep then onDisk "cannot remove" path (Disk.removeAll path)
        else complainOf "cannot remove" path .isADirectory
    | .ok _ => onDisk "cannot remove" path (Disk.unlink path)
    | .error cause => complainOf "cannot remove" path cause

/-- Whether two paths lead to the same entry. -/
def sameFile (disk : Disk) (a b : Path) : Bool :=
  (disk.realPath? a).isSome && disk.realPath? a == disk.realPath? b

/-- Complain that two paths lead to the same file. -/
def complainOfSame (a b : Path) : StateM Job Unit :=
  complain "'" a ("' and '" ++ Path.display b ++ "' are the same file")

/-- Copy an entry and all below it. -/
def copyBelow (source destination : Path) : StateM Job Unit := do
  let disk := (← get).disk
  match disk.stat source with
  | .ok (loc, .folder) => do
      onDisk "cannot create directory" destination (Disk.ensureFolder destination)
      match (← get).disk.stat destination with
      | .ok (target, .folder) =>
          let place (disk : Disk) (entry : Location × Node) : Disk :=
            disk.insert (target ++ entry.1) entry.2
          modify fun job => { job with disk := (disk.below loc).foldl place job.disk }
      | _ => pure ()
  | _ => onDisk "cannot create regular file" destination (Disk.copyFile source destination)

/-- Copy entries. -/
def cp : Utility := fun args => do
  let (letters, paths) := options args
  match paths.getLast?, paths.dropLast with
  | some destination, source :: more =>
      (source :: more).forM fun source => do
        let disk := (← get).disk
        match disk.stat source with
        | .error cause => complainOf "cannot stat" source cause
        | .ok (_, .folder) =>
            if has letters 'r' || has letters 'R' || has letters 'a' then
              copyBelow source (into disk destination source)
            else complain "-r not specified; omitting directory '" source "'"
        | .ok _ => do
            let target := into disk destination source
            if sameFile disk source target then complainOfSame source target
            else copyBelow source target
  | some only, _ => misuse "missing destination file operand after '" only "'"
  | _, _ => misuse "missing file operand" [] ""

/-- Move entries. -/
def mv : Utility := fun args => do
  let paths := (options args).2
  match paths.getLast?, paths.dropLast with
  | some destination, source :: more =>
      (source :: more).forM fun source => do
        match ← tryOnDisk (Disk.entryAt source) with
        | .error cause => complainOf "cannot stat" source cause
        | .ok _ => do
            let target := into (← get).disk destination source
            if sameFile (← get).disk source target then return ← complainOfSame source target
            match ← tryOnDisk (Disk.rename source target) with
            | .ok () => pure ()
            | .error cause =>
                complain "cannot move '" source
                  ("' to '" ++ target.display ++ "': " ++ cause.text)
  | some only, _ => misuse "missing destination file operand after '" only "'"
  | _, _ => misuse "missing file operand" [] ""

/-- Make links. -/
def ln : Utility := fun args => do
  let (letters, paths) := options args
  match paths with
  | [target, path] => do
      let path := into (← get).disk path target
      if has letters 'f' then discard (tryOnDisk (Disk.unlink path))
      if has letters 's' then
        onDisk "failed to create symbolic link" path (Disk.makeLink path target)
      else onDisk "failed to create hard link" path (Disk.copyFile target path)
  | _ => misuse "missing file operand" [] ""

/-- Make files that are missing. -/
def touch : Utility := fun args => do
  let (letters, paths) := options args
  if paths.isEmpty then return ← misuse "missing file operand" [] ""
  paths.forM fun path => do
    if (← get).disk.isFolder path then pure ()
    else if has letters 'c' && !(← get).disk.isThere path then pure ()
    else onDisk "cannot touch" path (discard (Disk.openKept path false))

/-- Whether a mode allows to execute a file, if it was allowed before or not. -/
def allows (mode : Bytes) (before : Bool) : Bool :=
  match Shell.natOf? mode with
  | some _ => mode.any fun digit => digit % 2 = 1
  | none =>
      if mode.contains 0x78 then !mode.contains 0x2D
      else before && !mode.contains 0x3D

/-- Allow or forbid to execute files. -/
def chmod : Utility := fun args => do
  match args with
  | [] => needOperand
  | [mode] => misuse "missing operand after '" mode "'"
  | mode :: paths =>
      paths.forM fun path => do
        let before := (← get).disk.isProgram path
        match ← tryOnDisk (Disk.setExecutable path (allows mode before)) with
        | .ok () => pure ()
        | .error cause => complainOf "cannot access" path cause

/-- Ask for files, texts and numbers. -/
def test : Utility := fun args => do
  match Shell.Conditions.evaluate (← get).disk args with
  | .ok true => endWith 0
  | .ok false => endWith 1
  | .error fault => do
      complain "" fault.text ""
      endWith 2

/-- Ask for files, texts and numbers, up to a bracket. -/
def bracket : Utility := fun args => do
  if args.getLast? = some [0x5D] then test args.dropLast
  else do
    complain "missing ]" [] ""
    endWith 2

end Utility

end Machine

end StagedBuild
