import StagedBuild.Disk.Basic
import StagedBuild.IoError

/-!
# Reading paths on a disk

`find` walks along a path from the root or the working directory.  Links on the
way are followed, at most `linkLimit` of them.  The walk ends at an entry or at a
vacant place in a directory that is there.  A path that ends in a slash has to
end at a directory.

`spot` is for operations on entries and not on what they lead to.  It walks to
the directory that holds the last name of a path and does not look at the name.
A path *asks for a directory* if it ends in a slash or names a link to a path that
does (`asksForFolder`).

Both recursions are structural.  `follow` recurses on the names that are left,
and `walk` on the links that may still be followed.
-/

namespace StagedBuild

namespace Disk

/-- The number of links that one walk may follow. -/
def linkLimit : Nat := 40

/-- The longest name. -/
def nameLimit : Nat := 255

/-- The length at which a path is too long. -/
def pathLimit : Nat := 4096

/-- Where a walk ends. -/
inductive Found where
  /-- At an entry. -/
  | entry (loc : Location) (node : Node)
  /-- At a place without an entry, in a directory. -/
  | vacant (loc : Location)
deriving DecidableEq, Repr

/-- The names of a path, without empty ones. -/
def namesOf (p : Path) : List Bytes := (piecesAt Bytes.slash p).filter (!·.isEmpty)

/-- The names to walk along.  A slash at the end asks for a directory, as a `.`
does. -/
def stepsOf (p : Path) : List Bytes :=
  namesOf p ++ (if p.getLast? = some Bytes.slash then [Path.here] else [])

/-- Where a walk along a path starts. -/
def startOf (disk : Disk) (p : Path) : Location := if p.isAbsolute then [] else disk.home

/-- Walk along names from a directory.  `jump` goes on from a directory along the
names of a link and those behind it.  `through` says whether a link at the end is
followed. -/
def follow (disk : Disk) (through : Bool)
    (jump : Location → List Bytes → Except IoError Found) (loc : Location) :
    List Bytes → Except IoError Found
  | [] => .ok (.entry loc .folder)
  | name :: rest =>
      if name = Path.here then follow disk through jump loc rest
      else if name = Path.up then follow disk through jump loc.dropLast rest
      else if nameLimit < name.length then .error .nameTooLong
      else match disk.get? (loc ++ [name]) with
        | none => if rest.isEmpty then .ok (.vacant (loc ++ [name])) else .error .notFound
        | some .folder => follow disk through jump (loc ++ [name]) rest
        | some (.link target) =>
            if rest.isEmpty && !through then .ok (.entry (loc ++ [name]) (.link target))
            else jump (if target.isAbsolute then [] else loc) (stepsOf target ++ rest)
        | some node => if rest.isEmpty then .ok (.entry (loc ++ [name]) node) else .error .notADirectory

/-- Walk along names from a directory and follow so many links at most. -/
def walk (disk : Disk) (through : Bool) : Nat → Location → List Bytes → Except IoError Found
  | 0 => follow disk through fun _ _ => .error .tooManyLinks
  | links + 1 => follow disk through (walk disk through links)

/-- Refuses paths that no walk starts for. -/
def checkPath (p : Path) : Except IoError Unit :=
  if p.contains 0 then .error .nulInPath
  else if p.isEmpty then .error .notFound
  else if pathLimit ≤ p.length then .error .nameTooLong
  else .ok ()

/-- Where a path leads.  `through` says whether a link at the end is followed. -/
def find (disk : Disk) (p : Path) (through : Bool) : Except IoError Found :=
  match checkPath p with
  | .error e => .error e
  | .ok () => walk disk through linkLimit (disk.startOf p) (stepsOf p)

/-- The entry that a path leads to, links followed. -/
def stat (disk : Disk) (p : Path) : Except IoError (Location × Node) :=
  match disk.find p true with
  | .ok (.entry loc node) => .ok (loc, node)
  | .ok (.vacant _) => .error .notFound
  | .error e => .error e

/-- The absolute path without links of the entry that a path leads to. -/
def realPath? (disk : Disk) (p : Path) : Option Path :=
  match disk.stat p with
  | .ok (loc, _) => some (pathOf loc)
  | .error _ => none

/-- Whether a path leads to an entry. -/
def isThere (disk : Disk) (p : Path) : Bool := (disk.stat p).isOk

/-- Whether a path leads to a directory. -/
def isFolder (disk : Disk) (p : Path) : Bool :=
  match disk.stat p with
  | .ok (_, .folder) => true
  | _ => false

/-- Whether a path leads to a regular file that may be executed. -/
def isProgram (disk : Disk) (p : Path) : Bool :=
  match disk.stat p with
  | .ok (_, .file _ executable) => executable
  | _ => false

/-! ## The last name of a path -/

/-- What the last name of a path stands for. -/
inductive Spot where
  /-- A name in a directory, and whether a slash follows it. -/
  | named (folder : Location) (name : Bytes) (slash : Bool)
  /-- A directory by itself: the path is the root or ends in `.` or `..`. -/
  | itself (folder : Location)
deriving DecidableEq, Repr

/-- The directory that some names lead to. -/
def folderAt (disk : Disk) (start : Location) (names : List Bytes) : Except IoError Location :=
  match walk disk true linkLimit start (names ++ [Path.here]) with
  | .ok (.entry loc _) => .ok loc
  | .ok (.vacant _) => .error .notFound
  | .error e => .error e

/-- The last name of a path and the directory that holds it. -/
def spot (disk : Disk) (p : Path) : Except IoError Spot :=
  match checkPath p with
  | .error e => .error e
  | .ok () =>
      let names := namesOf p
      match names.getLast? with
      | none => .ok (.itself (disk.startOf p))
      | some name =>
          if name = Path.here ∨ name = Path.up then
            (disk.folderAt (disk.startOf p) names).map .itself
          else
            (disk.folderAt (disk.startOf p) names.dropLast).map
              (.named · name (p.getLast? = some Bytes.slash))

/-- Whether a path ends in a slash, or names a link to a path that does.  So many paths
at most are looked at. -/
def asksForFolder : Nat → Disk → Path → Bool
  | 0, _, _ => false
  | paths + 1, disk, p =>
      match disk.spot p with
      | .ok (.named folder name slash) =>
          slash ||
            match disk.get? (folder ++ [name]) with
            | some (.link target) => asksForFolder paths { disk with home := folder } target
            | _ => false
      | _ => false

end Disk

end StagedBuild
