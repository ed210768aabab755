import StagedBuild.Path

/-!
# Disks

A disk holds entries at *locations*.  A location is the list of names from the
root down, without `.`, `..` or links.  The root is a directory that is always
there.  A disk also knows the location of the working directory, from which
relative paths are read.

No two locations share a file: there are no hard links.  A file may be executed or
not, and there are no other permissions, so no operation is refused for who asks.

`get?` is the view of a disk.  `get?_insert` and `get?_erase` say what the two
changes do to it.
-/

namespace StagedBuild

/-- The names from the root down to an entry. -/
abbrev Location := List Bytes

/-- Special files that are no entries for data. -/
inductive Device where
  /-- Holds nothing and takes everything. -/
  | null
  /-- Holds zero bytes without end and takes everything. -/
  | zero
deriving DecidableEq, Repr

/-- What a disk holds at a location. -/
inductive Node where
  /-- A directory. -/
  | folder
  /-- A regular file and whether it may be executed. -/
  | file (data : Bytes) (executable : Bool)
  /-- A symbolic link to a path. -/
  | link (target : Path)
  /-- A special file. -/
  | device (kind : Device)
deriving DecidableEq, Repr

/-- The entries of a file system, seen from a working directory. -/
structure Disk where
  /-- What lies at each location, except the root. -/
  entries : List (Location × Node)
  /-- The working directory. -/
  home : Location
deriving DecidableEq, Repr

namespace Disk

/-- What lies at a location. -/
def get? (disk : Disk) : Location → Option Node
  | [] => some .folder
  | loc => disk.entries.lookup loc

/-- Put an entry at a location, in place of what lies there. -/
def insert (disk : Disk) (loc : Location) (node : Node) : Disk :=
  { disk with entries := (loc, node) :: disk.entries.filter (·.1 != loc) }

/-- Take away the entry at a location. -/
def erase (disk : Disk) (loc : Location) : Disk :=
  { disk with entries := disk.entries.filter (·.1 != loc) }

/-- Take away the entry at a location and all below it. -/
def eraseBelow (disk : Disk) (loc : Location) : Disk :=
  { disk with entries := disk.entries.filter fun (other, _) => !loc.isPrefixOf other }

/-- The entries below a location, by their names from there. -/
def below (disk : Disk) (loc : Location) : List (Location × Node) :=
  disk.entries.filterMap fun (other, node) =>
    if loc.isPrefixOf other && other != loc then some (other.drop loc.length, node) else none

/-- The absolute path of a location. -/
def pathOf (loc : Location) : Path := Bytes.slash :: joinPieces Bytes.slash loc

/-! ## The view -/

theorem lookup_filter_ne (loc other : Location) (entries : List (Location × Node)) :
    (entries.filter (·.1 != loc)).lookup other =
      if other = loc then none else entries.lookup other := by
  induction entries with
  | nil => simp
  | cons e rest ih =>
    obtain ⟨key, node⟩ := e
    by_cases hk : key = loc
    · subst hk
      by_cases ho : other = key
      · simpa [ho] using ih
      · have hb : (other == key) = false := beq_eq_false_iff_ne.mpr ho
        simpa [ho, List.lookup_cons, hb] using ih
    · have hf : (key != loc) = true := bne_iff_ne.mpr hk
      by_cases ho : other = key
      · subst ho; simp [hf, hk]
      · have hb : (other == key) = false := beq_eq_false_iff_ne.mpr ho
        simp [hf, List.lookup_cons, hb, ih]

theorem get?_insert (disk : Disk) {loc : Location} (node : Node) (other : Location)
    (h : loc ≠ []) :
    (disk.insert loc node).get? other = if other = loc then some node else disk.get? other := by
  cases other with
  | nil => simp [get?, Ne.symm h]
  | cons name rest =>
    by_cases h' : name :: rest = loc
    · subst h'; simp [get?, insert]
    · have hb : (name :: rest == loc) = false := beq_eq_false_iff_ne.mpr h'
      simp [get?, insert, List.lookup_cons, hb, lookup_filter_ne, h']

theorem get?_erase (disk : Disk) {loc : Location} (other : Location) (h : loc ≠ []) :
    (disk.erase loc).get? other = if other = loc then none else disk.get? other := by
  cases other with
  | nil => simp [get?, Ne.symm h]
  | cons name rest => simp [get?, erase, lookup_filter_ne]

end Disk

end StagedBuild
