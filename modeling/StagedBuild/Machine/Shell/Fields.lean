import StagedBuild.Disk.Listing
import StagedBuild.Disk.Walk
import StagedBuild.Machine.Shell.Pattern

/-!
# Fields

A word becomes *grains* when its parameters and commands have been replaced: the
bytes, each with how it came there, and marks between them.  The grains are cut
into fields.  A field that holds an open pattern stands for the paths that match
it, if there are any.
-/

namespace StagedBuild.Shell

/-- A piece of a word whose parts have been replaced. -/
inductive Grain where
  /-- A byte.  A quoted byte stands for itself.  Only a byte that came from a
  value may separate fields. -/
  | byte (b : UInt8) (quoted fromValue : Bool)
  /-- There is a field here, even an empty one. -/
  | here
  /-- There is no field here, unless it has bytes. -/
  | gone
  /-- A field ends and another one starts. -/
  | cut
deriving DecidableEq, Repr

/-- The grains of a text. -/
def grainsOf (quoted fromValue : Bool) (text : Bytes) : List Grain :=
  text.map (.byte · quoted fromValue)

/-- The bytes of some grains, with a space where a field ends. -/
def plainOf (grains : List Grain) : Marked :=
  grains.filterMap fun
    | .byte b quoted _ => some (b, quoted)
    | .cut => some (0x20, true)
    | _ => none

namespace Fields

/-- A field that is being read. -/
structure Open where
  /-- Its bytes so far, the latest first. -/
  bytes : Marked := []
  /-- Whether it is there even without bytes. -/
  here : Bool := false
  /-- Whether it is there only with bytes. -/
  gone : Bool := false
  /-- Whether a blank has just ended a field. -/
  afterBlank : Bool := false

/-- A field that has ended, if it is one. -/
def Open.ended (field : Open) : List Marked :=
  if !field.bytes.isEmpty || (field.here && !field.gone) then [field.bytes.reverse] else []

/-- Whether a separator is a blank. -/
def isBlank (b : UInt8) : Bool := b == 0x20 || b == 0x09 || b == 0x0A

/-- Cut grains into fields. -/
def cutFrom (separators : Bytes) (field : Open) : List Grain → List Marked
  | [] => field.ended
  | .here :: rest => cutFrom separators { field with here := true } rest
  | .gone :: rest => cutFrom separators { field with gone := true } rest
  | .cut :: rest => field.ended ++ cutFrom separators {} rest
  | .byte b quoted fromValue :: rest =>
      if fromValue && !quoted && separators.contains b then
        if isBlank b then
          match field.ended with
          | [] => cutFrom separators field rest
          | ended => ended ++ cutFrom separators { afterBlank := true } rest
        else if field.afterBlank then cutFrom separators {} rest
        else field.bytes.reverse :: cutFrom separators {} rest
      else cutFrom separators { field with bytes := (b, quoted) :: field.bytes, afterBlank := false } rest

/-- The fields of some grains. -/
def cut (separators : Bytes) (grains : List Grain) : List Marked :=
  cutFrom separators {} grains

/-! ## Names of files -/

/-- The names in a directory that match a pattern, in order.  A name that starts
with a dot matches only a pattern that does. -/
def namesMatching (disk : Disk) (folder : Path) (pattern : Pattern) : List Bytes :=
  match disk.stat (if folder.isEmpty then Path.here else folder) with
  | .ok (loc, .folder) =>
      let names := (disk.below loc).filterMap fun (names, _) =>
        match names with
        | [name] => some name
        | _ => none
      let dotted := pattern.head? = some (.byte Bytes.dot)
      (names.filter fun name =>
        (dotted || name.head? != some Bytes.dot) && pattern.isMatch name).mergeSort Disk.bytesLe
  | _ => []

/-- The paths that match the pieces of a path between slashes, from some paths
on. -/
def pathsMatching (disk : Disk) : List Path → List Marked → List Path
  | starts, [] => starts
  | starts, piece :: rest =>
      let pattern := Pattern.ofMarked piece
      let slash : Bytes := if rest.isEmpty then [] else [Bytes.slash]
      let step (start : Path) : List Path :=
        if pattern.isOpen then (namesMatching disk start pattern).map (start ++ · ++ slash)
        else [start ++ piece.map (·.1) ++ slash]
      pathsMatching disk (starts.flatMap step) rest

/-- The pieces of a field between its slashes. -/
def piecesOf (field : Marked) : List Marked :=
  field.foldr
    (fun c pieces =>
      if c.1 == Bytes.slash then [] :: pieces
      else match pieces with
        | [] => [[c]]
        | piece :: others => (c :: piece) :: others)
    [[]]

/-- What a field stands for. -/
def resolve (disk : Disk) (field : Marked) : List Bytes :=
  let plain := field.map (·.1)
  if (Pattern.ofMarked field).isOpen then
    match (pathsMatching disk [[]] (piecesOf field)).filter disk.isThere with
    | [] => [plain]
    | paths => paths
  else [plain]

end Fields

end StagedBuild.Shell
