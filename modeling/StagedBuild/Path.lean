import StagedBuild.Text.Utf8

/-!
# Paths

A path is its bytes, kept as they were given.  Slashes separate its components.
A component is *skipped* if it is empty or `.`, so `a//b`, `a/./b` and `a/b/` are
read alike, but nothing is changed.  The first component of a relative path is
the exception: a leading `.` counts.

`head` and `body` take a path apart into what stands before its components (a
slash, a leading `.` or nothing) and the pieces between the slashes of the rest.
`parent?` and `fileName?` are read off the pieces from the end.
-/

namespace StagedBuild

/-- A path is its bytes. -/
abbrev Path := Bytes

namespace Path

/-- A path as text, with replacement characters for what is not valid. -/
def display (p : Path) : String := Utf8.decode p

/-- A path that starts with a slash. -/
def isAbsolute (p : Path) : Bool := p.head? == some Bytes.slash

/-- Two paths one after the other.  An absolute second path replaces the first.
Else one slash is put between them, unless the first ends in one or is empty. -/
def join (base rest : Path) : Path :=
  if rest.isAbsolute then rest
  else if base.isEmpty || base.getLast? == some Bytes.slash then base ++ rest
  else base ++ Bytes.slash :: rest

/-! ## Components -/

/-- The component that names the directory itself. -/
def here : Bytes := [Bytes.dot]

/-- The component that names the directory above. -/
def up : Bytes := [Bytes.dot, Bytes.dot]

/-- Components that name nothing of their own. -/
def isSkipped (piece : Bytes) : Bool := piece.isEmpty || piece == here

/-- What stands before the components: a slash, a leading `.` or nothing. -/
def head (p : Path) : Bytes :=
  match p with
  | 0x2F :: _ => [Bytes.slash]
  | [0x2E] => here
  | 0x2E :: 0x2F :: _ => here
  | _ => []

/-- The path behind its head, between its slashes. -/
def body (p : Path) : List Bytes := piecesAt Bytes.slash (p.drop p.head.length)

/-- The pieces from the end, without the skipped ones there. -/
def fromEnd (p : Path) : List Bytes := p.body.reverse.dropWhile isSkipped

/-- The last component, if it is a name. -/
def fileName? (p : Path) : Option Bytes :=
  match p.fromEnd with
  | name :: _ => if name = up then none else some name
  | [] => none

/-- The path without its last component. -/
def parent? (p : Path) : Option Path :=
  match p.fromEnd with
  | _ :: before => some (p.head ++ joinPieces Bytes.slash (before.dropWhile isSkipped).reverse)
  | [] => if p.head = here then some [] else none

/-- The paths above a relative or absolute path, itself first, at most so many,
without the empty path. -/
def ancestorsFor : Nat → Path → List Path
  | 0, _ => []
  | n + 1, p =>
      if p.isEmpty then []
      else match p.parent? with
        | some above => p :: ancestorsFor n above
        | none => [p]

/-- The paths above a path, itself first, without the empty path. -/
def ancestors (p : Path) : List Path := ancestorsFor (p.length + 1) p

/-! ## Stems -/

/-- A name cut before its last dot.  A name whose only dot is its first byte, and
one without a dot, is its own stem. -/
def stemOf (name : Bytes) : Bytes :=
  match joinPieces Bytes.dot (piecesAt Bytes.dot name).dropLast with
  | [] => name
  | before => before

/-- The stem of the last component, if that is a name. -/
def fileStem? (p : Path) : Option Bytes := p.fileName?.map stemOf

/-! ## Tests -/

section Tests

local instance : Coe String Path := ⟨Bytes.ofString⟩

/-- The stem of the last component of a path given as text. -/
def stemText (p : String) : Option String := (fileStem? p).map display

example : stemText "src/Foo.bar.p/./" = some "Foo.bar" := by decide
example : ["..", "a/..", "/", ".", "", "./."].map stemText = List.replicate 6 none := by decide
example : [".p", "..p", "...", "a."].map stemText = [some ".p", some ".", some "..", some "a"] := by
  decide
example : ancestors "/a//b/./c/" = ["/a//b/./c/", "/a//b", "/a", "/"].map Bytes.ofString := by decide
example : ancestors "./x" = ["./x", "."].map Bytes.ofString := by decide

end Tests

end Path

end StagedBuild
