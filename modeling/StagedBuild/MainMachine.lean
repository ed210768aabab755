import StagedBuild.Text.Blank
import StagedBuild.Text.Regex

/-!
# The main machine of a program

A program declares the machine that runs first by `main`, any number of further
words, `machine` and a name, with blanks between them.  `MainMachine.find?` gives
the name of the first such declaration.

The text is first taken apart into runs of word characters, runs of blanks and
single other characters.  No character is both a blank and a word character, so
every run is maximal and the words of a declaration are whole runs.  A
declaration starts at a run `main` followed by blanks.  Its name is the run after
the first `machine` that has blanks and a run behind it.  Only blanks may stand
between the runs of a declaration.  A `main` that starts no declaration is passed
over.

`pattern` is the same declaration as a pattern.  What its first match captures is the
name that is found.
-/

namespace StagedBuild.MainMachine

/-! ## Runs -/

/-- A piece of program text. -/
inductive Run where
  /-- Word characters, as many as stand together. -/
  | word (chars : List Char)
  /-- Blanks, as many as stand together. -/
  | blank (chars : List Char)
  /-- One character that is neither. -/
  | other (char : Char)
deriving DecidableEq, Repr

/-- The text of a run. -/
def Run.chars : Run → List Char
  | .word chars => chars
  | .blank chars => chars
  | .other char => [char]

/-- One more character in front of some runs. -/
def addChar (c : Char) (runs : List Run) : List Run :=
  if isWord c then
    match runs with
    | .word chars :: others => .word (c :: chars) :: others
    | runs => .word [c] :: runs
  else if isBlank c then
    match runs with
    | .blank chars :: others => .blank (c :: chars) :: others
    | runs => .blank [c] :: runs
  else .other c :: runs

/-- The runs of a text. -/
def runs (text : List Char) : List Run := text.foldr addChar []

theorem flatMap_chars_addChar (c : Char) (rs : List Run) :
    (addChar c rs).flatMap Run.chars = c :: rs.flatMap Run.chars := by
  unfold addChar
  split
  · split <;> simp [Run.chars]
  · split
    · split <;> simp [Run.chars]
    · simp [Run.chars]

/-- Nothing is lost: the runs one after the other are the text. -/
theorem flatMap_chars_runs (text : List Char) : (runs text).flatMap Run.chars = text := by
  induction text with
  | nil => rfl
  | cons c rest ih =>
    simp only [runs, List.foldr_cons] at ih ⊢
    rw [flatMap_chars_addChar, ih]

/-! ## Declarations -/

/-- The word that starts a declaration. -/
def mainWord : List Char := "main".toList

/-- The word before the name. -/
def machineWord : List Char := "machine".toList

/-- The name that a word and the runs behind its blanks declare. -/
def declared? (w : List Char) : List Run → Option (List Char)
  | .word name :: _ => if w = machineWord then some name else none
  | _ => none

/-- The name in the runs behind `main` and its blanks: the first that follows a
`machine`. -/
def nameIn? : List Run → Option (List Char)
  | .word w :: .blank _ :: rest =>
      match declared? w rest with
      | some name => some name
      | none => nameIn? rest
  | _ => none

/-- The name of the declaration that starts at a run, if one does. -/
def startsAt? : Run → List Run → Option (List Char)
  | .word w, .blank _ :: rest => if w = mainWord then nameIn? rest else none
  | _, _ => none

/-- The name of the first declaration in some runs. -/
def findIn? : List Run → Option (List Char)
  | [] => none
  | run :: rest =>
      match startsAt? run rest with
      | some name => some name
      | none => findIn? rest

/-- The name of the main machine of a program. -/
def find? (program : String) : Option String :=
  (findIn? (runs program.toList)).map String.ofList

/-! ## The pattern -/

/-- Blanks: `\s+`. -/
def gapPattern : Regex := .oneOrMore (.char isBlank)

/-- A word: `\w+`. -/
def wordPattern : Regex := .oneOrMore (.char isWord)

/-- The keyword and the name, which is captured: `machine\s+(\w+)`. -/
def namePattern : Regex := .seq (.text machineWord) (.seq gapPattern (.group wordPattern))

/-- What stands behind `main` and its blanks, with as few words before the keyword as
there can be: `(?:\w+\s+)*?machine\s+(\w+)`. -/
def bodyPattern : Regex := .seq (.rounds false (.seq wordPattern gapPattern)) namePattern

/-- A declaration: `\bmain\s+(?:\w+\s+)*?machine\s+(\w+)`. -/
def pattern : Regex := .seq .wordEdge (.seq (.text mainWord) (.seq gapPattern bodyPattern))

/-! ## Tests -/

example : find? "event Ping;\nmain model machine Foo {}" = some "Foo" := by decide
/-- The first `machine` that can be the keyword is. -/
example : find? "main machine machine X" = some "machine" := by decide
/-- A `main` that starts no declaration is passed over. -/
example : find? "main a ; main c machine D" = some "D" := by decide
example : find? "xmain machine A" = none := by decide

end StagedBuild.MainMachine
