import StagedBuild.Machine.Shell.Syntax

/-!
# What a reader of scripts sees

A script is read as the code points of its bytes, from the first to the last,
and lines are counted.  A `Reader` passes characters or stops at a mistake.

The definitions here look ahead: at blanks and comments, at the words that shape
commands, and at the marks inside words.
-/

namespace StagedBuild.Shell

/-! ## Input -/

/-- The part of a script that is not read yet. -/
structure Input where
  /-- The characters. -/
  rest : List Char
  /-- The line they start at. -/
  line : Nat
deriving Repr, Inhabited

/-- A mistake in a script: the line and what is wrong. -/
structure Mistake where
  /-- The line. -/
  line : Nat
  /-- What is wrong. -/
  text : String
deriving Repr, DecidableEq

/-- Reads a part of a script. -/
abbrev Reader := StateT Input (Except Mistake)

/-- Stop at a mistake. -/
def mistake {α : Type} (text : String) : Reader α := do
  throw ⟨(← get).line, "Syntax error: " ++ text⟩

/-- Pass some characters. -/
def pass (count : Nat) : Reader Unit :=
  modify fun input =>
    ⟨input.rest.drop count, input.line + (input.rest.take count).count '\n'⟩

/-- The characters ahead. -/
def ahead : Reader (List Char) := do return (← get).rest

/-- The length of the blanks, joined lines and comments at the start. -/
def blanksLength : List Char → Nat
  | '\\' :: '\n' :: rest => blanksLength rest + 2
  | ' ' :: rest => blanksLength rest + 1
  | '\t' :: rest => blanksLength rest + 1
  | '#' :: rest => (rest.takeWhile (· ≠ '\n')).length + 1
  | _ => 0

/-- Pass blanks, joined lines and a comment. -/
def passBlanks : Reader Unit := do pass (blanksLength (← ahead))

/-- Pass blanks, comments and line ends. -/
def passLines : Nat → Reader Unit
  | 0 => pure ()
  | fuel + 1 => do
      passBlanks
      match ← ahead with
      | '\n' :: _ => do
          pass 1
          passLines fuel
      | _ => pure ()

/-- Characters that end a word unless they are quoted. -/
def isMeta (c : Char) : Bool := [' ', '\t', '\n', ';', '&', '|', '<', '>', '(', ')'].contains c

/-- Characters that a plain run of text does not hold. -/
def isSpecial (c : Char) : Bool := isMeta c || ['\'', '"', '\\', '$', '\x60'].contains c

/-- Characters that names start with. -/
def isNameStart (c : Char) : Bool := c.isAlpha || c == '_'

/-- Characters of names. -/
def isNameChar (c : Char) : Bool := c.isAlphanum || c == '_'

/-- The word ahead if it is plain text. -/
def plainAhead (chars : List Char) : Option (List Char) :=
  let word := chars.takeWhile (!isSpecial ·)
  match chars.drop word.length with
  | [] => some word
  | c :: _ => if isMeta c then some word else none

/-- Words that end a list of commands. -/
def closers : List String := ["then", "else", "elif", "fi", "do", "done", "esac", "\x7d"]

/-- Words that start a command of their own. -/
def openers : List String := ["if", "while", "until", "for", "case", "\x7b", "!", "in"]

/-- Signs that are no part of words, longer ones first. -/
def signs : List String := [";;", "&&", "||", ";", "&", "|", "(", ")"]

/-- Whether a list of commands ends here. -/
def atEnd (chars : List Char) : Bool :=
  match chars with
  | [] => true
  | ')' :: _ => true
  | ';' :: ';' :: _ => true
  | chars => match plainAhead chars with
    | some word => closers.contains (String.ofList word)
    | none => false

/-- A text in quotation marks. -/
def inMarks (text : String) : String := "\"" ++ text ++ "\""

/-- What a mistake shows of the input. -/
def shown (chars : List Char) : String :=
  match chars with
  | [] => "end of file"
  | '\n' :: _ => "newline"
  | '<' :: _ => "redirection"
  | '>' :: _ => "redirection"
  | chars =>
      match signs.find? (·.toList.isPrefixOf chars) with
      | some sign => inMarks sign
      | none =>
          match (plainAhead chars).map String.ofList with
          | some word => if (closers ++ openers).contains word then inMarks word else "word"
          | none => "word"

/-- Stop at what stands here. -/
def unexpected {α : Type} : Reader α := do mistake (shown (← ahead) ++ " unexpected")

/-- Stop at what stands here in place of something else. -/
def unexpectedFor {α : Type} (expected : String) : Reader α := do
  mistake (shown (← ahead) ++ " unexpected (expecting " ++ inMarks expected ++ ")")

/-- Pass a parenthesis that has to stand here. -/
def passClosing : Reader Unit := do
  match ← ahead with
  | ')' :: _ => pass 1
  | _ => unexpectedFor ")"

/-- Stop at a parameter that makes no sense. -/
def badParameter {α : Type} : Reader α := do
  let input ← get
  if input.rest.isEmpty then mistake "Missing '\x7d'" else throw ⟨input.line, "Bad substitution"⟩

/-- Pass a word that has to stand here. -/
def passKeyword (word : String) : Reader Unit := do
  passBlanks
  if plainAhead (← ahead) = some word.toList then pass word.length else unexpectedFor word

/-- The word here if it is one of some words, which is passed. -/
def keyword? (words : List String) : Reader (Option String) := do
  passBlanks
  match plainAhead (← ahead) with
  | some word =>
      let word := String.ofList word
      if words.contains word then
        pass word.length
        return some word
      else return none
  | none => return none

/-! ## Words -/

/-- What surrounds the text that is read. -/
inductive Quoting where
  /-- Nothing. -/
  | none
  /-- Double quotes. -/
  | double
  /-- A text in the script. -/
  | document
deriving DecidableEq

/-- The characters up to the parentheses that close an expression. -/
def expressionChars (depth : Nat) (done : List Char) : List Char → Option (List Char)
  | [] => none
  | ')' :: rest =>
      match depth with
      | 0 => match rest with
        | ')' :: _ => some done.reverse
        | _ => none
      | depth + 1 => expressionChars depth (')' :: done) rest
  | '(' :: rest => expressionChars (depth + 1) ('(' :: done) rest
  | c :: rest => expressionChars depth (c :: done) rest

/-- The characters up to a closing backquote, and how many were read.  `quoted`
says whether double quotes surround them. -/
def backquoted (quoted : Bool) (done : List Char) (count : Nat) :
    List Char → Option (List Char × Nat)
  | [] => none
  | '\x60' :: _ => some (done.reverse, count)
  | '\\' :: c :: rest =>
      if c = '\x60' || c = '\\' || c = '$' || (quoted && c = '"') then
        backquoted quoted (c :: done) (count + 2) rest
      else backquoted quoted (c :: '\\' :: done) (count + 2) rest
  | c :: rest => backquoted quoted (c :: done) (count + 1) rest

/-- The name of a parameter here, with its length. -/
def parameterName (chars : List Char) : List Char :=
  match chars with
  | c :: _ =>
      if isNameStart c then chars.takeWhile isNameChar
      else if c.isDigit || ['@', '*', '#', '?', '-', '$', '!'].contains c then [c]
      else []
  | [] => []

/-- The rule that a character stands for. -/
def fallbackOf? : Char → Option Fallback
  | '-' => some .use
  | '=' => some .assign
  | '?' => some .fail
  | '+' => some .instead
  | _ => none

/-- The lines of a text in the script, and how many characters they take. -/
def documentLines (delimiter : List Char) (strip : Bool) (done : List Char) (count : Nat) :
    Nat → List Char → List Char × Nat
  | 0, _ => (done.reverse, count)
  | fuel + 1, chars =>
      if chars.isEmpty then (done.reverse, count)
      else
        let raw := chars.takeWhile (· ≠ '\n')
        let line := if strip then raw.dropWhile (· = '\t') else raw
        let more := chars.drop (raw.length + 1)
        if line = delimiter then (done.reverse, count + raw.length + 1)
        else if raw.length = chars.length then ((line.reverse ++ done).reverse, count + raw.length)
        else documentLines delimiter strip ('\n' :: line.reverse ++ done) (count + raw.length + 1)
          fuel more

/-- Cut the text of a redirection out of the lines behind this one. -/
def cutDocument (delimiter : List Char) (strip : Bool) : Reader (List Char) := do
  let input ← get
  let line := input.rest.takeWhile (· ≠ '\n')
  let later := input.rest.drop (line.length + 1)
  let (text, count) := documentLines delimiter strip [] 0 (later.length + 1) later
  set (⟨line ++ '\n' :: later.drop count, input.line⟩ : Input)
  return text

/-- The text of a word, quoted or not. -/
def literalOf (word : Word) : Bytes :=
  word.flatMap fun
    | .text _ bytes => bytes
    | _ => []

/-- Whether a part of a word is quoted. -/
def hasQuotes (word : Word) : Bool :=
  word.any fun
    | .text quoted _ => quoted
    | _ => false

/-- The length of a file descriptor and the redirection sign behind it. -/
def redirectionAhead (chars : List Char) : Option Nat :=
  let digits := chars.takeWhile Char.isDigit
  match chars.drop digits.length with
  | '<' :: _ => some digits.length
  | '>' :: _ => some digits.length
  | _ => none

/-- The number that digits stand for. -/
def numberOf (digits : List Char) : Nat :=
  digits.foldl (fun n c => n * 10 + (c.toNat - '0'.toNat)) 0

/-- The name of an assignment here. -/
def assignmentAhead (chars : List Char) : Option (List Char) :=
  let name := chars.takeWhile isNameChar
  match name, chars.drop name.length with
  | c :: _, '=' :: _ => if isNameStart c then some name else none
  | _, _ => none

/-- The sign of a redirection and how long it is. -/
def signOf : List Char → Direction × Nat × Bool
  | '<' :: '<' :: '-' :: _ => (.document, 3, true)
  | '<' :: '<' :: _ => (.document, 2, false)
  | '<' :: '&' :: _ => (.copy, 2, false)
  | '<' :: '>' :: _ => (.append, 2, false)
  | '<' :: _ => (.input, 1, false)
  | '>' :: '>' :: _ => (.append, 2, false)
  | '>' :: '&' :: _ => (.copy, 2, false)
  | '>' :: '|' :: _ => (.output, 2, false)
  | _ => (.output, 1, false)

/-- Out of fuel. -/
def tooDeep {α : Type} : Reader α := mistake "too deep"

end StagedBuild.Shell
