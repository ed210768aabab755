import StagedBuild.Text.Bytes

/-!
# Shell scripts

Tools may be shell scripts.  This is their syntax: commands, the words in them
and the redirections of their channels.

A word is a list of parts.  A part is quoted or not.  Only what an unquoted part
gives is split into fields and matched against file names.
-/

namespace StagedBuild.Shell

/-- What happens when a parameter has no value. -/
inductive Fallback where
  /-- Use a word. -/
  | use
  /-- Use a word and assign it. -/
  | assign
  /-- Fail with a word as the message. -/
  | fail
  /-- Use nothing, and the word if there is a value. -/
  | instead
deriving DecidableEq, Repr, Inhabited

/-- How a channel is redirected. -/
inductive Direction where
  /-- Read a file. -/
  | input
  /-- Empty a file and write it. -/
  | output
  /-- Write at the end of a file. -/
  | append
  /-- Read a text in the script. -/
  | document
  /-- Take another channel. -/
  | copy
deriving DecidableEq, Repr, Inhabited

mutual

/-- A part of a word. -/
inductive Part where
  /-- Text that stands for itself. -/
  | text (quoted : Bool) (bytes : Bytes)
  /-- The value of a parameter. -/
  | parameter (quoted : Bool) (name : Bytes) (change : Change)
  /-- What a command prints. -/
  | output (quoted : Bool) (command : Command)
  /-- The value of an expression. -/
  | number (quoted : Bool) (expression : List Part)

/-- What is made of the value of a parameter. -/
inductive Change where
  /-- The value. -/
  | value
  /-- Its length. -/
  | length
  /-- Something else if there is no value.  `empty` says whether the empty value
  counts as none. -/
  | orElse (rule : Fallback) (empty : Bool) (word : List Part)
  /-- The value without a part that matches a pattern. -/
  | trim (atEnd longest : Bool) (pattern : List Part)

/-- A redirection of a channel. -/
inductive Redirection where
  /-- Channel `number` goes where the target says. -/
  | mk (number : Nat) (direction : Direction) (target : List Part)

/-- A command. -/
inductive Command where
  /-- Nothing. -/
  | skip
  /-- Assignments and words at a line of the script. -/
  | simple (line : Nat) (assignments : List (Bytes × List Part)) (words : List (List Part))
      (redirections : List Redirection)
  /-- A command with redirections. -/
  | redirected (body : Command) (redirections : List Redirection)
  /-- One after the other. -/
  | sequence (first second : Command)
  /-- The second if the first succeeds. -/
  | both (first second : Command)
  /-- The second if the first fails. -/
  | either (first second : Command)
  /-- The opposite outcome. -/
  | negated (body : Command)
  /-- What the first prints is read by the second. -/
  | pipe (first second : Command)
  /-- A command that keeps its changes of the shell to itself. -/
  | subshell (body : Command)
  /-- One of two commands. -/
  | choice (test yes no : Command)
  /-- A command again and again, as long as a test succeeds, or fails. -/
  | loop (untilTrue : Bool) (test body : Command)
  /-- A command for each word, or for each argument. -/
  | forEach (name : Bytes) (words : Option (List (List Part))) (body : Command)
  /-- The first branch with a pattern that matches. -/
  | select (subject : List Part) (branches : List (List (List Part) × Command))
  /-- Gives a command a name. -/
  | define (name : Bytes) (body : Command)

end

/-- A word. -/
abbrev Word := List Part

instance : Inhabited Command := ⟨.skip⟩

end StagedBuild.Shell
