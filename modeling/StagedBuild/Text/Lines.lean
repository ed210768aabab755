import StagedBuild.Text.Bytes

/-!
# Lines of text

Tools end their lines with a line feed, a carriage return or both.  `normalize`
gives the lines whatever ends them.  It works in two passes: `unify` turns every
line end into one line feed, and `cut` takes the text apart at the line feeds.
A text that does not end in a line end has an open last line, and the empty
piece after a last line end is no line.

`Sink` is a place for bytes that may fill up.  `writeLines` puts lines into a
sink, each followed by a line feed, and stops at the first write that fails.
-/

namespace StagedBuild.Lines

/-! ## Reading lines -/

/-- Every line end as one line feed.  `done` is the text before, newest first. -/
def unifyFrom (done : List Char) : List Char → List Char
  | [] => done.reverse
  | '\r' :: '\n' :: rest => unifyFrom ('\n' :: done) rest
  | c :: rest => unifyFrom ((if c = '\r' then '\n' else c) :: done) rest

/-- The text with every line end as one line feed. -/
def unify (text : List Char) : List Char := unifyFrom [] text

/-- The pieces of a text between line feeds, without an empty last one. -/
def cut (text : List Char) : List (List Char) :=
  let pieces := piecesAt '\n' text
  if pieces.getLast? = some [] then pieces.dropLast else pieces

/-- The lines of a text, without what ends them. -/
def normalize (text : String) : List String :=
  (cut (unify text.toList)).map String.ofList

/-! ## Writing lines -/

/-- A place for bytes.  `room` is the number of bytes that still fit, and none
if there is no limit. -/
structure Sink where
  /-- What was written. -/
  written : Bytes
  /-- The room left. -/
  room : Option Nat
deriving Repr, DecidableEq

/-- The empty sink without a limit. -/
def Sink.unbounded : Sink := ⟨[], none⟩

/-- The empty sink for so many bytes. -/
def Sink.ofCapacity (capacity : Nat) : Sink := ⟨[], some capacity⟩

/-- Write bytes.  What fits is written.  The write succeeds if all of it fits. -/
def Sink.write (sink : Sink) (bytes : Bytes) : Bool × Sink :=
  match sink.room with
  | none => (true, { sink with written := sink.written ++ bytes })
  | some room =>
      (bytes.length ≤ room,
        ⟨sink.written ++ bytes.take room, some (room - bytes.length)⟩)

/-- Write each line and a line feed, up to the first write that fails. -/
def writeLines (sink : Sink) : List String → Bool × Sink
  | [] => (true, sink)
  | line :: others =>
      match sink.write (Bytes.ofString line) with
      | (false, sink) => (false, sink)
      | (true, sink) =>
          match sink.write [Bytes.lineFeed] with
          | (false, sink) => (false, sink)
          | (true, sink) => writeLines sink others

/-! ## Tests -/

example : normalize "a\r\nb\r\rc" = ["a", "b", "", "c"] := by decide
example : normalize "\r\r\n" = ["", ""] := by decide
example : normalize "" = [] := by decide

end StagedBuild.Lines
