import StagedBuild.Text.WordChar

/-!
# Patterns of text

A pattern is matched leftmost-first.  From one spot of a text its ways to match are
listed in order of preference (`Regex.ways`): those of the earlier part of a sequence
come before those of the later one, and a repetition prefers more rounds if it is
greedy and fewer if it is not.  The match is the most preferred way from the first
spot that has any (`Regex.search?`).

A round of a repetition takes at least one character, so the rounds from a spot are
no more than the characters ahead.
-/

namespace StagedBuild

/-- A pattern. -/
inductive Regex where
  /-- A spot with a word character on one side only. -/
  | wordEdge
  /-- A character of some kind. -/
  | char (fits : Char → Bool)
  /-- A text. -/
  | text (chars : List Char)
  /-- One pattern and behind it another. -/
  | seq (first second : Regex)
  /-- Any number of rounds of a pattern.  A greedy repetition prefers more of them. -/
  | rounds (greedy : Bool) (part : Regex)
  /-- A pattern whose text is captured. -/
  | group (part : Regex)

namespace Regex

/-- One round or more, rather more. -/
def oneOrMore (part : Regex) : Regex := .seq part (.rounds true part)

/-- A spot of a text. -/
structure Spot where
  /-- The character before it, if it is not the first. -/
  last? : Option Char
  /-- The text behind it. -/
  ahead : List Char
  /-- What was captured before it. -/
  captured? : Option (List Char)
deriving DecidableEq, Repr

/-- The spot behind some characters that stand ahead. -/
def Spot.past (s : Spot) (chars : List Char) : Spot where
  last? := chars.getLast?.or s.last?
  ahead := s.ahead.drop chars.length
  captured? := s.captured?

/-- Whether a word character stands on one side only. -/
def Spot.atEdge (s : Spot) : Bool := s.last?.any isWord != s.ahead.head?.any isWord

/-- The spot with the text captured that was ahead of an earlier one. -/
def Spot.capture (s : Spot) (since : Spot) : Spot :=
  { s with captured? := some (since.ahead.take (since.ahead.length - s.ahead.length)) }

/-- Further rounds and an end without them, the preferred ones first. -/
def arrange (greedy : Bool) (more : List Spot) (stop : Spot) : List Spot :=
  if greedy then more ++ [stop] else stop :: more

/-- Where any number of rounds of a step can end, in order of preference. -/
def ends (greedy : Bool) (step : Spot → List Spot) (s : Spot) : List Spot :=
  arrange greedy
    (((step s).filter (·.ahead.length < s.ahead.length)).attach.flatMap
      fun t => ends greedy step t.1) s
termination_by s.ahead.length
decreasing_by simpa using (List.mem_filter.mp t.2).2

/-- Where a match that starts at a spot can end, in order of preference. -/
def ways : Regex → Spot → List Spot
  | .wordEdge, s => if s.atEdge then [s] else []
  | .char fits, s => (s.ahead.head?.filter fits).toList.map fun c => s.past [c]
  | .text chars, s => if chars.isPrefixOf s.ahead then [s.past chars] else []
  | .seq first second, s => (first.ways s).flatMap second.ways
  | .rounds greedy part, s => ends greedy part.ways s
  | .group part, s => (part.ways s).map (·.capture s)

/-- The end of the first match in a text, given the character before it. -/
def search? (pattern : Regex) (last? : Option Char) : List Char → Option Spot
  | [] => (pattern.ways ⟨last?, [], none⟩).head?
  | c :: rest =>
      (pattern.ways ⟨last?, c :: rest, none⟩).head?.or (pattern.search? (some c) rest)

/-- What the first match in a text captures. -/
def capture? (pattern : Regex) (text : List Char) : Option (List Char) :=
  (pattern.search? none text).bind Spot.captured?

end Regex

end StagedBuild
