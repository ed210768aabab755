import StagedBuild.Disk.Effect
import StagedBuild.Machine.Launch
import StagedBuild.Proofs.LineScan
import StagedBuild.Proofs.TextInPlace

/-!
# The lines of two streams

The bytes that end lines are those of ASCII.  They are kept in their place by decoding
and no other bytes make any, so bytes may be taken apart into lines first and each line
decoded on its own (`scan_decodeChars`).

What a tool printed and its complaints are read one behind the other.  `scan_append`,
`scan_append_split` and `scan_append_open` say what one pass makes of two texts, by what
is at the seam.  `ReadsOn` says it of the lines of the two streams, and
`lines_of_streams` of what a tool is captured with.
-/

namespace StagedBuild

namespace Lines

/-! ## Two texts -/

theorem head?_append_cons {α : Type} (front : List α) (c : α) (rest rest' : List α) :
    (front ++ c :: rest).head? = (front ++ c :: rest').head? := by
  cases front <;> rfl

section Seam

variable {α : Type} [DecidableEq α] (ends : Ends α) {front behind : List α}

/-- A text ends with a line end, and what follows does not go on with it. -/
def Ends.Closed (front behind : List α) : Prop :=
  front.getLast? = some ends.feed ∨
    (front.getLast? = some ends.ret ∧ behind.head? ≠ some ends.feed)

instance (front behind : List α) : Decidable (ends.Closed front behind) :=
  inferInstanceAs (Decidable (_ ∨ _))

/-- A text ends with a symbol that ends no line. -/
def Ends.Open (front : List α) : Prop :=
  ∃ c, front.getLast? = some c ∧ c ≠ ends.ret ∧ c ≠ ends.feed

variable {ends}

/-- The pass comes to a symbol with some lines and an open one, whatever stands behind the
symbol. -/
theorem scanFrom_upTo (ends : Ends α) (c : α) (front line : List α) :
    ∃ lines last, ∀ behind, scanFrom ends line (front ++ c :: behind) =
      lines ++ scanFrom ends last (c :: behind) := by
  induction front generalizing line with
  | nil => exact ⟨[], line, fun _ => rfl⟩
  | cons d front ih =>
    -- The pass looks one symbol ahead, so as far as `c` and not behind it.
    have step : ∀ behind, scanFrom ends line (d :: front ++ c :: behind) =
        if d = ends.ret ∧ (front ++ [c]).head? = some ends.feed then
          scanFrom ends line (front ++ c :: behind)
        else if d = ends.ret ∨ d = ends.feed then line :: scanFrom ends [] (front ++ c :: behind)
        else scanFrom ends (line ++ [d]) (front ++ c :: behind) := by
      intro behind
      rw [List.cons_append, scanFrom, head?_append_cons front c behind []]
    by_cases split : d = ends.ret ∧ (front ++ [c]).head? = some ends.feed
    · obtain ⟨lines, last, goes⟩ := ih line
      exact ⟨lines, last, fun behind => by rw [step, if_pos split, goes]⟩
    by_cases ending : d = ends.ret ∨ d = ends.feed
    · obtain ⟨lines, last, goes⟩ := ih []
      exact ⟨line :: lines, last, fun behind => by
        rw [step, if_neg split, if_pos ending, goes, List.cons_append]⟩
    · obtain ⟨lines, last, goes⟩ := ih (line ++ [d])
      exact ⟨lines, last, fun behind => by rw [step, if_neg split, if_neg ending, goes]⟩

theorem scanFrom_single {c : α} (ending : c = ends.ret ∨ c = ends.feed) (line : List α) :
    scanFrom ends line [c] = [line] := by
  have alone : ([] : List α).head? ≠ some ends.feed := nofun
  rcases ending with rfl | rfl
  · exact scanFrom_ret ends alone line
  · exact scanFrom_feed ends line []

/-- Where the last symbol of a text ends a line with what stands behind it, the lines
behind come after those of the text. -/
theorem scan_append_end {c : α} {rest : List α} (ending : c = ends.ret ∨ c = ends.feed)
    (here : ∀ line, scanFrom ends line (c :: behind) = line :: scan ends rest) (front : List α) :
    scan ends (front ++ [c] ++ behind) = scan ends (front ++ [c]) ++ scan ends rest := by
  obtain ⟨lines, last, goes⟩ := scanFrom_upTo ends c front []
  rw [scan, scan, List.append_assoc, List.singleton_append, goes behind, goes [], here,
    scanFrom_single ending, List.append_assoc, List.singleton_append]

/-- Behind a closed text the lines are those of what follows. -/
theorem scan_append (closed : ends.Closed front behind) :
    scan ends (front ++ behind) = scan ends front ++ scan ends behind := by
  rcases closed with feed | ⟨ret, alone⟩
  · obtain ⟨before, rfl⟩ := List.getLast?_eq_some_iff.mp feed
    exact scan_append_end (.inr rfl) (fun line => scanFrom_feed ends line behind) before
  · obtain ⟨before, rfl⟩ := List.getLast?_eq_some_iff.mp ret
    exact scan_append_end (.inl rfl) (scanFrom_ret ends alone) before

/-- A line end of both symbols that is split ends one line, and not an empty one more. -/
theorem scan_append_split (ret : front.getLast? = some ends.ret)
    (feed : behind.head? = some ends.feed) :
    ∃ lines, scan ends behind = [] :: lines ∧
      scan ends (front ++ behind) = scan ends front ++ lines := by
  obtain ⟨before, rfl⟩ := List.getLast?_eq_some_iff.mp ret
  obtain ⟨rest, rfl⟩ := List.head?_eq_some_iff.mp feed
  exact ⟨scan ends rest, scanFrom_feed ends [] rest,
    scan_append_end (.inl rfl) (fun line => scanFrom_both ends line rest) before⟩

/-- An open line is in front of the first line of what follows. -/
theorem scanFrom_open (ends : Ends α) (ne : behind ≠ []) :
    ∃ first lines, ∀ line, scanFrom ends line behind = (line ++ first) :: lines := by
  induction behind with
  | nil => exact absurd rfl ne
  | cons c rest ih =>
    by_cases split : c = ends.ret ∧ rest.head? = some ends.feed
    · obtain ⟨rfl, split⟩ := split
      obtain ⟨behind, rfl⟩ := List.head?_eq_some_iff.mp split
      refine ⟨[], scan ends behind, fun line => ?_⟩
      rw [scanFrom_both, List.append_nil]
    by_cases ending : c = ends.ret ∨ c = ends.feed
    · refine ⟨[], scan ends rest, fun line => ?_⟩
      rw [scanFrom, if_neg split, if_pos ending, List.append_nil, scan]
    rw [not_or] at ending
    cases rest with
    | nil =>
      refine ⟨[c], [], fun line => ?_⟩
      rw [scanFrom_other ends ending.1 ending.2, scanFrom]
      exact if_neg (List.append_ne_nil_of_right_ne_nil line (List.cons_ne_nil c []))
    | cons d rest =>
      obtain ⟨first, lines, goes⟩ := ih (List.cons_ne_nil d rest)
      refine ⟨c :: first, lines, fun line => ?_⟩
      rw [scanFrom_other ends ending.1 ending.2, goes, List.append_assoc, List.singleton_append]

/-- The last line of an open text and the first of what follows are one. -/
theorem scan_append_open (isOpen : ends.Open front) (ne : behind ≠ []) :
    ∃ lines last first others, scan ends front = lines ++ [last] ∧
      scan ends behind = first :: others ∧
      scan ends (front ++ behind) = lines ++ (last ++ first) :: others := by
  obtain ⟨c, ended, not_ret, not_feed⟩ := isOpen
  obtain ⟨before, rfl⟩ := List.getLast?_eq_some_iff.mp ended
  obtain ⟨lines, last, goes⟩ := scanFrom_upTo ends c before []
  obtain ⟨first, others, begins⟩ := scanFrom_open ends ne
  have last_ne : last ++ [c] ≠ [] := List.append_ne_nil_of_right_ne_nil last (List.cons_ne_nil c [])
  refine ⟨lines, last ++ [c], first, others, ?_, begins [], ?_⟩
  · rw [scan, goes [], scanFrom_other ends not_ret not_feed, scanFrom, if_neg last_ne]
  · rw [scan, List.append_assoc, List.singleton_append, goes behind,
      scanFrom_other ends not_ret not_feed, begins (last ++ [c])]

end Seam

/-! ## Bytes and characters -/

section Bytes

open Utf8 (decodeChars)

variable {raw rest : Bytes}

theorem clean_decodeChars (clean : byteEnds.Clean raw) : charEnds.Clean (decodeChars raw) := by
  have same : (Utf8.decode raw).toList = decodeChars raw := String.toList_ofList
  refine ⟨fun mem => clean.ret_notMem ?_, fun mem => clean.feed_notMem ?_⟩
  · exact (Utf8.mem_decode_iff (c := '\r') (by decide) raw).mp (same.symm ▸ mem)
  · exact (Utf8.mem_decode_iff (c := '\n') (by decide) raw).mp (same.symm ▸ mem)

/-- A line end is kept in its place. -/
theorem decodeChars_end (e : LineEnd) (front rest : Bytes) :
    decodeChars (front ++ (e.symbols byteEnds ++ rest)) =
      decodeChars front ++ (e.symbols charEnds ++ decodeChars rest) := by
  have bytes : e.symbols byteEnds = Bytes.ofChars (e.symbols charEnds) := by
    cases e <;> decide
  have ne : e.symbols charEnds ≠ [] := by
    cases e <;> exact List.cons_ne_nil _ _
  rw [bytes, Utf8.decodeChars_in_place ne]

theorem whole_decodeChars {e : LineEnd} (whole : e.Whole byteEnds rest) :
    e.Whole charEnds (decodeChars rest) := by
  intro ret split
  obtain ⟨others, same⟩ := List.head?_eq_some_iff.mp split
  have front : ['\n'] <+: Utf8.decodeFrom .start rest := by
    rw [← Utf8.decodeChars_eq, same]
    exact ⟨others, rfl⟩
  obtain ⟨behind, rfl⟩ := (Utf8.prefix_decodeFrom_iff (ascii_of_all (by decide))).mp front
  exact whole ret rfl

/-- Bytes may be taken apart into lines first and then decoded.  The induction is on the
length of what is left behind the first line end. -/
theorem scan_decodeChars (raw : Bytes) :
    scan charEnds (decodeChars raw) = (scan byteEnds raw).map decodeChars := by
  induction length : raw.length using Nat.strongRecOn generalizing raw with
  | ind n ih =>
    rcases first_line byteEnds raw with clean | ⟨line, e, rest, rfl, clean, whole⟩
    · rw [scan_last clean, scan_last (clean_decodeChars clean)]
      by_cases empty : raw = []
      · rw [if_pos (Utf8.decodeChars_eq_nil.mpr empty), if_pos empty, List.map_nil]
      · rw [if_neg (mt Utf8.decodeChars_eq_nil.mp empty), if_neg empty, List.map_singleton]
    · have shorter : rest.length < n := by
        rw [← length]
        cases e <;> simp [LineEnd.symbols] <;> omega
      rw [decodeChars_end, scan_line (clean_decodeChars clean) (whole_decodeChars whole),
        scan_line clean whole, List.map_cons, ih rest.length shorter rest rfl]

theorem lines_ofBytes (succeeded : Bool) (raw : Bytes) :
    (ToolOutput.ofBytes succeeded raw).lines = (scan byteEnds raw).map Utf8.decode := by
  have chars : (Utf8.decode raw).toList = decodeChars raw := String.toList_ofList
  have text : String.ofList ∘ decodeChars = Utf8.decode := rfl
  rw [ToolOutput.ofBytes, normalize_eq_scan, chars, scan_decodeChars, List.map_map, text]

end Bytes

/-! ## The streams of a tool -/

/-- The lines of a stream. -/
def ofStream (raw : Bytes) : List String := normalize (Utf8.decode raw)

/-- Lines that two streams are read as, the complaints behind what was printed. -/
structure ReadsOn (printed complaints : Bytes) (lines : List String) : Prop where
  /-- Where a line ends between the streams, the lines of one are behind those of the
  other. -/
  apart : printed = [] ∨ complaints = [] ∨ byteEnds.Closed printed complaints →
    lines = ofStream printed ++ ofStream complaints
  /-- Otherwise an open line goes on with the first line of the complaints, and the bytes
  of both are decoded together. -/
  joined : byteEnds.Open printed → complaints ≠ [] → ∃ front last first behind,
    scan byteEnds printed = front ++ [last] ∧ scan byteEnds complaints = first :: behind ∧
      ofStream printed = (front ++ [last]).map Utf8.decode ∧
      ofStream complaints = (first :: behind).map Utf8.decode ∧
      lines = front.map Utf8.decode ++ Utf8.decode (last ++ first) :: behind.map Utf8.decode
  /-- A line end that is split between the streams is one, so the complaints do not begin
  with an empty line. -/
  split : printed.getLast? = some byteEnds.ret → complaints.head? = some byteEnds.feed →
    ∃ behind, ofStream complaints = "" :: behind ∧ lines = ofStream printed ++ behind

theorem readsOn_ofBytes (succeeded : Bool) (printed complaints : Bytes) :
    ReadsOn printed complaints (ToolOutput.ofBytes succeeded (printed ++ complaints)).lines := by
  have stream : ∀ raw, ofStream raw = (scan byteEnds raw).map Utf8.decode :=
    lines_ofBytes succeeded
  rw [lines_ofBytes]
  refine ⟨?_, ?_, ?_⟩
  · rw [stream, stream, ← List.map_append]
    rintro (rfl | rfl | closed)
    · rfl
    · rw [List.append_nil]
      exact congrArg _ (List.append_nil _).symm
    · rw [scan_append closed]
  · intro isOpen ne
    obtain ⟨front, last, first, behind, ends, begins, whole⟩ := scan_append_open isOpen ne
    refine ⟨front, last, first, behind, ends, begins, ?_, ?_, ?_⟩
    · rw [stream, ends]
    · rw [stream, begins]
    · rw [whole, List.map_append, List.map_cons]
  · intro ret feed
    obtain ⟨behind, begins, whole⟩ := scan_append_split ret feed
    refine ⟨behind.map Utf8.decode, ?_, ?_⟩
    · rw [stream, begins]
      rfl
    · rw [whole, List.map_append, stream]

end Lines

/-- The lines of captured bytes are those of the bytes, each decoded on its own.  So the
lines of what a tool printed and of its complaints only touch where the one ends and the
other begins, and that holds of each tool that is started, whatever it does. -/
theorem lines_of_streams :
    (∀ succeeded raw, (ToolOutput.ofBytes succeeded raw).lines =
      (Lines.scan Lines.byteEnds raw).map Utf8.decode) ∧
    (∀ succeeded printed complaints, Lines.ReadsOn printed complaints
      (ToolOutput.ofBytes succeeded (printed ++ complaints)).lines) ∧
    ∀ (execution : Machine.Execution) env call disk loaded there,
      Machine.start env disk call = .ok (loaded, there) →
      let finished := execution env there loaded
      Lines.ReadsOn finished.printed finished.complaints
        (Machine.answerBy execution env call disk).1.lines := by
  refine ⟨Lines.lines_ofBytes, Lines.readsOn_ofBytes, ?_⟩
  intro execution env call disk loaded there started finished
  rw [Machine.answerBy_started execution started]
  exact Lines.readsOn_ofBytes finished.succeeded finished.printed finished.complaints

/-! ## A complaint behind an open line -/

namespace CutOff

/-- A file with two kinds of line ends that is cut off within a character. -/
def data : Bytes := Bytes.ofString "a\r\n\rb" ++ [0xE2, 0x82]

/-- A tool that prints the file and complains about one that is not there. -/
def call : Invocation :=
  ⟨Bytes.ofString "t/cat", [Bytes.ofString "f", Bytes.ofString "gone"], none⟩

def disk : Disk :=
  Effect.applyAll ⟨[], []⟩
    [.write (Bytes.ofString "t/cat") (Machine.imageOf "cat") true,
      .write (Bytes.ofString "f") data false]

def loaded : Machine.Loaded := ⟨Bytes.ofString "cat", call.program :: call.args⟩

def complaints : Bytes := Bytes.ofString "t/cat: gone: No such file or directory\n"

theorem started : Machine.start [] disk call = .ok (loaded, disk) := by decide +kernel

theorem captured :
    (Machine.runToEnd [] disk loaded).printed = data ∧
      (Machine.runToEnd [] disk loaded).complaints = complaints := by
  decide +kernel

/-- The complaint goes on with the open line, and what is cut off stays one replacement.
Where a line end is split or a line has ended, the streams do not touch. -/
theorem complaint_joined :
    (Machine.answer [] call disk).1.lines =
        ["a", "", "b\uFFFDt/cat: gone: No such file or directory"] ∧
      (ToolOutput.ofBytes true (Bytes.ofString "a\r" ++ Bytes.ofString "\nb")).lines =
        ["a", "b"] ∧
      (ToolOutput.ofBytes true (Bytes.ofString "a\n" ++ Bytes.ofString "\nb")).lines =
        ["a", "", "b"] := by
  obtain ⟨_, both, streams⟩ := lines_of_streams
  have read : Lines.ReadsOn (Machine.runToEnd [] disk loaded).printed
      (Machine.runToEnd [] disk loaded).complaints (Machine.answer [] call disk).1.lines :=
    streams Machine.runToEnd [] call disk loaded disk started
  rw [captured.1, captured.2] at read
  refine ⟨?_, ?_, ?_⟩
  · have isOpen : Lines.byteEnds.Open data := ⟨0x82, by decide, by decide, by decide⟩
    obtain ⟨front, last, first, behind, ends, begins, _, _, lines⟩ :=
      read.joined isOpen (by decide)
    have ends' : front ++ [last] = [[0x61], []] ++ [[0x62, 0xE2, 0x82]] :=
      ends.symm.trans (by decide)
    have begins' : first :: behind = [Bytes.ofString "t/cat: gone: No such file or directory"] :=
      begins.symm.trans (by decide +kernel)
    obtain ⟨rfl, last_eq⟩ := List.append_inj' ends' rfl
    cases last_eq
    cases begins'
    rw [lines]
    decide +kernel
  · obtain ⟨behind, begins, lines⟩ :=
      (both true (Bytes.ofString "a\r") (Bytes.ofString "\nb")).split (by decide) (by decide)
    have begins' : "" :: behind = ["", "b"] := begins.symm.trans (by decide)
    cases begins'
    rw [lines]
    decide
  · have closed : Lines.byteEnds.Closed (Bytes.ofString "a\n") (Bytes.ofString "\nb") := by decide
    rw [(both true (Bytes.ofString "a\n") (Bytes.ofString "\nb")).apart (.inr (.inr closed))]
    decide

end CutOff

end StagedBuild
