import StagedBuild.Proofs.Decoding
import StagedBuild.Proofs.LineScan

/-!
# Lines written and read again

Lines are written as one text, each with a line feed behind it
(`writeLines_eq_write`).  The line feed is one of the line ends that may stand there,
so the lines are read back if none of them holds a line end (`normalize_unlines`).
Lines that were read hold none, so nothing is lost of them on the way over bytes
(`normalize_decode_written`).  `normalize_one_pass` says all of this of reading and
writing.
-/

namespace StagedBuild

namespace Lines

/-- The text of some lines, each with a line feed behind it. -/
def unlines : List String → String
  | [] => ""
  | line :: others => line ++ "\n" ++ unlines others

/-! ## Writing -/

theorem ofString_unlines_cons (line : String) (others : List String) :
    Bytes.ofString (unlines (line :: others)) =
      Bytes.ofString line ++ ([Bytes.lineFeed] ++ Bytes.ofString (unlines others)) := by
  have feed : Bytes.ofString "\n" = [Bytes.lineFeed] := by decide
  rw [unlines, Bytes.ofString_append, Bytes.ofString_append, feed, List.append_assoc]

section Sink

variable {sink next : Sink} {bytes : Bytes}

theorem Sink.write_nil (sink : Sink) : sink.write [] = (true, sink) := by
  obtain ⟨written, room⟩ := sink
  cases room with
  | none => simp [Sink.write]
  | some room => simp [Sink.write]

/-- What comes behind bytes that do not all fit changes nothing. -/
theorem Sink.write_append_of_failed (failed : sink.write bytes = (false, next)) (more : Bytes) :
    sink.write (bytes ++ more) = (false, next) := by
  obtain ⟨written, room⟩ := sink
  cases room with
  | none => simp [Sink.write] at failed
  | some room =>
    simp only [Sink.write, Prod.mk.injEq, decide_eq_false_iff_not, Nat.not_le] at failed
    obtain ⟨beyond, rfl⟩ := failed
    have still_beyond : ¬bytes.length + more.length ≤ room := by omega
    have none_left : room - (bytes.length + more.length) = room - bytes.length := by omega
    simp only [Sink.write, List.length_append, still_beyond, decide_false, none_left,
      List.take_append_of_le_length (Nat.le_of_lt beyond)]

/-- Bytes behind others that fit may be written in a write of their own. -/
theorem Sink.write_append_of_done (done : sink.write bytes = (true, next)) (more : Bytes) :
    sink.write (bytes ++ more) = next.write more := by
  obtain ⟨written, room⟩ := sink
  cases room with
  | none =>
    simp only [Sink.write, Prod.mk.injEq, true_and] at done
    subst done
    simp only [Sink.write, List.append_assoc]
  | some room =>
    simp only [Sink.write, Prod.mk.injEq, decide_eq_true_iff] at done
    obtain ⟨fits, rfl⟩ := done
    have fits_iff : bytes.length + more.length ≤ room ↔ more.length ≤ room - bytes.length := by
      omega
    simp only [Sink.write, List.length_append, fits_iff, List.take_append, List.append_assoc,
      Nat.sub_sub]

end Sink

/-- Lines are written like one text, so nothing is written behind a write that fails. -/
theorem writeLines_eq_write (sink : Sink) (lines : List String) :
    writeLines sink lines = sink.write (Bytes.ofString (unlines lines)) := by
  induction lines generalizing sink with
  | nil => exact sink.write_nil.symm
  | cons line others ih =>
    rw [ofString_unlines_cons, writeLines]
    rcases wrote : sink.write (Bytes.ofString line) with ⟨_ | _, next⟩
    · exact (Sink.write_append_of_failed wrote _).symm
    · rw [Sink.write_append_of_done wrote]
      dsimp only
      rcases ended : next.write [Bytes.lineFeed] with ⟨_ | _, last⟩
      · exact (Sink.write_append_of_failed ended _).symm
      · rw [Sink.write_append_of_done ended]
        exact ih last

/-- All lines are written where there is no limit. -/
theorem writeLines_unbounded (lines : List String) :
    writeLines .unbounded lines = (true, ⟨Bytes.ofString (unlines lines), none⟩) := by
  rw [writeLines_eq_write]
  rfl

/-! ## Reading -/

theorem unlines_eq_terminated (lines : List String) :
    unlines lines = terminated (lines.map (·, .feed)) := by
  induction lines with
  | nil => rfl
  | cons line others ih =>
    rw [unlines, ih]
    rfl

theorem separate_feeds (lines : List String) : Separate (lines.map (·, .feed)) := by
  induction lines with
  | nil => trivial
  | cons line others ih => exact ⟨nofun, ih⟩

/-- Lines without line ends are read back from their text. -/
theorem normalize_unlines {lines : List String} (clean : ∀ line ∈ lines, IsLine line) :
    normalize (unlines lines) = lines := by
  have lines_clean : ∀ line ∈ lines.map (·, LineEnd.feed), IsLine line.1 := by
    intro line mem
    obtain ⟨text, inside, rfl⟩ := List.mem_map.mp mem
    exact clean text inside
  have texts : Prod.fst ∘ (·, LineEnd.feed) = (id : String → String) := rfl
  rw [unlines_eq_terminated, normalize_terminated lines_clean (separate_feeds lines),
    List.map_map, texts, List.map_id]

/-- Lines that were read are read back from their bytes. -/
theorem normalize_decode_written (text : String) :
    normalize (Utf8.decode (Bytes.ofString (unlines (normalize text)))) = normalize text := by
  rw [Utf8.decode_ofString]
  exact normalize_unlines fun _ mem => isLine_of_mem_normalize mem

/-- The lines of a text are those of two replacements and a cut at the line feeds.  One
pass finds the same, and none of them holds a line end.

In the other direction they are read back.  Lines without line ends may be written with
any line end behind each, as long as no line feed comes right behind a lone carriage
return.  So what is written of them with line feeds is read as the same lines, and what
is written of lines that were read is too. -/
theorem normalize_one_pass :
    (∀ text, normalize text = (cut (replaceAll ['\r'] ['\n']
      (replaceAll ['\r', '\n'] ['\n'] text.toList))).map String.ofList) ∧
    (∀ text, normalize text = (scan charEnds text.toList).map String.ofList) ∧
    (∀ text, ∀ line ∈ normalize text, IsLine line) ∧
    (∀ lines : List (String × LineEnd), (∀ line ∈ lines, IsLine line.1) → Separate lines →
      normalize (terminated lines) = lines.map Prod.fst) ∧
    (∀ lines, (∀ line ∈ lines, IsLine line) →
      writeLines .unbounded lines = (true, ⟨Bytes.ofString (unlines lines), none⟩) ∧
        normalize (unlines lines) = lines) ∧
    ∀ text, writeLines .unbounded (normalize text) =
        (true, ⟨Bytes.ofString (unlines (normalize text)), none⟩) ∧
      normalize (unlines (normalize text)) = normalize text := by
  refine ⟨?_, normalize_eq_scan, fun _ _ mem => isLine_of_mem_normalize mem,
    fun _ clean separate => normalize_terminated clean separate,
    fun lines clean => ⟨writeLines_unbounded lines, normalize_unlines clean⟩, ?_⟩
  · intro text
    rw [normalize, unify_eq_replaceAll]
  · intro text
    have clean : ∀ line ∈ normalize text, IsLine line := fun _ mem => isLine_of_mem_normalize mem
    exact ⟨writeLines_unbounded (normalize text), normalize_unlines clean⟩

/-! ## Lines with every line end -/

/-- Empty lines among others.  A lone carriage return stands right before another line
end, and one stands at the end. -/
def mixed : List (String × LineEnd) :=
  [("a", .ret), ("", .both), ("", .feed), ("b", .feed), ("", .ret)]

/-- The lines are read back, and written again with line feeds. -/
theorem mixed_read_back :
    normalize "a\r\r\n\nb\n\r" = ["a", "", "", "b", ""] ∧
      normalize "a\n\n\nb\n\n" = ["a", "", "", "b", ""] := by
  obtain ⟨_, _, _, read, written, _⟩ := normalize_one_pass
  have text : terminated mixed = "a\r\r\n\nb\n\r" := by decide
  have clean : ∀ line ∈ mixed, IsLine line.1 := by decide
  have separate : Separate mixed := by decide
  have plain : ∀ line ∈ ["a", "", "", "b", ""], IsLine line := by decide
  refine ⟨?_, (written ["a", "", "", "b", ""] plain).2⟩
  rw [← text]
  exact read mixed clean separate

end Lines

end StagedBuild
