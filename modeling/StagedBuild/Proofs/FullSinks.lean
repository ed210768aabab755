import StagedBuild.Proofs.LineWriting

/-!
# Lines in a sink that fills up

A sink with little room holds the first bytes of the lines that are written to it
(`writeLines_ofCapacity`).  The lines before the cut are whole, and of the line at the
cut some first bytes are there (`exists_cut`).

`Sink.write` writes what fits at once.  A *receiver* takes what it is offered in
portions of its own choice, and what it leaves is offered again.  `Accepts` says how
much it takes before it refuses, and nothing of what it does later.  So a receiver ends
up with the bytes that are in the sink only if none is skipped, repeated or offered
behind a refusal.  `Cut` is what the delivery of some bytes comes to.  It holds of one
write (`Accepts.writeAll`) and of two deliveries in turn (`Cut.andThen`), and so of
lines (`Accepts.writeLines`).

`writeLines_until_full` says all of this.
-/

namespace StagedBuild

namespace Lines

/-! ## The sink -/

theorem writeLines_ofCapacity (capacity : Nat) (lines : List String) :
    writeLines (.ofCapacity capacity) lines =
      (decide ((Bytes.ofString (unlines lines)).length ≤ capacity),
        ⟨(Bytes.ofString (unlines lines)).take capacity,
          some (capacity - (Bytes.ofString (unlines lines)).length)⟩) := by
  rw [writeLines_eq_write]
  rfl

/-- Lines that do not fit are cut in one of them, in front of its line feed at the
latest. -/
theorem exists_cut {lines : List String} {room : Nat}
    (beyond : room < (Bytes.ofString (unlines lines)).length) :
    ∃ before line after kept, lines = before ++ line :: after ∧
      kept <+: Bytes.ofString line ∧
      (Bytes.ofString (unlines lines)).take room = Bytes.ofString (unlines before) ++ kept := by
  induction lines generalizing room with
  | nil => exact absurd beyond (Nat.not_lt_zero room)
  | cons line others ih =>
    rw [ofString_unlines_cons] at beyond ⊢
    by_cases within : room ≤ (Bytes.ofString line).length
    · refine ⟨[], line, others, (Bytes.ofString line).take room, rfl, List.take_prefix .., ?_⟩
      rw [List.take_append_of_le_length within]
      rfl
    · -- The line and its line feed fit, so the cut is in the others.
      rw [← List.append_assoc, List.length_append] at beyond
      have whole : (Bytes.ofString line ++ [Bytes.lineFeed]).length ≤ room := by
        rw [List.length_append]
        exact Nat.lt_of_not_le within
      obtain ⟨before, cutLine, after, kept, rfl, part, taken⟩ :=
        ih (Nat.sub_lt_left_of_lt_add whole beyond)
      refine ⟨line :: before, cutLine, after, kept, rfl, part, ?_⟩
      rw [← List.append_assoc, List.take_append, List.take_of_length_le whole, taken,
        ofString_unlines_cons]
      simp only [List.append_assoc]

/-! ## Receivers -/

/-- What stands behind a sink.  Of the bytes that it is offered it takes some first
ones, and it refuses by taking none. -/
structure Receiver (σ : Type) where
  /-- How many bytes are taken, and the state after that. -/
  offer : σ → Bytes → Nat × σ

/-- How writing to a receiver ends. -/
structure Delivery (σ : Type) where
  /-- Whether everything was taken. -/
  complete : Bool
  /-- The bytes that were taken, in order. -/
  taken : Bytes
  /-- The state of the receiver. -/
  state : σ

/-- Go on with another delivery if everything was taken. -/
def Delivery.andThen {σ : Type} (delivery : Delivery σ) (next : σ → Delivery σ) : Delivery σ :=
  if delivery.complete then
    { next delivery.state with taken := delivery.taken ++ (next delivery.state).taken }
  else delivery

namespace Receiver

variable {σ : Type} {receiver : Receiver σ} {state : σ} {room : Nat} {bytes more : Bytes}

/-- Offer bytes, and again what is left of them, until nothing is left or the receiver
refuses. -/
def writeAll (receiver : Receiver σ) (state : σ) (bytes : Bytes) : Delivery σ :=
  if bytes = [] then ⟨true, [], state⟩
  else if (receiver.offer state bytes).1 = 0 then ⟨false, [], (receiver.offer state bytes).2⟩
  else
    Delivery.andThen
      ⟨true, bytes.take (receiver.offer state bytes).1, (receiver.offer state bytes).2⟩
      fun next => receiver.writeAll next (bytes.drop (receiver.offer state bytes).1)
termination_by bytes.length
decreasing_by
  have : 0 < bytes.length := List.length_pos_iff.mpr ‹bytes ≠ []›
  rw [List.length_drop]
  omega

/-- Write each line and a line feed, up to the first refusal. -/
def writeLines (receiver : Receiver σ) (state : σ) : List String → Delivery σ
  | [] => ⟨true, [], state⟩
  | line :: others =>
      (receiver.writeAll state (Bytes.ofString line)).andThen fun state =>
        (receiver.writeAll state [Bytes.lineFeed]).andThen fun state =>
          receiver.writeLines state others

theorem writeAll_nil (receiver : Receiver σ) (state : σ) :
    receiver.writeAll state [] = ⟨true, [], state⟩ := by
  rw [writeAll, if_pos rfl]

theorem writeAll_refused (nonempty : bytes ≠ []) (refused : (receiver.offer state bytes).1 = 0) :
    receiver.writeAll state bytes = ⟨false, [], (receiver.offer state bytes).2⟩ := by
  rw [writeAll, if_neg nonempty, if_pos refused]

theorem writeAll_taken (nonempty : bytes ≠ []) (taken : 0 < (receiver.offer state bytes).1) :
    receiver.writeAll state bytes =
      Delivery.andThen
        ⟨true, bytes.take (receiver.offer state bytes).1, (receiver.offer state bytes).2⟩
        fun next => receiver.writeAll next (bytes.drop (receiver.offer state bytes).1) := by
  rw [writeAll, if_neg nonempty, if_neg (Nat.ne_of_gt taken)]

/-! ### What a receiver takes -/

/-- In a state, a receiver takes so many bytes in all before it refuses any. -/
inductive Accepts (receiver : Receiver σ) : Nat → σ → Prop
  /-- It refuses whatever is offered. -/
  | full {state : σ} (refuses : ∀ bytes ≠ [], (receiver.offer state bytes).1 = 0) :
      Accepts receiver 0 state
  /-- It takes something of whatever is offered, and has room for it. -/
  | free {room : Nat} {state : σ}
      (takes : ∀ bytes ≠ [], 0 < (receiver.offer state bytes).1)
      (within : ∀ bytes ≠ [], (receiver.offer state bytes).1 ≤ min room bytes.length)
      (later : ∀ bytes ≠ [], Accepts receiver (room - (receiver.offer state bytes).1)
        (receiver.offer state bytes).2) :
      Accepts receiver room state

/-- A delivery of some bytes that is cut where the room ends. -/
structure Cut (receiver : Receiver σ) (room : Nat) (bytes : Bytes) (delivery : Delivery σ) :
    Prop where
  /-- It is complete if there is room for all. -/
  complete : delivery.complete = decide (bytes.length ≤ room)
  /-- What fits is taken. -/
  taken : delivery.taken = bytes.take room
  /-- What is left of the room is there for other bytes. -/
  accepts : bytes.length ≤ room → receiver.Accepts (room - bytes.length) delivery.state

theorem Accepts.cut_nil (accepts : receiver.Accepts room state) :
    receiver.Cut room [] ⟨true, [], state⟩ where
  complete := (decide_eq_true (Nat.zero_le room)).symm
  taken := List.take_nil.symm
  accepts _ := accepts

/-- Two deliveries in turn are cut like one. -/
theorem Cut.andThen {delivery : Delivery σ} (first : receiver.Cut room bytes delivery)
    (next : σ → Delivery σ)
    (second : receiver.Accepts (room - bytes.length) delivery.state →
      receiver.Cut (room - bytes.length) more (next delivery.state)) :
    receiver.Cut room (bytes ++ more) (delivery.andThen next) := by
  by_cases fits : bytes.length ≤ room
  · have done : delivery.complete = true := first.complete.trans (decide_eq_true fits)
    have later := second (first.accepts fits)
    rw [Delivery.andThen, if_pos done]
    constructor
    case complete =>
      rw [later.complete, List.length_append, decide_eq_decide]
      omega
    case taken => rw [later.taken, first.taken, List.take_append]
    case accepts =>
      intro all
      rw [List.length_append] at all ⊢
      rw [← Nat.sub_sub]
      exact later.accepts (by omega)
  · have stopped : ¬delivery.complete = true := by simp [first.complete, fits]
    have beyond : ¬(bytes ++ more).length ≤ room := by
      rw [List.length_append]
      omega
    rw [Delivery.andThen, if_neg stopped]
    constructor
    case complete => rw [first.complete, decide_eq_false fits, decide_eq_false beyond]
    case taken => rw [first.taken, List.take_append_of_le_length (Nat.le_of_not_le fits)]
    case accepts => exact fun all => absurd all beyond

/-- Bytes that are offered until all are taken are cut where the room ends. -/
theorem Accepts.writeAll (accepts : receiver.Accepts room state) (bytes : Bytes) :
    receiver.Cut room bytes (receiver.writeAll state bytes) := by
  -- The induction is on how the receiver fills up, since the portions are its choice.
  induction accepts generalizing bytes with
  | full refuses =>
    rcases eq_or_ne bytes [] with rfl | nonempty
    · rw [writeAll_nil]
      exact (Accepts.full refuses).cut_nil
    · have beyond : ¬bytes.length ≤ 0 := Nat.not_le.mpr (List.length_pos_iff.mpr nonempty)
      rw [writeAll_refused nonempty (refuses bytes nonempty)]
      exact ⟨(decide_eq_false beyond).symm, rfl, fun all => absurd all beyond⟩
  | @free room state takes within later ih =>
    rcases eq_or_ne bytes [] with rfl | nonempty
    · rw [writeAll_nil]
      exact (Accepts.free takes within later).cut_nil
    · rw [writeAll_taken nonempty (takes bytes nonempty)]
      obtain ⟨fits, offered⟩ := Nat.le_min.mp (within bytes nonempty)
      have length_taken := List.length_take_of_le offered
      -- The delivery is that of the portion that is taken and then that of the rest.
      have portion : receiver.Cut room (bytes.take (receiver.offer state bytes).1)
          ⟨true, bytes.take (receiver.offer state bytes).1, (receiver.offer state bytes).2⟩ := by
        constructor
        case complete => rw [length_taken, decide_eq_true fits]
        case taken => rw [List.take_take, Nat.min_eq_right fits]
        case accepts =>
          rw [length_taken]
          exact fun _ => later bytes nonempty
      have both := portion.andThen
        (fun next => receiver.writeAll next (bytes.drop (receiver.offer state bytes).1))
        fun _ => by
          rw [length_taken]
          exact ih bytes nonempty (bytes.drop (receiver.offer state bytes).1)
      rwa [List.take_append_drop] at both

/-- Lines are cut where the room ends. -/
theorem Accepts.writeLines (accepts : receiver.Accepts room state) (lines : List String) :
    receiver.Cut room (Bytes.ofString (unlines lines)) (receiver.writeLines state lines) := by
  induction lines generalizing room state with
  | nil => exact accepts.cut_nil
  | cons line others ih =>
    rw [ofString_unlines_cons]
    refine (accepts.writeAll (Bytes.ofString line)).andThen _ fun accepts => ?_
    exact (accepts.writeAll [Bytes.lineFeed]).andThen _ fun accepts => ih accepts

end Receiver

/-! ## The cut -/

/-- Of lines that are written to a sink, each with a line feed behind it, the first
bytes are written, as many as there is room for, and it goes well if that is all of
them.  Otherwise the lines before one of them are written and a part of that one, which
may end within a character, and nothing else.

A receiver that takes so many bytes before it refuses any takes the same ones, in
whatever portions, even if it would take bytes again after that. -/
theorem writeLines_until_full (lines : List String) (room : Nat) :
    let full := Bytes.ofString (unlines lines)
    let ended := writeLines (.ofCapacity room) lines
    ended.2.written = full.take (min room full.length) ∧
    (ended.1 = true ↔ full.length ≤ room) ∧
    ended.2.written <+: full ∧
    (ended.1 = false → ∃ before line after kept, lines = before ++ line :: after ∧
      kept <+: Bytes.ofString line ∧
      ended.2.written = Bytes.ofString (unlines before) ++ kept) ∧
    ∀ {σ : Type} (receiver : Receiver σ) (state : σ), receiver.Accepts room state →
      let delivery := receiver.writeLines state lines
      delivery.complete = ended.1 ∧ delivery.taken = ended.2.written := by
  intro full ended
  have cut : ended = (decide (full.length ≤ room),
      ⟨full.take room, some (room - full.length)⟩) := writeLines_ofCapacity room lines
  rw [cut]
  refine ⟨List.take_eq_take_min .., decide_eq_true_iff, List.take_prefix .., ?_, ?_⟩
  · intro failed
    exact exists_cut (Nat.not_le.mp (decide_eq_false_iff_not.mp failed))
  · intro σ receiver state accepts delivery
    have delivered := accepts.writeLines lines
    exact ⟨delivered.complete, delivered.taken⟩

/-! ## A receiver that takes one byte at a time -/

/-- Takes one byte at a time, as long as there is room.  After a refusal there is room
again. -/
def byteByByte : Receiver Nat where
  offer
    | 0, _ => (0, 9)
    | room + 1, bytes => (min 1 bytes.length, room + 1 - min 1 bytes.length)

theorem accepts_byteByByte (room : Nat) : byteByByte.Accepts room room := by
  induction room with
  | zero => exact .full fun _ _ => rfl
  | succ room ih =>
    have one : ∀ bytes : Bytes, bytes ≠ [] → byteByByte.offer (room + 1) bytes = (1, room) := by
      intro bytes nonempty
      have pos : min 1 bytes.length = 1 := Nat.min_eq_left (List.length_pos_iff.mpr nonempty)
      simp only [byteByByte, pos, Nat.add_sub_cancel]
    refine .free (fun bytes nonempty => ?_) (fun bytes nonempty => ?_) fun bytes nonempty => ?_
    · rw [one bytes nonempty]
      exact Nat.one_pos
    · rw [one bytes nonempty]
      exact Nat.le_min.mpr ⟨Nat.le_add_left 1 room, List.length_pos_iff.mpr nonempty⟩
    · rw [one bytes nonempty]
      exact ih

/-- The room ends within the `é`, and nothing is taken of the other lines. -/
theorem cut_in_character :
    byteByByte.Accepts 2 2 ∧
      (byteByByte.writeLines 2 ["aé", "", "b"]).complete = false ∧
      (byteByByte.writeLines 2 ["aé", "", "b"]).taken = [0x61, 0xC3] ∧
      ∃ before line after kept, ["aé", "", "b"] = before ++ line :: after ∧
        kept <+: Bytes.ofString line ∧
        [0x61, 0xC3] = Bytes.ofString (unlines before) ++ kept := by
  have ended : writeLines (.ofCapacity 2) ["aé", "", "b"] = (false, ⟨[0x61, 0xC3], some 0⟩) := by
    decide
  obtain ⟨_, _, _, cut, same⟩ := writeLines_until_full ["aé", "", "b"] 2
  obtain ⟨complete, taken⟩ := same byteByByte 2 (accepts_byteByByte 2)
  rw [ended] at complete taken cut
  exact ⟨accepts_byteByByte 2, complete, taken, cut rfl⟩

end Lines

end StagedBuild
