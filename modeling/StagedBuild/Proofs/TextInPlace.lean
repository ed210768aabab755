import StagedBuild.Proofs.Decoding

/-!
# Text among other bytes

A byte that continues a character is a *tail*.  Where the reader comes to a byte that
is no tail, it starts anew: what stands before is read as if the bytes ended there, and
the rest as if they began there (`decodeFrom_append`).  No character begins with a
tail, so text is kept in its place whatever bytes stand around it
(`decodeChars_in_place`).

`WellFormed` is the grammar of valid bytes, which does not speak of the reader.  The
bytes of a character in the grammar are those that a character is written with
(`isCharacter_iff`), so valid bytes are those that a text is written with
(`wellFormed_iff`).
-/

namespace StagedBuild

namespace Utf8

/-! ## Valid bytes -/

/-- A byte that continues a character. -/
def IsTail (b : UInt8) : Prop := 0x80 ≤ b.toNat ∧ b.toNat ≤ 0xBF

instance (b : UInt8) : Decidable (IsTail b) :=
  inferInstanceAs (Decidable (0x80 ≤ b.toNat ∧ b.toNat ≤ 0xBF))

/-- The bytes of one character, by their number.  None is longer than it has to be, and
none is that of a surrogate or of a value above U+10FFFF. -/
inductive IsCharacter : Bytes → Prop where
  /-- A character of ASCII. -/
  | one {a : UInt8} (low : a.toNat ≤ 0x7F) : IsCharacter [a]
  /-- From U+0080. -/
  | two {a b : UInt8} (lead : 0xC2 ≤ a.toNat ∧ a.toNat ≤ 0xDF) (second : IsTail b) :
      IsCharacter [a, b]
  /-- From U+0800, without the surrogates. -/
  | three {a b c : UInt8} (lead : 0xE0 ≤ a.toNat ∧ a.toNat ≤ 0xEF) (second : IsTail b)
      (third : IsTail c) (shortest : a.toNat = 0xE0 → 0xA0 ≤ b.toNat)
      (no_surrogate : a.toNat = 0xED → b.toNat ≤ 0x9F) : IsCharacter [a, b, c]
  /-- From U+10000 to U+10FFFF. -/
  | four {a b c d : UInt8} (lead : 0xF0 ≤ a.toNat ∧ a.toNat ≤ 0xF4) (second : IsTail b)
      (third : IsTail c) (fourth : IsTail d) (shortest : a.toNat = 0xF0 → 0x90 ≤ b.toNat)
      (in_range : a.toNat = 0xF4 → b.toNat ≤ 0x8F) : IsCharacter [a, b, c, d]

/-- Valid bytes: some characters, one after the other. -/
inductive WellFormed : Bytes → Prop where
  /-- No character. -/
  | nil : WellFormed []
  /-- A character in front of others. -/
  | cons {character rest : Bytes} (first : IsCharacter character) (others : WellFormed rest) :
      WellFormed (character ++ rest)

/-- No character begins with a tail. -/
theorem IsCharacter.head {character : Bytes} (h : IsCharacter character) :
    ∃ b rest, character = b :: rest ∧ ¬IsTail b := by
  cases h with
  | one low => exact ⟨_, _, rfl, fun tail => by have := tail.1; omega⟩
  | two lead => exact ⟨_, _, rfl, fun tail => by have := tail.2; omega⟩
  | three lead => exact ⟨_, _, rfl, fun tail => by have := tail.2; omega⟩
  | four lead => exact ⟨_, _, rfl, fun tail => by have := tail.2; omega⟩

/-- The bytes that a character is written with are those of a character. -/
theorem isCharacter_utf8EncodeChar (c : Char) : IsCharacter (String.utf8EncodeChar c) := by
  have valid : c.toNat < 0xD800 ∨ (0xDFFF < c.toNat ∧ c.toNat < 0x110000) := c.valid
  simp only [String.utf8EncodeChar, show c.val.toNat = c.toNat from rfl]
  generalize c.toNat = v at valid
  have tail : ∀ n, IsTail (UInt8.ofNat (n % 64 + 128)) := by
    intro n
    rw [IsTail, toNat_byte (by omega)]
    omega
  by_cases one : v ≤ 0x7F
  · rw [if_pos one]
    exact .one (by rw [toNat_byte (by omega)]; exact one)
  rw [if_neg one]
  by_cases two : v ≤ 0x7FF
  · rw [if_pos two]
    exact .two (by rw [toNat_byte (by omega)]; omega) (tail v)
  rw [if_neg two]
  by_cases three : v ≤ 0xFFFF
  · have lead := (toNat_byte (by omega) : (UInt8.ofNat (v / 4096 % 16 + 224)).toNat = _)
    have second := (toNat_byte (by omega) : (UInt8.ofNat (v / 64 % 64 + 128)).toNat = _)
    rw [if_pos three]
    exact .three (by omega) (tail _) (tail v) (by omega) (by omega)
  · have lead := (toNat_byte (by omega) : (UInt8.ofNat (v / 262144 % 8 + 240)).toNat = _)
    have second := (toNat_byte (by omega) : (UInt8.ofNat (v / 4096 % 64 + 128)).toNat = _)
    rw [if_neg three]
    exact .four (by omega) (tail _) (tail _) (tail v) (by omega) (by omega)

theorem ofNat_eq (b : UInt8) {n : Nat} (h : n = b.toNat) : UInt8.ofNat n = b := by
  rw [h, UInt8.ofNat_toNat]

/-- The bytes of a character are written for the one of their value. -/
theorem IsCharacter.exists_char {bytes : Bytes} (h : IsCharacter bytes) :
    ∃ c : Char, bytes = String.utf8EncodeChar c := by
  cases h with
  | @one a low =>
    have code : (Char.ofNat a.toNat).val.toNat = a.toNat := toNat_ofNat (.inl (by omega))
    refine ⟨Char.ofNat a.toNat, ?_⟩
    simp only [String.utf8EncodeChar, code]
    rw [if_pos low, ofNat_eq a rfl]
  | @two a b lead second =>
    obtain ⟨low, high⟩ := second
    let v := (a.toNat - 0xC0) * 64 + (b.toNat - 0x80)
    have code : (Char.ofNat v).val.toNat = v := toNat_ofNat (.inl (by omega))
    have one : ¬v ≤ 0x7F := by omega
    have two : v ≤ 0x7FF := by omega
    refine ⟨Char.ofNat v, ?_⟩
    simp only [String.utf8EncodeChar, code]
    rw [if_neg one, if_pos two, ofNat_eq a (by omega), ofNat_eq b (by omega)]
  | @three a b c lead second third shortest no_surrogate =>
    obtain ⟨low, high⟩ := second
    obtain ⟨low', high'⟩ := third
    let v := ((a.toNat - 0xE0) * 64 + (b.toNat - 0x80)) * 64 + (c.toNat - 0x80)
    have code : (Char.ofNat v).val.toNat = v :=
      toNat_ofNat (by simp only [Nat.isValidChar]; omega)
    have one : ¬v ≤ 0x7F := by omega
    have two : ¬v ≤ 0x7FF := by omega
    have three : v ≤ 0xFFFF := by omega
    refine ⟨Char.ofNat v, ?_⟩
    simp only [String.utf8EncodeChar, code]
    rw [if_neg one, if_neg two, if_pos three, ofNat_eq a (by omega),
      ofNat_eq b (by omega), ofNat_eq c (by omega)]
  | @four a b c d lead second third fourth shortest in_range =>
    obtain ⟨low, high⟩ := second
    obtain ⟨low', high'⟩ := third
    obtain ⟨low'', high''⟩ := fourth
    let v := (((a.toNat - 0xF0) * 64 + (b.toNat - 0x80)) * 64 + (c.toNat - 0x80)) * 64 +
      (d.toNat - 0x80)
    have code : (Char.ofNat v).val.toNat = v :=
      toNat_ofNat (by simp only [Nat.isValidChar]; omega)
    have one : ¬v ≤ 0x7F := by omega
    have two : ¬v ≤ 0x7FF := by omega
    have three : ¬v ≤ 0xFFFF := by omega
    refine ⟨Char.ofNat v, ?_⟩
    simp only [String.utf8EncodeChar, code]
    rw [if_neg one, if_neg two, if_neg three, ofNat_eq a (by omega),
      ofNat_eq b (by omega), ofNat_eq c (by omega), ofNat_eq d (by omega)]

/-- The bytes of a character are those that a character is written with. -/
theorem isCharacter_iff {bytes : Bytes} :
    IsCharacter bytes ↔ ∃ c : Char, bytes = String.utf8EncodeChar c := by
  refine ⟨IsCharacter.exists_char, ?_⟩
  rintro ⟨c, rfl⟩
  exact isCharacter_utf8EncodeChar c

theorem wellFormed_ofChars (text : List Char) : WellFormed (Bytes.ofChars text) := by
  induction text with
  | nil => exact .nil
  | cons c text ih => exact .cons (isCharacter_utf8EncodeChar c) ih

/-- Valid bytes are those that a text is written with. -/
theorem wellFormed_iff {bytes : Bytes} :
    WellFormed bytes ↔ ∃ text, bytes = Bytes.ofString text := by
  constructor
  · intro h
    induction h with
    | nil => exact ⟨"", rfl⟩
    | cons first others ih =>
      obtain ⟨c, rfl⟩ := isCharacter_iff.mp first
      obtain ⟨text, rfl⟩ := ih
      have chars : (String.ofList (c :: text.toList)).toList = c :: text.toList :=
        String.toList_ofList
      refine ⟨String.ofList (c :: text.toList), ?_⟩
      rw [Bytes.ofString, Bytes.ofString, chars]
      rfl
  · rintro ⟨text, rfl⟩
    exact wellFormed_ofChars text.toList

/-! ## Starting anew -/

section Anew

variable {state : State} {front behind : Bytes}

/-- A byte leads from a state that the reader comes to into another such state. -/
theorem State.Proper.step (proper : state.Proper) (b : Nat) : (step state b).2.Proper := by
  have first : (first b).2.Proper := by
    rcases first_cases b with ⟨_, h⟩ | ⟨_, next, hnext, _, h⟩ | ⟨_, h⟩
    · rw [h]; trivial
    · rw [h]; exact hnext
    · rw [h]; trivial
  cases state with
  | start => exact first
  | within owed low high code =>
    rcases within_cases proper b with ⟨_, next, hnext, _, h⟩ | ⟨_, c, _, h⟩ | h
    · rw [h]; exact hnext
    · rw [h]; trivial
    · rw [h]; exact first

/-- A byte that is no tail breaks an open character off and is read as the first one. -/
theorem decodeFrom_anew (proper : state.Proper) (anew : ∀ b ∈ behind.head?, ¬IsTail b) :
    decodeFrom state behind = finish state ++ decodeFrom .start behind := by
  cases state with
  | start => rfl
  | within owed low high code =>
    cases behind with
    | nil => rfl
    | cons b rest =>
      have outside : ¬(low ≤ b.toNat ∧ b.toNat ≤ high) := by
        rintro ⟨above, below⟩
        exact anew b rfl ⟨Nat.le_trans proper.low_ge above, Nat.le_trans below proper.high_le⟩
      have broken : step (.within owed low high code) b.toNat =
          (replacement :: (first b.toNat).1, (first b.toNat).2) := by
        simp only [step]
        exact if_neg outside
      rw [decodeFrom, broken]
      rfl

/-- The reader starts anew at a byte that is no tail.  The induction is on what stands
before, in every state that the reader comes to. -/
theorem decodeFrom_append (proper : state.Proper) (anew : ∀ b ∈ behind.head?, ¬IsTail b) :
    decodeFrom state (front ++ behind) = decodeFrom state front ++ decodeFrom .start behind := by
  induction front generalizing state with
  | nil => exact decodeFrom_anew proper anew
  | cons b front ih => rw [List.cons_append, decodeFrom, decodeFrom, ih (proper.step b.toNat),
      List.append_assoc]

theorem decodeChars_append (anew : ∀ b ∈ behind.head?, ¬IsTail b) :
    decodeChars (front ++ behind) = decodeChars front ++ decodeChars behind := by
  have start : State.start.Proper := trivial
  rw [decodeChars_eq, decodeChars_eq, decodeChars_eq, decodeFrom_append start anew]

/-- A byte of ASCII is kept in its place. -/
theorem decodeChars_append_ascii {b : UInt8} (low : b.toNat ≤ 0x7F) (front rest : Bytes) :
    decodeChars (front ++ b :: rest) =
      decodeChars front ++ Char.ofNat b.toNat :: decodeChars rest := by
  have anew : ∀ d ∈ (b :: rest).head?, ¬IsTail d := by
    rintro _ ⟨⟩ tail
    have := tail.1
    omega
  rw [decodeChars_append anew, decodeChars_eq (b :: rest), decodeFrom_ascii low, ← decodeChars_eq]

/-- Text is kept in its place. -/
theorem decodeChars_in_place {text : List Char} (ne : text ≠ []) (front behind : Bytes) :
    decodeChars (front ++ (Bytes.ofChars text ++ behind)) =
      decodeChars front ++ (text ++ decodeChars behind) := by
  have anew : ∀ b ∈ (Bytes.ofChars text ++ behind).head?, ¬IsTail b := by
    obtain ⟨c, others, rfl⟩ := List.exists_cons_of_ne_nil ne
    obtain ⟨b, rest, hc, clean⟩ := (isCharacter_utf8EncodeChar c).head
    rw [Bytes.ofChars, List.flatMap_cons, hc]
    rintro _ ⟨⟩
    exact clean
  rw [decodeChars_append anew, decodeChars_eq (Bytes.ofChars text ++ behind), decodeFrom_ofChars,
    ← decodeChars_eq]

/-- Only the empty byte string has no text. -/
theorem decodeChars_eq_nil {bytes : Bytes} : decodeChars bytes = [] ↔ bytes = [] := by
  constructor
  · intro empty
    cases bytes with
    | nil => rfl
    | cons b rest =>
      rw [decodeChars_eq] at empty
      by_cases low : b.toNat ≤ 0x7F
      · rw [decodeFrom_ascii low] at empty
        cases empty
      · have high : 0x80 ≤ b.toNat := by omega
        obtain ⟨c, text, _, h⟩ := decodeFrom_high high rest
        rw [h] at empty
        cases empty
  · rintro rfl
    rfl

end Anew

/-- Decoding keeps text.  The bytes of a text are read as that text, alone and between
any others, so what is broken off before it or begins behind it does not touch it.  No
bytes get lost altogether, and bytes are valid if and only if their text is written
with the same bytes. -/
theorem decode_keeps_text :
    (∀ text, decode (Bytes.ofString text) = text) ∧
    (∀ front behind text, text ≠ "" →
      decode (front ++ Bytes.ofString text ++ behind) = decode front ++ text ++ decode behind) ∧
    (∀ bytes, bytes ≠ [] → decode bytes ≠ "") ∧
    ∀ bytes, WellFormed bytes ↔ Bytes.ofString (decode bytes) = bytes := by
  refine ⟨decode_ofString, ?_, ?_, ?_⟩
  · intro front behind text ne
    have chars : text.toList ≠ [] := fun empty => ne (String.toList_eq_nil_iff.mp empty)
    rw [decode, List.append_assoc, Bytes.ofString, decodeChars_in_place chars,
      String.ofList_append, String.ofList_append, String.ofList_toList, ← String.append_assoc]
    rfl
  · intro bytes ne empty
    have chars := congrArg String.toList empty
    rw [decode, String.toList_ofList] at chars
    exact ne (decodeChars_eq_nil.mp chars)
  · intro bytes
    rw [wellFormed_iff]
    constructor
    · rintro ⟨text, rfl⟩
      rw [decode_ofString]
    · intro same
      exact ⟨decode bytes, same.symm⟩

end Utf8

/-! ## A text between broken characters -/

namespace BrokenCharacters

/-- A character that is broken off, behind another. -/
def front : Bytes := [0x41, 0xE2, 0x82]

def text : String := "\u00E9\u65E5"

/-- A byte that continues nothing, before a character that is broken off. -/
def behind : Bytes := [0x80, 0xF0, 0x9F]

/-- The text is in its place, and what is broken is told from valid bytes. -/
theorem text_kept :
    Utf8.decode (front ++ Bytes.ofString text ++ behind) = "A\uFFFD" ++ text ++ "\uFFFD\uFFFD" ∧
      Utf8.decode behind ≠ "" ∧ ¬Utf8.WellFormed front := by
  obtain ⟨_, kept, seen, valid⟩ := Utf8.decode_keeps_text
  have ne : text ≠ "" := by decide
  refine ⟨?_, seen behind (by decide), ?_⟩
  · rw [kept front behind text ne]
    decide
  · rw [valid front]
    decide

end BrokenCharacters

end StagedBuild
