import Mathlib.Algebra.Group.Nat.Defs
import Mathlib.Data.List.Infix
import StagedBuild.Proofs.Parts
import StagedBuild.Text.Utf8

/-!
# What decoding does to plain text

`decodeFrom` is the reader as a recursion on the bytes, oldest first.
`State.Proper` holds in every state that the reader comes to: however an open
character is completed, it is one and lies above ASCII.  `first_cases` and
`within_cases` give what a byte can do.

A byte of ASCII is its character wherever it stands, and no other byte adds a
character of ASCII.  Between two characters of ASCII that stand together in the
text there was no byte, or that byte would have left something.  So a text of
ASCII is found in a decoded text if and only if its bytes are found in the bytes
(`infix_decodeChars_iff`).

The bytes of a character bring the reader from between two characters to between
two characters, and add that character, whatever its length.  So a text is read
back from its bytes (`decode_ofString`).
-/

namespace StagedBuild

/-- A character of ASCII. -/
def IsAscii (c : Char) : Prop := c.toNat ≤ 0x7F

instance (c : Char) : Decidable (IsAscii c) := inferInstanceAs (Decidable (c.toNat ≤ 0x7F))

theorem ascii_of_all {text : List Char} (h : text.all (fun c => decide (IsAscii c)) = true) :
    ∀ c ∈ text, IsAscii c := by
  intro c mem
  exact of_decide_eq_true (List.all_eq_true.mp h c mem)

/-! ## The bytes of ASCII -/

/-- The character of a code point has that code point. -/
theorem toNat_ofNat {n : Nat} (valid : n.isValidChar) : (Char.ofNat n).toNat = n := by
  rw [Char.ofNat, dif_pos valid]
  rfl

theorem ofChars_cons_ascii {c : Char} (ascii : IsAscii c) (rest : List Char) :
    Bytes.ofChars (c :: rest) = UInt8.ofNat c.toNat :: Bytes.ofChars rest := by
  have single : String.utf8EncodeChar c = [UInt8.ofNat c.toNat] := by
    simp only [String.utf8EncodeChar]
    exact if_pos ascii
  rw [Bytes.ofChars, List.flatMap_cons, single]
  rfl

theorem Bytes.ofString_append (front behind : String) :
    Bytes.ofString (front ++ behind) = Bytes.ofString front ++ Bytes.ofString behind := by
  rw [Bytes.ofString, String.toList_append, Bytes.ofChars, List.flatMap_append]
  rfl

theorem toNat_byte_ascii {c : Char} (ascii : IsAscii c) :
    (UInt8.ofNat c.toNat).toNat = c.toNat := by
  rw [UInt8.toNat_ofNat', Nat.mod_eq_of_lt (Nat.lt_of_le_of_lt ascii (by decide))]

/-- A character is the one of an ASCII byte if and only if its own byte is that. -/
theorem eq_ofNat_iff {c : Char} (ascii : IsAscii c) (b : UInt8) (low : b.toNat ≤ 0x7F) :
    c = Char.ofNat b.toNat ↔ UInt8.ofNat c.toNat = b := by
  constructor
  · intro same
    have code : (Char.ofNat b.toNat).toNat = b.toNat := toNat_ofNat (.inl (by omega))
    rw [same, code, UInt8.ofNat_toNat]
  · intro same
    rw [← same, toNat_byte_ascii ascii, Char.ofNat_toNat]

namespace Utf8

/-! ## The reader as a recursion -/

/-- The text of some bytes from a state. -/
def decodeFrom (state : State) : Bytes → List Char
  | [] => finish state
  | b :: rest => (step state b.toNat).1 ++ decodeFrom (step state b.toNat).2 rest

theorem feed_eq (state : State) (text : List Char) (bytes : Bytes) :
    (finish (feed state text bytes).2 ++ (feed state text bytes).1).reverse =
      text.reverse ++ decodeFrom state bytes := by
  induction bytes generalizing state text with
  | nil => cases state <;> simp [feed, decodeFrom, finish]
  | cons b rest ih =>
    rw [feed, List.foldl_cons, ← feed, ih, List.reverse_append, List.reverse_reverse, decodeFrom,
      List.append_assoc]

theorem decodeChars_eq (bytes : Bytes) : decodeChars bytes = decodeFrom .start bytes :=
  feed_eq .start [] bytes

/-! ## Proper states -/

/-- However a character is completed that owes bytes, it lies above ASCII and is a
character. -/
structure Completes (owed low high code : Nat) : Prop where
  /-- The next byte is no ASCII. -/
  low_ge : 0x80 ≤ low
  /-- The next byte starts no character. -/
  high_le : high ≤ 0xBF
  /-- The least value lies above ASCII. -/
  least : 0x80 ≤ (code * 64 + (low - 0x80)) * 64 ^ owed
  /-- All values lie below the surrogates or above them. -/
  valid : (code * 64 + (high - 0x80) + 1) * 64 ^ owed ≤ 0xD800 ∨
    (0xE000 ≤ (code * 64 + (low - 0x80)) * 64 ^ owed ∧
      (code * 64 + (high - 0x80) + 1) * 64 ^ owed ≤ 0x110000)

/-- The states that the reader comes to. -/
def State.Proper : State → Prop
  | .start => True
  | .within owed low high code => Completes owed low high code

/-- The states between characters and inside them. -/
def State.isOpen : State → Bool
  | .start => false
  | .within .. => true

theorem Completes.next {owed low high code b : Nat} (h : Completes (owed + 1) low high code)
    (inside : low ≤ b ∧ b ≤ high) : Completes owed 0x80 0xBF (code * 64 + (b - 0x80)) := by
  obtain ⟨low_ge, high_le, least, valid⟩ := h
  have up : (code * 64 + (low - 0x80)) * 64 ^ (owed + 1) ≤
      (code * 64 + (b - 0x80)) * 64 ^ (owed + 1) := Nat.mul_le_mul_right _ (by omega)
  have down : (code * 64 + (b - 0x80) + 1) * 64 ^ (owed + 1) ≤
      (code * 64 + (high - 0x80) + 1) * 64 ^ (owed + 1) := Nat.mul_le_mul_right _ (by omega)
  have first : ((code * 64 + (b - 0x80)) * 64 + (0x80 - 0x80)) * 64 ^ owed =
      (code * 64 + (b - 0x80)) * 64 ^ (owed + 1) := by
    rw [Nat.sub_self, Nat.add_zero, Nat.pow_succ', Nat.mul_assoc]
  have last : ((code * 64 + (b - 0x80)) * 64 + (0xBF - 0x80) + 1) * 64 ^ owed =
      (code * 64 + (b - 0x80) + 1) * 64 ^ (owed + 1) := by
    rw [Nat.pow_succ', ← Nat.mul_assoc, Nat.add_mul (code * 64 + (b - 0x80)) 1 64]
  refine ⟨Nat.le_refl _, Nat.le_refl _, ?_, ?_⟩
  · rw [first]
    exact Nat.le_trans least up
  · rw [first, last]
    omega

theorem Completes.last {low high code b : Nat} (h : Completes 0 low high code)
    (inside : low ≤ b ∧ b ≤ high) :
    (Char.ofNat (code * 64 + (b - 0x80))).toNat = code * 64 + (b - 0x80) := by
  obtain ⟨low_ge, high_le, least, valid⟩ := h
  exact toNat_ofNat (by simp only [Nat.isValidChar]; omega)

theorem proper_of_lead? {b : Nat} {state : State} (h : lead? b = some state) :
    0x80 ≤ b ∧ state.isOpen = true ∧ state.Proper := by
  unfold lead? at h
  repeat' split at h
  all_goals cases h
  all_goals exact ⟨by omega, rfl, by omega, by omega, by omega, by omega⟩

/-! ## One byte -/

/-- What a byte between characters does. -/
theorem first_cases (b : Nat) :
    (b ≤ 0x7F ∧ first b = ([Char.ofNat b], .start)) ∨
    (0x80 ≤ b ∧ ∃ next, next.Proper ∧ next.isOpen = true ∧ first b = ([], next)) ∨
    (0x80 ≤ b ∧ first b = ([replacement], .start)) := by
  unfold first
  split
  · next low => exact .inl ⟨low, rfl⟩
  · next low =>
    split
    · next state hlead =>
      obtain ⟨high, isOpen, proper⟩ := proper_of_lead? hlead
      exact .inr (.inl ⟨high, state, proper, isOpen, rfl⟩)
    · exact .inr (.inr ⟨by omega, rfl⟩)

/-- What a byte inside a character does: it is one more of the character, it completes
the character, or it breaks the character off and is read again. -/
theorem within_cases {owed low high code : Nat} (h : Completes owed low high code) (b : Nat) :
    (0x80 ≤ b ∧ ∃ next, next.Proper ∧ next.isOpen = true ∧
      step (.within owed low high code) b = ([], next)) ∨
    (0x80 ≤ b ∧ ∃ c, ¬IsAscii c ∧ step (.within owed low high code) b = ([c], .start)) ∨
    step (.within owed low high code) b = (replacement :: (first b).1, (first b).2) := by
  simp only [step]
  split
  · next inside =>
    have high := Nat.le_trans h.low_ge inside.1
    cases owed with
    | zero =>
      refine .inr (.inl ⟨high, _, ?_, rfl⟩)
      have least := h.least
      rw [IsAscii, h.last inside]
      omega
    | succ owed => exact .inl ⟨high, .within owed _ _ _, h.next inside, rfl, rfl⟩
  · exact .inr (.inr rfl)

/-- A text that is decoded inside a character does not begin with ASCII. -/
theorem decodeFrom_open {state : State} (proper : state.Proper) (isOpen : state.isOpen = true)
    (bytes : Bytes) : ∃ c text, ¬IsAscii c ∧ decodeFrom state bytes = c :: text := by
  induction bytes generalizing state with
  | nil =>
    cases state with
    | start => cases isOpen
    | within owed low high code => exact ⟨replacement, [], by decide, rfl⟩
  | cons b rest ih =>
    cases state with
    | start => cases isOpen
    | within owed low high code =>
      rw [decodeFrom]
      rcases within_cases proper b.toNat with
        ⟨_, next, hproper, hopen, hstep⟩ | ⟨_, c, high, hstep⟩ | hstep
      · rw [hstep]
        exact ih hproper hopen
      · rw [hstep]
        exact ⟨c, _, high, rfl⟩
      · rw [hstep]
        exact ⟨replacement, _, by decide, rfl⟩

/-! ## Plain text -/

section Plain

variable {part : List Char} {rest : Bytes} {b : UInt8}

theorem decodeFrom_ascii (low : b.toNat ≤ 0x7F) :
    decodeFrom .start (b :: rest) = Char.ofNat b.toNat :: decodeFrom .start rest := by
  rw [decodeFrom, step, first, if_pos low]
  rfl

/-- A byte above ASCII makes a text that does not begin with ASCII. -/
theorem decodeFrom_high (high : 0x80 ≤ b.toNat) (rest : Bytes) :
    ∃ c text, ¬IsAscii c ∧ decodeFrom .start (b :: rest) = c :: text := by
  rw [decodeFrom, step]
  rcases first_cases b.toNat with ⟨low, _⟩ | ⟨_, next, proper, isOpen, hfirst⟩ | ⟨_, hfirst⟩
  · omega
  · rw [hfirst]
    exact decodeFrom_open proper isOpen rest
  · rw [hfirst]
    exact ⟨replacement, _, by decide, rfl⟩

/-- The bytes of plain text are those of ASCII. -/
theorem low_of_mem_ofChars (ascii : ∀ c ∈ part, IsAscii c) (mem : b ∈ Bytes.ofChars part) :
    b.toNat ≤ 0x7F := by
  induction part with
  | nil => cases mem
  | cons c part ih =>
    obtain ⟨first, others⟩ := List.forall_mem_cons.mp ascii
    rw [ofChars_cons_ascii first] at mem
    cases mem with
    | head => exact (toNat_byte_ascii first).symm ▸ first
    | tail _ mem => exact ih others mem

theorem ofChars_ne_nil (ascii : ∀ c ∈ part, IsAscii c) (ne : part ≠ []) :
    Bytes.ofChars part ≠ [] := by
  obtain ⟨c, others, rfl⟩ := List.exists_cons_of_ne_nil ne
  rw [ofChars_cons_ascii (ascii c (.head _))]
  exact List.cons_ne_nil _ _

theorem prefix_decodeFrom_iff (ascii : ∀ c ∈ part, IsAscii c) {bytes : Bytes} :
    part <+: decodeFrom .start bytes ↔ Bytes.ofChars part <+: bytes := by
  induction part generalizing bytes with
  | nil => simp [Bytes.ofChars]
  | cons c part ih =>
    obtain ⟨first, others⟩ := List.forall_mem_cons.mp ascii
    cases bytes with
    | nil => simp [ofChars_cons_ascii first, decodeFrom, finish]
    | cons b rest =>
      by_cases low : b.toNat ≤ 0x7F
      · rw [decodeFrom_ascii low, ofChars_cons_ascii first, List.cons_prefix_cons,
          List.cons_prefix_cons, eq_ofNat_iff first b low, ih others]
      · have high : 0x80 ≤ b.toNat := Nat.not_le.mp low
        obtain ⟨d, text, above, hdecode⟩ := decodeFrom_high high rest
        have clean : d ∉ c :: part := fun mem => above (ascii d mem)
        have clean' : b ∉ Bytes.ofChars (c :: part) := fun mem =>
          low (low_of_mem_ofChars ascii mem)
        rw [hdecode]
        exact iff_of_false (not_prefix_cons_of_notMem (List.cons_ne_nil c part) clean text)
          (not_prefix_cons_of_notMem (ofChars_ne_nil ascii (List.cons_ne_nil c part))
            clean' rest)

/-- Plain text is found in a decoded text if and only if its bytes are found in the
bytes.  The induction is on the bytes, in every state that the reader comes to. -/
theorem infix_decodeFrom_iff (ascii : ∀ c ∈ part, IsAscii c) (ne : part ≠ []) {state : State}
    (proper : state.Proper) {bytes : Bytes} :
    part <:+: decodeFrom state bytes ↔ Bytes.ofChars part <:+: bytes := by
  -- What lies above ASCII may be left out in front, of the text and of the bytes.
  have skip : ∀ {c text}, ¬IsAscii c → (part <:+: c :: text ↔ part <:+: text) := by
    intro c text above
    exact infix_cons_of_notMem ne fun mem => above (ascii c mem)
  have skip' : ∀ {b : UInt8} {rest}, 0x80 ≤ b.toNat →
      (Bytes.ofChars part <:+: b :: rest ↔ Bytes.ofChars part <:+: rest) := by
    intro b rest above
    exact infix_cons_of_notMem (ofChars_ne_nil ascii ne) fun mem =>
      Nat.not_le.mpr above (low_of_mem_ofChars ascii mem)
  induction bytes generalizing state with
  | nil =>
    have none : ¬part <:+: [] := fun h => ne (List.infix_nil.mp h)
    have none' : ¬Bytes.ofChars part <:+: [] := fun h =>
      ofChars_ne_nil ascii ne (List.infix_nil.mp h)
    cases state with
    | start => exact iff_of_false none none'
    | within owed low high code => exact (skip (by decide)).trans (iff_of_false none none')
  | cons b rest ih =>
    have behind : part <:+: decodeFrom .start rest ↔ Bytes.ofChars part <:+: rest := ih trivial
    have start : part <:+: decodeFrom .start (b :: rest) ↔ Bytes.ofChars part <:+: b :: rest := by
      rcases first_cases b.toNat with ⟨low, hfirst⟩ | ⟨high, next, hnext, _, hfirst⟩ |
        ⟨high, hfirst⟩
      · have whole : part <+: decodeFrom .start (b :: rest) ↔ _ := prefix_decodeFrom_iff ascii
        rw [decodeFrom_ascii low] at whole ⊢
        rw [List.infix_cons_iff, List.infix_cons_iff, whole, behind]
      · rw [decodeFrom, step, hfirst, skip' high]
        exact ih hnext
      · rw [decodeFrom, step, hfirst, skip' high]
        exact (skip (by decide)).trans behind
    cases state with
    | start => exact start
    | within owed low high code =>
      rcases within_cases proper b.toNat with
        ⟨above, next, hnext, _, hstep⟩ | ⟨above, c, hc, hstep⟩ | hstep
      · rw [decodeFrom, hstep, skip' above]
        exact ih hnext
      · rw [decodeFrom, hstep, skip' above]
        exact (skip hc).trans behind
      · rw [decodeFrom, hstep]
        exact (skip (by decide)).trans start

/-- Plain text is found in the text of some bytes if and only if its bytes are found
in them. -/
theorem infix_decodeChars_iff (ascii : ∀ c ∈ part, IsAscii c) (ne : part ≠ []) (bytes : Bytes) :
    part <:+: decodeChars bytes ↔ Bytes.ofChars part <:+: bytes := by
  have start : State.start.Proper := trivial
  rw [decodeChars_eq]
  exact infix_decodeFrom_iff ascii ne start

end Plain

/-! ## Encoded text -/

section Encoded

variable {b : UInt8} {rest : Bytes} {owed low high code : Nat}

theorem decodeFrom_lead {state : State} (high : 0x80 ≤ b.toNat) (h : lead? b.toNat = some state) :
    decodeFrom .start (b :: rest) = decodeFrom state rest := by
  have above : ¬b.toNat ≤ 0x7F := by omega
  rw [decodeFrom, step, first, if_neg above, h]
  rfl

theorem decodeFrom_next (inside : low ≤ b.toNat ∧ b.toNat ≤ high) :
    decodeFrom (.within (owed + 1) low high code) (b :: rest) =
      decodeFrom (.within owed 0x80 0xBF (code * 64 + (b.toNat - 0x80))) rest := by
  rw [decodeFrom, step, if_pos inside]
  rfl

theorem decodeFrom_last (inside : low ≤ b.toNat ∧ b.toNat ≤ high) :
    decodeFrom (.within 0 low high code) (b :: rest) =
      Char.ofNat (code * 64 + (b.toNat - 0x80)) :: decodeFrom .start rest := by
  rw [decodeFrom, step, if_pos inside]
  rfl

theorem lead?_two {b : Nat} (inside : 0xC2 ≤ b ∧ b ≤ 0xDF) :
    lead? b = some (.within 0 0x80 0xBF (b - 0xC0)) := by
  rw [lead?, if_pos inside]

/-- Where the reader stands behind the first byte of three. -/
theorem lead?_three {b : Nat} (inside : 0xE0 ≤ b ∧ b ≤ 0xEF) :
    lead? b = some (.within 1 (if b = 0xE0 then 0xA0 else 0x80) (if b = 0xED then 0x9F else 0xBF)
      (b - 0xE0)) := by
  have two : ¬(0xC2 ≤ b ∧ b ≤ 0xDF) := by omega
  rw [lead?, if_neg two]
  by_cases overlong : b = 0xE0
  · subst overlong; rfl
  by_cases surrogate : b = 0xED
  · subst surrogate; rfl
  have three : 0xE1 ≤ b ∧ b ≤ 0xEF := by omega
  rw [if_neg overlong, if_neg surrogate, if_pos three, if_neg overlong, if_neg surrogate]

/-- Where the reader stands behind the first byte of four. -/
theorem lead?_four {b : Nat} (inside : 0xF0 ≤ b ∧ b ≤ 0xF4) :
    lead? b = some (.within 2 (if b = 0xF0 then 0x90 else 0x80) (if b = 0xF4 then 0x8F else 0xBF)
      (b - 0xF0)) := by
  have few : ¬(0xC2 ≤ b ∧ b ≤ 0xDF) ∧ b ≠ 0xE0 ∧ b ≠ 0xED ∧ ¬(0xE1 ≤ b ∧ b ≤ 0xEF) := by omega
  obtain ⟨two, overlong, surrogate, three⟩ := few
  rw [lead?, if_neg two, if_neg overlong, if_neg surrogate, if_neg three]
  by_cases least : b = 0xF0
  · subst least; rfl
  by_cases greatest : b = 0xF4
  · subst greatest; rfl
  have four : 0xF1 ≤ b ∧ b ≤ 0xF3 := by omega
  rw [if_neg least, if_pos four, if_neg least, if_neg greatest]

theorem toNat_byte {n : Nat} (h : n < 256) : (UInt8.ofNat n).toNat = n := by
  rw [UInt8.toNat_ofNat', Nat.mod_eq_of_lt h]

/-- A character is read back from its bytes, and the reader is between characters
again. -/
theorem decodeFrom_utf8EncodeChar (c : Char) (rest : Bytes) :
    decodeFrom .start (String.utf8EncodeChar c ++ rest) = c :: decodeFrom .start rest := by
  have valid : c.toNat < 0xD800 ∨ (0xDFFF < c.toNat ∧ c.toNat < 0x110000) := c.valid
  have code : Char.ofNat c.toNat = c := Char.ofNat_toNat c
  simp only [String.utf8EncodeChar, show c.val.toNat = c.toNat from rfl]
  generalize c.toNat = v at valid code
  subst code
  by_cases one : v ≤ 0x7F
  · have byte : (UInt8.ofNat v).toNat = v := toNat_byte (by omega)
    rw [if_pos one, List.singleton_append, decodeFrom_ascii (by omega), byte]
  rw [if_neg one]
  -- The last bytes all have six bits, and the first one has what is left.
  have low : (UInt8.ofNat (v % 64 + 128)).toNat = v % 64 + 128 := toNat_byte (by omega)
  have middle : (UInt8.ofNat (v / 64 % 64 + 128)).toNat = v / 64 % 64 + 128 :=
    toNat_byte (by omega)
  by_cases two : v ≤ 0x7FF
  · have top : (UInt8.ofNat (v / 64 % 32 + 192)).toNat = v / 64 % 32 + 192 := toNat_byte (by omega)
    have lead := (lead?_two (by omega) : lead? (v / 64 % 32 + 192) = _)
    have value : (v / 64 % 32 + 192 - 0xC0) * 64 + (v % 64 + 128 - 0x80) = v := by omega
    rw [if_pos two, List.cons_append, decodeFrom_lead (by omega) (top ▸ lead), List.cons_append,
      decodeFrom_last (by omega), top, low, List.nil_append, value]
  rw [if_neg two]
  by_cases three : v ≤ 0xFFFF
  · have top : (UInt8.ofNat (v / 4096 % 16 + 224)).toNat = v / 4096 % 16 + 224 :=
      toNat_byte (by omega)
    have lead := (lead?_three (by omega) : lead? (v / 4096 % 16 + 224) = _)
    have value : ((v / 4096 % 16 + 224 - 0xE0) * 64 + (v / 64 % 64 + 128 - 0x80)) * 64 +
        (v % 64 + 128 - 0x80) = v := by omega
    rw [if_pos three, List.cons_append, decodeFrom_lead (by omega) (top ▸ lead), List.cons_append,
      decodeFrom_next (by split <;> split <;> omega), List.cons_append, decodeFrom_last (by omega),
      top, middle, low, List.nil_append, value]
  · have top : (UInt8.ofNat (v / 262144 % 8 + 240)).toNat = v / 262144 % 8 + 240 :=
      toNat_byte (by omega)
    have upper : (UInt8.ofNat (v / 4096 % 64 + 128)).toNat = v / 4096 % 64 + 128 :=
      toNat_byte (by omega)
    have lead := (lead?_four (by omega) : lead? (v / 262144 % 8 + 240) = _)
    have value : (((v / 262144 % 8 + 240 - 0xF0) * 64 + (v / 4096 % 64 + 128 - 0x80)) * 64 +
        (v / 64 % 64 + 128 - 0x80)) * 64 + (v % 64 + 128 - 0x80) = v := by omega
    rw [if_neg three, List.cons_append, decodeFrom_lead (by omega) (top ▸ lead), List.cons_append,
      decodeFrom_next (by split <;> split <;> omega), List.cons_append, decodeFrom_next (by omega),
      List.cons_append, decodeFrom_last (by omega), top, upper, middle, low,
      List.nil_append, value]

theorem decodeFrom_ofChars (text : List Char) (rest : Bytes) :
    decodeFrom .start (Bytes.ofChars text ++ rest) = text ++ decodeFrom .start rest := by
  induction text with
  | nil => rfl
  | cons c text ih =>
    have split : Bytes.ofChars (c :: text) = String.utf8EncodeChar c ++ Bytes.ofChars text := rfl
    rw [split, List.append_assoc, decodeFrom_utf8EncodeChar, ih, List.cons_append]

/-- A text is read back from its bytes. -/
theorem decode_ofString (text : String) : decode (Bytes.ofString text) = text := by
  have chars : decodeFrom .start (Bytes.ofString text ++ []) = text.toList ++ [] :=
    decodeFrom_ofChars text.toList []
  rw [List.append_nil, List.append_nil] at chars
  rw [decode, decodeChars_eq, chars, String.ofList_toList]

/-- Two texts with the same bytes are the same. -/
theorem ofString_injective {text other : String}
    (same : Bytes.ofString text = Bytes.ofString other) : text = other := by
  rw [← decode_ofString text, same, decode_ofString]

/-- A character of ASCII is in a decoded text if and only if its byte is in the
bytes. -/
theorem mem_decode_iff {c : Char} (ascii : IsAscii c) (bytes : Bytes) :
    c ∈ (decode bytes).toList ↔ UInt8.ofNat c.toNat ∈ bytes := by
  have single : [c] <:+: decodeChars bytes ↔ Bytes.ofChars [c] <:+: bytes :=
    infix_decodeChars_iff (by simpa using ascii) (List.cons_ne_nil c []) bytes
  rw [ofChars_cons_ascii ascii] at single
  rw [decode, String.toList_ofList, ← List.singleton_infix_iff, single]
  exact List.singleton_infix_iff _ _

theorem mem_ofString_iff {c : Char} (ascii : IsAscii c) (text : String) :
    UInt8.ofNat c.toNat ∈ Bytes.ofString text ↔ c ∈ text.toList := by
  rw [← mem_decode_iff ascii, decode_ofString]

end Encoded

end Utf8

end StagedBuild
