import Mathlib
import LatheGloss.Proofs.Text.Character
import LatheGloss.Text.Utf8

/-! The bytes of a text spell that text. A character takes one to four bytes by its code point,
and in each range the lead byte and the following ones give back its bits.
-/

namespace LatheGloss.Text.Utf8

theorem toNat_ofNat {n : Nat} (byte : n < 256)
    : (UInt8.ofNat n).toNat = n := by
  rw [UInt8.toNat_ofNat', Nat.mod_eq_of_lt byte]

/-- One following byte brings six more bits. -/
theorem complete_cons {low high bits : Nat} (six : bits < 0x40)
    (within : low ≤ bits + 0x80 ∧ bits + 0x80 ≤ high) (taken value following : Nat)
    (rest : List UInt8)
    : complete low high taken value (following + 1) (UInt8.ofNat (bits + 0x80) :: rest)
      = complete 0x80 0xBF (taken + 1) (value * 0x40 + bits) following rest := by
  rw [complete, toNat_ofNat (by omega), if_pos within, Nat.add_sub_cancel]

theorem complete_cons_plain {bits : Nat} (six : bits < 0x40) (taken value following : Nat)
    (rest : List UInt8)
    : complete 0x80 0xBF taken value (following + 1) (UInt8.ofNat (bits + 0x80) :: rest)
      = complete 0x80 0xBF (taken + 1) (value * 0x40 + bits) following rest :=
  complete_cons six (by omega) taken value following rest

theorem decodeChar_of_lead {byte : UInt8} {lead : Lead} (found : lead? byte = some lead)
    {rest after : List UInt8} {c : Character}
    (completed : complete lead.low lead.high 1 lead.bits lead.following rest
      = .ok (c.toNat, after))
    : decodeChar byte rest = .ok (c, after) := by
  rw [decodeChar, found]
  simp only [completed, Except.map, Character.ofNat_toNat]

-----------------------------------------------------------------------------------------
-- Lead bytes
-----------------------------------------------------------------------------------------

theorem lead?_one {code : Nat} (range : code < 0x80)
    : lead? (UInt8.ofNat code) = some ⟨code, 0, 0x80, 0xBF⟩ := by
  rw [lead?, toNat_ofNat (by omega)]
  simp only [range, if_true]

theorem lead?_two {bits : Nat} (range : 2 ≤ bits ∧ bits < 0x20)
    : lead? (UInt8.ofNat (bits + 0xC0)) = some ⟨bits, 1, 0x80, 0xBF⟩ := by
  rw [lead?, toNat_ofNat (by omega)]
  rw [if_neg (by omega), if_neg (by omega), if_pos (by omega), Nat.add_sub_cancel]

/-- The byte after a lead byte of three: overlong forms and surrogates are left out. -/
theorem lead?_three {bits : Nat} (range : bits < 0x10)
    : lead? (UInt8.ofNat (bits + 0xE0))
      = some ⟨bits, 2, if bits = 0 then 0xA0 else 0x80, if bits = 0xD then 0x9F else 0xBF⟩ := by
  rw [lead?, toNat_ofNat (by omega)]
  rw [if_neg (by omega), if_neg (by omega), if_neg (by omega)]
  by_cases first : bits = 0
  · subst bits
    rfl
  by_cases surrogate : bits = 0xD
  · subst bits
    rfl
  rw [if_neg (by omega), if_neg (by omega), if_pos (by omega), if_neg first, if_neg surrogate,
    Nat.add_sub_cancel]

/-- The byte after a lead byte of four: overlong forms and what lies beyond the last character
are left out.
-/
theorem lead?_four {bits : Nat} (range : bits < 5)
    : lead? (UInt8.ofNat (bits + 0xF0))
      = some ⟨bits, 3, if bits = 0 then 0x90 else 0x80, if bits = 4 then 0x8F else 0xBF⟩ := by
  rw [lead?, toNat_ofNat (by omega)]
  interval_cases bits <;> rfl

-----------------------------------------------------------------------------------------
-- Characters and texts
-----------------------------------------------------------------------------------------

/-- A character is read from its own bytes, by cases of how many there are. -/
theorem decodeChar_utf8EncodeChar (c : Char) (rest : List UInt8)
    : ∃ byte following, String.utf8EncodeChar c = byte :: following
      ∧ decodeChar byte (following ++ rest) = .ok (.scalar c, rest) := by
  have valid : c.toNat < 0xD800 ∨ 0xDFFF < c.toNat ∧ c.toNat < 0x110000 := c.valid
  have code : c.val.toNat = c.toNat := rfl
  rw [String.utf8EncodeChar, code]
  by_cases one : c.toNat ≤ 0x7F
  · rw [if_pos one]
    exact ⟨_, _, rfl, decodeChar_of_lead (lead?_one (by omega)) rfl⟩
  rw [if_neg one]
  by_cases two : c.toNat ≤ 0x7FF
  · rw [if_pos two]
    refine ⟨_, _, rfl, decodeChar_of_lead (lead?_two (by omega)) ?_⟩
    have bits : c.toNat / 64 % 32 * 64 + c.toNat % 64 = c.toNat := by omega
    rw [List.cons_append, complete_cons_plain (by omega), bits]
    rfl
  rw [if_neg two]
  by_cases three : c.toNat ≤ 0xFFFF
  · rw [if_pos three]
    refine ⟨_, _, rfl, decodeChar_of_lead (lead?_three (by omega)) ?_⟩
    have bits : (c.toNat / 4096 % 16 * 64 + c.toNat / 64 % 64) * 64 + c.toNat % 64 = c.toNat := by
      omega
    rw [List.cons_append, complete_cons (by omega) (by dsimp only; split <;> split <;> omega),
      List.cons_append, complete_cons_plain (by omega), bits]
    rfl
  · rw [if_neg three]
    refine ⟨_, _, rfl, decodeChar_of_lead (lead?_four (by omega)) ?_⟩
    have bits : ((c.toNat / 262144 % 8 * 64 + c.toNat / 4096 % 64) * 64 + c.toNat / 64 % 64) * 64
        + c.toNat % 64 = c.toNat := by
      omega
    rw [List.cons_append, complete_cons (by omega) (by dsimp only; split <;> split <;> omega),
      List.cons_append, complete_cons_plain (by omega), List.cons_append,
      complete_cons_plain (by omega), bits]
    rfl

/-- One more character is read. -/
theorem decodeFrom_step (total : Nat) (read : Text) {byte : UInt8} {rest after : List UInt8}
    {c : Character} (decoded : decodeChar byte rest = .ok (c, after))
    : decodeFrom total read (byte :: rest) = decodeFrom total (c :: read) after := by
  rw [decodeFrom]
  split
  · next found =>
      obtain ⟨rfl, rfl⟩ := Prod.mk.inj (Except.ok.inj (decoded.symm.trans found))
      rfl
  · next found => cases decoded.symm.trans found

/-- A text of scalar values is read back from its bytes behind whatever was read before, by
induction over the text.
-/
theorem decodeFrom_bytes (total : Nat) (read : Text) {text : Text}
    (scalar : ∀ c ∈ text, c.isScalar = true)
    : decodeFrom total read (bytes text) = .ok (read.reverse ++ text) := by
  induction text generalizing read with
  | nil =>
      rw [bytes, List.flatMap_nil, decodeFrom, List.append_nil]
  | cons c rest ih =>
      obtain ⟨here, later⟩ := List.forall_mem_cons.mp scalar
      cases c with
      | surrogate index => cases here
      | scalar c =>
          obtain ⟨byte, following, own, decoded⟩ := decodeChar_utf8EncodeChar c (bytes rest)
          have split : bytes (.scalar c :: rest) = byte :: (following ++ bytes rest) := by
            rw [bytes, List.flatMap_cons, bytesOf, own]
            rfl
          rw [split, decodeFrom_step total read decoded, ih _ later, List.reverse_cons,
            List.append_assoc]
          rfl

-----------------------------------------------------------------------------------------
-- Texts that can be encoded
-----------------------------------------------------------------------------------------

theorem unencodable?_eq_none_iff {allowed : Character → Bool} {text : Text}
    : unencodable? allowed text = none ↔ ∀ c ∈ text, allowed c = true := by
  rw [← List.dropWhile_eq_nil_iff, unencodable?]
  split
  · next none => exact iff_of_true rfl none
  · next some => exact iff_of_false (by simp) (by simp [some])

theorem encode_eq_ok_iff {text : Text} {encoded : List UInt8}
    : encode text = .ok encoded ↔ (∀ c ∈ text, c.isScalar = true) ∧ bytes text = encoded := by
  rw [← unencodable?_eq_none_iff, encode]
  cases unencodable? Character.isScalar text <;> simp

theorem decode_of_encode {text : Text} {encoded : List UInt8}
    (done : encode text = .ok encoded)
    : decode encoded = .ok text := by
  obtain ⟨scalar, rfl⟩ := encode_eq_ok_iff.mp done
  exact decodeFrom_bytes _ [] scalar

/-- Texts are encoded one after the other just when they are encoded all in one, by induction over
the texts.
-/
theorem encodeAll_eq_iff {texts : List Text} {encoded : List UInt8}
    : encodeAll texts = (encoded, none) ↔ encode texts.flatten = .ok encoded := by
  induction texts generalizing encoded with
  | nil =>
      rw [List.flatten_nil, encode_eq_ok_iff]
      simp [encodeAll, bytes]
  | cons text rest ih =>
      rw [encodeAll, encode_eq_ok_iff, List.flatten_cons, List.forall_mem_append, bytes,
        List.flatMap_append]
      cases first : encode text with
      | error fault =>
          have wrong : ¬∀ c ∈ text, c.isScalar = true := fun scalar => by
            rw [encode_eq_ok_iff.mpr ⟨scalar, rfl⟩] at first
            cases first
          simp [wrong]
      | ok own =>
          obtain ⟨scalar, rfl⟩ := encode_eq_ok_iff.mp first
          dsimp only
          generalize others : encodeAll rest = result at ih
          obtain ⟨more, fault⟩ := result
          constructor
          · intro same
            obtain ⟨rfl, rfl⟩ := Prod.mk.inj same
            obtain ⟨later, spelled⟩ := encode_eq_ok_iff.mp (ih.mp rfl)
            exact ⟨⟨scalar, later⟩, congrArg (bytes text ++ ·) spelled⟩
          · rintro ⟨⟨-, later⟩, rfl⟩
            obtain ⟨rfl, rfl⟩ := Prod.mk.inj (ih.mpr (encode_eq_ok_iff.mpr ⟨later, rfl⟩))
            rfl

end LatheGloss.Text.Utf8
