import Mathlib
import LatheGloss.Json.Writer
import LatheGloss.Proofs.Json.Beginnings
import LatheGloss.Proofs.Text.Classes

/-! Written strings and integers are read back. A string is read character by character, each
with its escape; an integer is read up to the first character that cannot belong to it.
-/

namespace LatheGloss.Json

-----------------------------------------------------------------------------------------
-- Strings
-----------------------------------------------------------------------------------------

theorem hexDigit?_lowerHexDigit
    : ∀ n < 16, hexDigit? (lowerHexDigit n) = some n := by
  decide

/-- A control is read back from its four digits, of which the first two are zeros. -/
theorem hexQuad?_control {n : Nat} (control : n < 32) (rest : Text)
    : hexQuad? ('0' :: '0' :: lowerHexDigit (n / 16) :: lowerHexDigit (n % 16) :: rest)
      = some (n, rest) := by
  have zero : hexDigit? '0' = some 0 := by decide
  have high := hexDigit?_lowerHexDigit (n / 16) (by omega)
  have low := hexDigit?_lowerHexDigit (n % 16) (by omega)
  simp only [hexQuad?, zero, high, low, Option.bind_eq_bind, Option.bind_some, Option.pure_def,
    Option.some.injEq, Prod.mk.injEq, and_true]
  omega

/-- The escape of a control is read back if something follows it. -/
theorem scanUnicodeEscape_control {c : Character} (control : c.toNat < 32) {rest : Text}
    (more : rest ≠ [])
    : scanUnicodeEscape
        ('u' :: '0' :: '0' :: lowerHexDigit (c.toNat / 16) :: lowerHexDigit (c.toNat % 16) :: rest)
      = .ok (c, rest) := by
  have quad := hexQuad?_control control rest
  have single : isHighSurrogate c.toNat = false := by
    simp only [isHighSurrogate, Bool.and_eq_false_iff, decide_eq_false_iff_not]
    omega
  unfold scanUnicodeEscape
  rw [List.tail_cons, quad]
  split
  · next code second found =>
      obtain ⟨rfl, rfl⟩ := Prod.mk.inj (Option.some.inj found)
      simp [single, Character.ofNat_toNat]
  · next code head tail _ found =>
      obtain ⟨rfl, rfl⟩ := Prod.mk.inj (Option.some.inj found)
      rw [Character.ofNat_toNat]
  · next _ none =>
      cases rest with
      | nil => exact absurd rfl more
      | cons head tail => exact absurd rfl (none c.toNat head tail)

theorem scanChar_plain (opening : Text) {c : Character} (rest : Text) (plain : c ≠ '\\')
    (printed : ¬c.toNat < 32)
    : scanChar opening (c :: rest) = .ok (c, rest) := by
  unfold scanChar
  split
  · next empty => cases empty
  · next escape => exact absurd (List.cons.inj escape).1 plain
  · next escape => exact absurd (List.cons.inj escape).1 plain
  · next escape => exact absurd (List.cons.inj escape).1 plain
  · next found =>
      obtain ⟨rfl, rfl⟩ := List.cons.inj found
      rw [if_neg printed]

/-- A written character is read back, by the cases of the escapes in the writer's order. -/
theorem scanChar_escapeChar (opening : Text) (c : Character) {rest : Text} (more : rest ≠ [])
    : scanChar opening (escapeChar c ++ rest) = .ok (c, rest) := by
  by_cases quote : c = '"'
  · subst c
    rfl
  by_cases backslash : c = '\\'
  · subst c
    rfl
  by_cases short : c = '\n' ∨ c = '\r' ∨ c = '\t' ∨ c = '\x0c' ∨ c = '\x08'
  · rcases short with rfl | rfl | rfl | rfl | rfl <;> rfl
  obtain ⟨newline, ret, tab, feed, back⟩ := by simpa only [not_or] using short
  simp only [escapeChar, quote, backslash, newline, ret, tab, feed, back, if_false]
  by_cases control : c.toNat < 32
  · rw [if_pos control]
    exact scanUnicodeEscape_control control more
  · rw [if_neg control]
    exact scanChar_plain opening rest backslash control

theorem head?_escapeChar_append (c : Character) (rest : Text)
    : (escapeChar c ++ rest).head? ≠ some ('"' : Character) := by
  unfold escapeChar
  repeat' split
  all_goals simp_all

/-- One more character of a string, if the string does not end here. -/
theorem scanString_step {opening text rest : Text} {c : Character} (read : Text)
    (within : text.head? ≠ some ('"' : Character)) (found : scanChar opening text = .ok (c, rest))
    : scanString opening read text = scanString opening (c :: read) rest := by
  rw [scanString.eq_def]
  split
  · simp at within
  · split
    · next scanned =>
        obtain ⟨rfl, rfl⟩ := Prod.mk.inj (Except.ok.inj (found.symm.trans scanned))
        rfl
    · next scanned => cases found.symm.trans scanned

/-- A written string is read back up to its closing quote, by induction over the string. -/
theorem scanString_escaped (opening read text rest : Text)
    : scanString opening read (text.flatMap escapeChar ++ ↑ '"' :: rest)
      = .ok (read.reverse ++ text, rest) := by
  induction text generalizing read with
  | nil =>
      rw [List.flatMap_nil, List.nil_append, scanString]
      simp
  | cons c tail ih =>
      have within := head?_escapeChar_append c (tail.flatMap escapeChar ++ ↑ '"' :: rest)
      have more : tail.flatMap escapeChar ++ ↑ '"' :: rest ≠ [] := by simp
      have found := scanChar_escapeChar opening c more
      rw [List.flatMap_cons, List.append_assoc, scanString_step read within found, ih]
      simp

theorem scanWith_writeString (item : Container → Text → Scan Json) (text rest : Text)
    : scanWith item (writeString text ++ rest) = .ok (.str text, rest) := by
  rw [writeString, List.cons_append, List.cons_append, scanWith_quote]
  simp [scanString_escaped, Except.map]

-----------------------------------------------------------------------------------------
-- Integers
-----------------------------------------------------------------------------------------

/-- The text goes on with nothing that could belong to an integer before it. -/
def EndsNumeral (rest : Text) : Prop :=
  ∀ c ∈ rest.head?, c.isDigit = false ∧ c ≠ '.' ∧ c ≠ 'e' ∧ c ≠ 'E'

theorem isDigit_of_mem_ofNat {n : Nat} {c : Character} (member : c ∈ Text.ofNat n)
    : c.isDigit = true := by
  obtain ⟨digit, among, rfl⟩ := List.mem_map.mp member
  rw [Character.isDigit_scalar]
  exact Nat.isDigit_of_mem_toDigits (by decide) (by decide) among

theorem ofNat_ne_nil (n : Nat)
    : Text.ofNat n ≠ [] :=
  mt List.map_eq_nil_iff.mp Nat.toDigits_ne_nil

/-- A positive number is not written with a leading zero, by induction over its digits. -/
theorem head?_ofNat {n : Nat} (positive : 0 < n)
    : (Text.ofNat n).head? ≠ some ('0' : Character) := by
  induction n using Nat.strongRecOn with
  | ind n ih =>
      by_cases small : n < 10
      · rw [Text.ofNat, Nat.toDigits_of_lt_base small]
        simp only [List.map_cons, List.head?_cons, ne_eq, Option.some.injEq, Character.scalar.injEq,
          Nat.digitChar_eq_zero]
        omega
      · have shorter := ih (n / 10) (by omega) (by omega)
        have digits : Text.ofNat n = Text.ofNat (n / 10) ++ [.scalar (Nat.digitChar (n % 10))] := by
          rw [Text.ofNat, Nat.toDigits_of_base_le (by decide) (by omega), List.map_append]
          rfl
        rwa [digits, List.head?_append_of_ne_nil _ (ofNat_ne_nil (n / 10))]

theorem span_isDigit {digits rest : Text} (all : ∀ c ∈ digits, c.isDigit = true)
    (ends : EndsNumeral rest)
    : (digits ++ rest).span Character.isDigit = (digits, rest) :=
  IsRun.span_append ⟨all, fun c first => (ends c first).1⟩

theorem exists_digit_cons (n : Nat)
    : ∃ c tail, Text.ofNat n = c :: tail ∧ c.isDigit = true := by
  cases spelled : Text.ofNat n with
  | nil => exact absurd spelled (ofNat_ne_nil n)
  | cons c tail =>
      exact ⟨c, tail, rfl, isDigit_of_mem_ofNat (spelled ▸ List.mem_cons_self)⟩

theorem scanWhole?_ofNat (n : Nat) {rest : Text} (ends : EndsNumeral rest)
    : scanWhole? (Text.ofNat n ++ rest) = some (Text.ofNat n, rest) := by
  rcases Nat.eq_zero_or_pos n with rfl | positive
  · rfl
  · have noZero := head?_ofNat positive
    have span := span_isDigit (fun c => isDigit_of_mem_ofNat (n := n) (c := c)) ends
    obtain ⟨c, tail, spelled, digit⟩ := exists_digit_cons n
    rw [spelled] at noZero span ⊢
    have other : c ≠ '0' := fun same => noZero (same ▸ rfl)
    rw [List.cons_append, scanWhole?, if_neg other, if_pos digit, ← List.cons_append, span]

theorem scanFraction_of_ends {rest : Text} (ends : EndsNumeral rest)
    : scanFraction rest = ([], rest) := by
  unfold scanFraction
  split
  · exact absurd rfl (ends '.' rfl).2.1
  · rfl

theorem scanExponent_of_ends {rest : Text} (ends : EndsNumeral rest)
    : scanExponent rest = (none, rest) := by
  unfold scanExponent
  split
  · next c tail =>
      obtain ⟨-, -, lower, upper⟩ := ends c rfl
      rw [if_neg (by simp [lower, upper])]
  · rfl

theorem digitsValue_ofNat (n : Nat)
    : digitsValue (Text.ofNat n) = n := by
  rw [digitsValue, Text.ofNat, List.foldl_map]
  exact Nat.ofDigitChars_ten_toDigits

/-- The numeral of an integer: a sign and digits. -/
def Numeral.ofInt (value : Int) : Numeral where
  negative := value < 0
  whole := Text.ofNat value.natAbs
  fraction := []
  exponent := none

theorem scanNumeral?_ofInt (value : Int) {rest : Text} (ends : EndsNumeral rest)
    : scanNumeral? (Text.ofInt value ++ rest) = some (.ofInt value, rest) := by
  cases value with
  | ofNat n =>
      have numeral : Numeral.ofInt (.ofNat n) = ⟨false, Text.ofNat n, [], none⟩ := by
        simp [Numeral.ofInt]
      have whole := scanWhole?_ofNat n ends
      obtain ⟨c, tail, spelled, digit⟩ := exists_digit_cons n
      have noSign : c ≠ '-' := by
        rintro rfl
        cases digit
      rw [spelled, List.cons_append] at whole
      rw [numeral, Text.ofInt, spelled, List.cons_append, scanNumeral?]
      · simp [whole, scanFraction_of_ends ends, scanExponent_of_ends ends]
      · intro _ same
        exact noSign (List.cons.inj same).1
  | negSucc n =>
      have numeral : Numeral.ofInt (.negSucc n) = ⟨true, Text.ofNat (n + 1), [], none⟩ := by
        simp [Numeral.ofInt, Int.natAbs_negSucc]
      have whole := scanWhole?_ofNat (n + 1) ends
      rw [numeral, Text.ofInt, List.cons_append, scanNumeral?]
      simp [whole, scanFraction_of_ends ends, scanExponent_of_ends ends]

theorem Numeral.value?_ofInt {value : Int}
    (short : (Text.ofNat value.natAbs).length ≤ digitLimit)
    : (Numeral.ofInt value).value? = .ok (.int value) := by
  have plain : (Numeral.ofInt value).isInteger = true := rfl
  have fits : ¬digitLimit < (Numeral.ofInt value).whole.length := Nat.not_lt.mpr short
  have same : (Numeral.ofInt value).integer = value := by
    simp only [Numeral.integer, Numeral.ofInt, digitsValue_ofNat, decide_eq_true_eq]
    split <;> omega
  rw [Numeral.value?, plain, Bool.not_true, if_neg Bool.false_ne_true, if_neg fits, same]

theorem scanNumber_ofInt {value : Int}
    (short : (Text.ofNat value.natAbs).length ≤ digitLimit) {rest : Text}
    (ends : EndsNumeral rest)
    : scanNumber (Text.ofInt value ++ rest) = .ok (.int value, rest) := by
  simp only [scanNumber, scanNumeral?_ofInt value ends, Numeral.value?_ofInt short]
  rfl

/-- A written integer is read back, whatever its sign and size, if the reader takes so many
digits and the text after it does not go on with the numeral.
-/
theorem scanWith_ofInt (item : Container → Text → Scan Json) {value : Int}
    (short : (Text.ofNat value.natAbs).length ≤ digitLimit) {rest : Text}
    (ends : EndsNumeral rest)
    : scanWith item (Text.ofInt value ++ rest) = .ok (.int value, rest) := by
  have number := scanNumber_ofInt short ends
  cases value with
  | ofNat n =>
      obtain ⟨c, tail, spelled, digit⟩ := exists_digit_cons n
      rw [Text.ofInt, spelled, List.cons_append] at number ⊢
      rw [scanWith_of_numeral item rfl (.inr digit) List.mem_cons_self digit, number]
  | negSucc n =>
      obtain ⟨c, tail, spelled, digit⟩ := exists_digit_cons (n + 1)
      rw [Text.ofInt, spelled, List.cons_append, List.cons_append] at number ⊢
      rw [scanWith_of_numeral item rfl (.inl rfl) (by simp) digit, number]

end LatheGloss.Json
