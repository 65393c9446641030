import Mathlib
import LatheGloss.Text.Basic

/-! Characters and their code points. Each character has a code point of its own, and each code
point below the first one beyond Unicode is that of a character. What is known of the letters and
digits of ASCII is known by their code points.
-/

namespace LatheGloss.Character

@[simp]
theorem toNat_scalar (c : Char)
    : (scalar c).toNat = c.toNat :=
  rfl

@[simp]
theorem scalar_le_scalar {c d : Char}
    : scalar c ≤ scalar d ↔ c ≤ d :=
  Char.le_def.trans UInt32.le_iff_toNat_le |>.symm

theorem ofNat_toNat (c : Character)
    : ofNat c.toNat = c := by
  cases c with
  | scalar c =>
      have valid : c.toNat < 0xD800 ∨ 0xDFFF < c.toNat ∧ c.toNat < 0x110000 := c.valid
      rw [toNat_scalar, ofNat, dif_neg (by omega), Char.ofNat_toNat]
  | surrogate index =>
      have inside : 0xD800 ≤ 0xD800 + index.val ∧ 0xD800 + index.val < 0xE000 := by omega
      simp only [toNat, ofNat, dif_pos inside, Nat.add_sub_cancel_left]

theorem toNat_ofNat {code : Nat} (known : code < 0x110000)
    : (ofNat code).toNat = code := by
  unfold ofNat
  split
  · next inside =>
      simp only [toNat]
      omega
  · next outside =>
      have valid : code.isValidChar := by
        unfold Nat.isValidChar
        omega
      rw [toNat_scalar, Char.toNat_ofNat, if_pos valid]

theorem toNat_injective
    : Function.Injective toNat :=
  Function.LeftInverse.injective ofNat_toNat

theorem isScalar_of_lt {c : Character} (low : c.toNat < 0xD800)
    : c.isScalar = true := by
  cases c with
  | scalar c => rfl
  | surrogate index =>
      simp only [toNat] at low
      omega

instance : LinearOrder Character where
  le_refl c := Nat.le_refl c.toNat
  le_trans _ _ _ := Nat.le_trans
  le_antisymm _ _ below above := toNat_injective (Nat.le_antisymm below above)
  le_total left right := Nat.le_total left.toNat right.toNat
  lt_iff_le_not_ge _ _ := Nat.lt_iff_le_and_not_ge
  toDecidableLE := inferInstance

-----------------------------------------------------------------------------------------
-- Letters and digits of ASCII
-----------------------------------------------------------------------------------------

section Classes

variable {c : Character}

theorem isDigit_iff
    : c.isDigit = true ↔ 48 ≤ c.toNat ∧ c.toNat ≤ 57 := by
  rw [isDigit, Bool.and_eq_true, decide_eq_true_iff, decide_eq_true_iff]
  exact Iff.rfl

theorem isUpper_iff
    : c.isUpper = true ↔ 65 ≤ c.toNat ∧ c.toNat ≤ 90 := by
  rw [isUpper, Bool.and_eq_true, decide_eq_true_iff, decide_eq_true_iff]
  exact Iff.rfl

theorem isLower_iff
    : c.isLower = true ↔ 97 ≤ c.toNat ∧ c.toNat ≤ 122 := by
  rw [isLower, Bool.and_eq_true, decide_eq_true_iff, decide_eq_true_iff]
  exact Iff.rfl

theorem isAlpha_iff
    : c.isAlpha = true ↔ c.isUpper = true ∨ c.isLower = true := by
  rw [isAlpha, Bool.or_eq_true]

-- Among the scalar values these are the classes of strings.

@[simp]
theorem isDigit_scalar (c : Char)
    : (scalar c).isDigit = c.isDigit := by
  rw [Bool.eq_iff_iff, isDigit_iff, Char.isDigit, Bool.and_eq_true, decide_eq_true_iff,
    decide_eq_true_iff]
  exact Iff.rfl

@[simp]
theorem isUpper_scalar (c : Char)
    : (scalar c).isUpper = c.isUpper := by
  rw [Bool.eq_iff_iff, isUpper_iff, Char.isUpper, decide_eq_true_iff]
  exact Iff.rfl

@[simp]
theorem isLower_scalar (c : Char)
    : (scalar c).isLower = c.isLower := by
  rw [Bool.eq_iff_iff, isLower_iff, Char.isLower, Bool.and_eq_true, decide_eq_true_iff,
    decide_eq_true_iff]
  exact Iff.rfl

@[simp]
theorem isAlpha_scalar (c : Char)
    : (scalar c).isAlpha = c.isAlpha := by
  rw [isAlpha, isUpper_scalar, isLower_scalar, Char.isAlpha]

theorem not_isUpper_of_isLower (lower : c.isLower = true)
    : ¬c.isUpper = true := by
  rw [isUpper_iff]
  rw [isLower_iff] at lower
  omega

theorem toUpper_eq_of_isLower (lower : c.isLower = true)
    : c.toUpper = ofNat (c.toNat - 32) :=
  if_pos lower

theorem toUpper_eq_of_not_isLower (other : ¬c.isLower = true)
    : c.toUpper = c :=
  if_neg other

theorem toLower_eq_of_not_isUpper (other : ¬c.isUpper = true)
    : c.toLower = c :=
  if_neg other

/-- The capital of a small letter has the code point that is 32 below. -/
theorem toNat_toUpper (lower : c.isLower = true)
    : c.toUpper.toNat = c.toNat - 32 := by
  have code := isLower_iff.mp lower
  rw [toUpper_eq_of_isLower lower, toNat_ofNat (by omega)]

theorem toNat_toUpper_le (c : Character)
    : c.toUpper.toNat ≤ c.toNat := by
  by_cases lower : c.isLower = true
  · rw [toNat_toUpper lower]
    exact Nat.sub_le _ _
  · rw [toUpper_eq_of_not_isLower lower]

theorem toNat_toLower (upper : c.isUpper = true)
    : c.toLower.toNat = c.toNat + 32 := by
  have code := isUpper_iff.mp upper
  rw [toLower, if_pos upper, toNat_ofNat (by omega)]

theorem isUpper_toUpper (lower : c.isLower = true)
    : c.toUpper.isUpper = true := by
  have code := isLower_iff.mp lower
  rw [isUpper_iff, toNat_toUpper lower]
  omega

theorem isLower_toLower (upper : c.isUpper = true)
    : c.toLower.isLower = true := by
  have code := isUpper_iff.mp upper
  rw [isLower_iff, toNat_toLower upper]
  omega

theorem isAlpha_toUpper_eq_isAlpha (c : Character)
    : c.toUpper.isAlpha = c.isAlpha := by
  by_cases lower : c.isLower = true
  · rw [isAlpha_iff.mpr (.inl (isUpper_toUpper lower)), isAlpha_iff.mpr (.inr lower)]
  · rw [toUpper_eq_of_not_isLower lower]

theorem isAlpha_toLower_eq_isAlpha (c : Character)
    : c.toLower.isAlpha = c.isAlpha := by
  by_cases upper : c.isUpper = true
  · rw [isAlpha_iff.mpr (.inr (isLower_toLower upper)), isAlpha_iff.mpr (.inl upper)]
  · rw [toLower_eq_of_not_isUpper upper]

theorem toUpper_toUpper_eq_toUpper (c : Character)
    : c.toUpper.toUpper = c.toUpper := by
  by_cases lower : c.isLower = true
  · exact toUpper_eq_of_not_isLower fun again =>
      not_isUpper_of_isLower again (isUpper_toUpper lower)
  · rw [toUpper_eq_of_not_isLower lower, toUpper_eq_of_not_isLower lower]

theorem toLower_toUpper_eq_toLower (c : Character)
    : c.toUpper.toLower = c.toLower := by
  by_cases lower : c.isLower = true
  · have code := isLower_iff.mp lower
    apply toNat_injective
    rw [toNat_toLower (isUpper_toUpper lower), toNat_toUpper lower,
      toLower_eq_of_not_isUpper (not_isUpper_of_isLower lower)]
    omega
  · rw [toUpper_eq_of_not_isLower lower]

end Classes

end LatheGloss.Character

@[simp]
theorem LatheGloss.Text.ofString_eq_nil_iff {string : String}
    : ofString string = [] ↔ string = "" := by
  rw [ofString, List.map_eq_nil_iff, String.toList_eq_nil_iff]
