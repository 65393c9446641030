/-! Characters. A text may hold each code point of Unicode: the scalar values, and the surrogates,
of which two together stand for a scalar value where code units have 16 bits, but each may also
stand alone.
-/

namespace LatheGloss

/-- A scalar value, or a surrogate by its place among the surrogates. -/
inductive Character where
  | scalar (c : Char)
  | surrogate (index : Fin 0x800)
  deriving DecidableEq

namespace Character

instance : Coe Char Character where
  coe := scalar

/-- The code point. -/
def toNat : Character → Nat
  | scalar c => c.toNat
  | surrogate index => 0xD800 + index

/-- The character of a code point. -/
def ofNat (code : Nat) : Character :=
  if h : 0xD800 ≤ code ∧ code < 0xE000 then surrogate ⟨code - 0xD800, by omega⟩
  else scalar (Char.ofNat code)

/-- Characters are ordered by code point. -/
instance : LT Character where
  lt left right := left.toNat < right.toNat

instance : LE Character where
  le left right := left.toNat ≤ right.toNat

instance (left right : Character) : Decidable (left < right) :=
  inferInstanceAs (Decidable (left.toNat < right.toNat))

instance (left right : Character) : Decidable (left ≤ right) :=
  inferInstanceAs (Decidable (left.toNat ≤ right.toNat))

def isScalar : Character → Bool
  | scalar _ => true
  | surrogate _ => false

/-- A digit of ASCII. -/
def isDigit (c : Character) : Bool :=
  '0' ≤ c && c ≤ '9'

/-- A capital letter of ASCII. -/
def isUpper (c : Character) : Bool :=
  'A' ≤ c && c ≤ 'Z'

/-- A small letter of ASCII. -/
def isLower (c : Character) : Bool :=
  'a' ≤ c && c ≤ 'z'

/-- A letter of ASCII. -/
def isAlpha (c : Character) : Bool :=
  c.isUpper || c.isLower

/-- Small letters of ASCII become capital ones. -/
def toUpper (c : Character) : Character :=
  if c.isLower then ofNat (c.toNat - 32) else c

/-- Capital letters of ASCII become small ones. -/
def toLower (c : Character) : Character :=
  if c.isUpper then ofNat (c.toNat + 32) else c

/-- The scalar value, if it is one. -/
def scalar? : Character → Option Char
  | scalar c => some c
  | surrogate _ => none

end Character

end LatheGloss
