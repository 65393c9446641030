import LatheGloss.Text.Basic

/-! Binary floating-point numbers of 64 bits, and the one nearest to a given decimal.
-/

namespace LatheGloss

/-- A finite number is its mantissa times two to its exponent. The mantissa has 53 bits, or
fewer if the exponent is the least one. -/
inductive Binary64 where
  | finite (negative : Bool) (mantissa : Nat) (exponent : Int)
  | infinity (negative : Bool)
  | nan
  deriving DecidableEq

/-- The integer nearest to a quotient, the even one of two that are equally near. -/
def roundQuotient (numerator denominator : Nat) : Nat :=
  let quotient := numerator / denominator
  let twice := 2 * (numerator % denominator)
  if twice < denominator then quotient
  else if denominator < twice then quotient + 1
  else quotient + quotient % 2

namespace Binary64

def leastExponent : Int := -1074

def greatestExponent : Int := 971

def mantissaBits : Nat := 53

def zero (negative : Bool) : Binary64 :=
  .finite negative 0 leastExponent

/-- A fraction divided by a power of a base. -/
def scaleDown (base : Nat) (exponent : Int) (fraction : Nat × Nat) : Nat × Nat :=
  (fraction.1 * Nat.pow base (-exponent).toNat, fraction.2 * Nat.pow base exponent.toNat)

/-- The integer part of the binary logarithm of a positive fraction. -/
def log2Fraction (fraction : Nat × Nat) : Int :=
  let estimate : Int := (Nat.log2 fraction.1 : Int) - Nat.log2 fraction.2
  let scaled := scaleDown 2 estimate fraction
  if scaled.1 < scaled.2 then estimate - 1 else estimate

/-- The number nearest to a positive fraction. -/
def ofFraction (negative : Bool) (fraction : Nat × Nat) : Binary64 :=
  let exponent := max (log2Fraction fraction - (mantissaBits - 1)) leastExponent
  let scaled := scaleDown 2 exponent fraction
  let mantissa := roundQuotient scaled.1 scaled.2
  let (mantissa, exponent) :=
    if mantissa = Nat.pow 2 mantissaBits then (Nat.pow 2 (mantissaBits - 1), exponent + 1)
    else (mantissa, exponent)
  if greatestExponent < exponent then .infinity negative
  else .finite negative mantissa exponent

/-- The number nearest to digits, read as an integer, times a power of ten. A decimal beyond
all finite numbers is infinite, and one far below all of them is zero. -/
def ofDecimal (negative : Bool) (digits : Text) (exponent : Int) : Binary64 :=
  let significant := digits.dropWhile (· == ('0' : Character))
  let magnitude := exponent + significant.length
  if significant.isEmpty || magnitude < -330 then
    zero negative
  else if 330 < magnitude then
    .infinity negative
  else
    let value := significant.foldl (fun value digit => 10 * value + (digit.toNat - '0'.toNat)) 0
    ofFraction negative (scaleDown 10 (-exponent) (value, 1))

/-- Both zeros are zero. -/
def isZero : Binary64 → Bool
  | .finite _ mantissa _ => mantissa = 0
  | _ => false

end Binary64

end LatheGloss
