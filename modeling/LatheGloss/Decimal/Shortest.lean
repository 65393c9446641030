import LatheGloss.Decimal.Binary64
import LatheGloss.Text.Basic

/-! The fewest digits that read back as a given floating-point number. A decimal reads back as a
number if it lies between the two midpoints to the number's neighbours, midpoints included for
an even mantissa. On the grid of decimals with a given count of digits only the two next to the
number need to be tried.
-/

namespace LatheGloss.Binary64

/-- Digits without a zero at either end, and where the point stands: the value is zero point
digits times ten to that place. -/
structure Decimal where
  digits : Text
  place : Int
  deriving DecidableEq

/-- The decimals that read back as a positive number, in quarters of the last bit. -/
structure Interval where
  lower : Nat
  value : Nat
  upper : Nat
  closed : Bool
  quarter : Int

/-- Below a power of two the numbers lie twice as dense as above it. -/
def interval (mantissa : Nat) (exponent : Int) : Interval where
  lower :=
    if mantissa = Nat.pow 2 (mantissaBits - 1) ∧ leastExponent < exponent then 4 * mantissa - 1
    else 4 * mantissa - 2
  value := 4 * mantissa
  upper := 4 * mantissa + 2
  closed := mantissa % 2 = 0
  quarter := exponent - 2

/-- Count of digits before the point of a positive fraction; for a fraction below one, minus the
count of zeros behind the point. -/
def decimalPlace (fraction : Nat × Nat) : Int :=
  if fraction.2 ≤ fraction.1 then
    (Nat.toDigits 10 (fraction.1 / fraction.2)).length
  else
    1 - ((Nat.toDigits 10 (fraction.2 / fraction.1)).length : Int)

namespace Interval

/-- A bound of the interval as a multiple of a power of ten. -/
def inUnits (interval : Interval) (bound : Nat) (power : Int) : Nat × Nat :=
  scaleDown 10 power (scaleDown 2 (-interval.quarter) (bound, 1))

/-- Whether an integer times a power of ten reads back as the number. -/
def contains (interval : Interval) (power : Int) (candidate : Nat) : Bool :=
  let low := interval.inUnits interval.lower power
  let high := interval.inUnits interval.upper power
  if interval.closed then low.1 ≤ candidate * low.2 && candidate * high.2 ≤ high.1
  else low.1 < candidate * low.2 && candidate * high.2 < high.1

/-- The nearest multiple of a power of ten that reads back, if one does. -/
def nearest? (interval : Interval) (power : Int) : Option Nat :=
  let value := interval.inUnits interval.value power
  let below := value.1 / value.2
  let best := roundQuotient value.1 value.2
  if interval.contains power best then some best
  else if interval.contains power below then some below
  else if interval.contains power (below + 1) then some (below + 1)
  else none

end Interval

/-- Seventeen digits always suffice. -/
def digitCounts : List Nat :=
  (List.range 17).map (· + 1)

/-- The shortest decimal of a positive number, the nearest one among several. -/
def shortest (mantissa : Nat) (exponent : Int) : Decimal :=
  let bounds := interval mantissa exponent
  let place := decimalPlace (bounds.inUnits bounds.value 0)
  let found := digitCounts.findSome? fun (count : Nat) =>
    (bounds.nearest? (place - count)).map fun integer => (integer, place - count)
  match found with
  | none => ⟨[], 0⟩
  | some (integer, power) =>
      let digits := Text.ofNat integer
      ⟨digits.reverse.dropWhile (· == ('0' : Character)) |>.reverse, power + digits.length⟩

end LatheGloss.Binary64
