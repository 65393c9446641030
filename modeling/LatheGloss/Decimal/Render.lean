import LatheGloss.Decimal.Shortest

/-! How floating-point numbers are written: with their shortest digits, by position from four
places behind the point up to sixteen before it, and with an exponent of at least two digits
otherwise. A number written by position always has a point.
-/

namespace LatheGloss.Binary64

/-- The texts of the numbers that no digits can give. -/
structure Specials where
  nan : Text
  infinity : Text

def zeros (count : Int) : Text :=
  List.replicate count.toNat '0'

def Decimal.positional (decimal : Decimal) : Text :=
  if decimal.place ≤ 0 then
    ↑ '0' :: ↑ '.' :: zeros (-decimal.place) ++ decimal.digits
  else if decimal.digits.length ≤ decimal.place.toNat then
    decimal.digits ++ zeros (decimal.place - decimal.digits.length) ++ (['.', '0'] : Text)
  else
    decimal.digits.take decimal.place.toNat ++ ↑ '.' :: decimal.digits.drop decimal.place.toNat

def Decimal.scientific (decimal : Decimal) : Text :=
  let exponent := decimal.place - 1
  let significand :=
    match decimal.digits with
    | first :: rest@(_ :: _) => first :: '.' :: rest
    | digits => digits
  let magnitude := Text.ofNat exponent.natAbs
  significand ++ (['e', if exponent < 0 then '-' else '+'] : Text)
    ++ zeros (2 - magnitude.length) ++ magnitude

def Decimal.render (decimal : Decimal) : Text :=
  if -4 < decimal.place ∧ decimal.place ≤ 16 then decimal.positional else decimal.scientific

/-- The text of a number. -/
def render (specials : Specials) : Binary64 → Text
  | .nan => specials.nan
  | .infinity negative => if negative then '-' :: specials.infinity else specials.infinity
  | .finite negative mantissa exponent =>
      let magnitude : Text :=
        if mantissa = 0 then ['0', '.', '0'] else (shortest mantissa exponent).render
      if negative then '-' :: magnitude else magnitude

end LatheGloss.Binary64
