import LatheGloss.Text.Character

/-! Texts are sequences of characters. Offsets and lengths count characters, and texts are
ordered by code point.
-/

namespace LatheGloss

abbrev Text := List Character

namespace Text

/-- The text that a string spells. -/
def ofString (string : String) : Text :=
  string.toList.map Character.scalar

instance : Coe String Text where
  coe := ofString

/-- The scalar values of a text, without the surrogates that stand alone. -/
def scalars (text : Text) : List Char :=
  text.filterMap Character.scalar?

/-- The text without its longest ending of characters to drop. -/
def trimEnd (drop : Character → Bool) (text : Text) : Text :=
  (text.reverse.dropWhile drop).reverse

/-- The text without its longest beginning and its longest ending of characters to drop. -/
def trim (drop : Character → Bool) (text : Text) : Text :=
  trimEnd drop (text.dropWhile drop)

/-- Where the needle first begins in the text. -/
def find? (needle : Text) : Text → Option Nat
  | [] => if needle.isEmpty then some 0 else none
  | c :: rest =>
      if needle.isPrefixOf (c :: rest) then some 0
      else (find? needle rest).map (· + 1)

/-- A count in decimal digits. -/
def ofNat (n : Nat) : Text :=
  (Nat.toDigits 10 n).map Character.scalar

/-- A number in so many lowercase hexadecimal digits, or more if it needs them. -/
def hex (width n : Nat) : Text :=
  let digits := (Nat.toDigits 16 n).map Character.scalar
  List.replicate (width - digits.length) ('0' : Character) ++ digits

/-- An integer in decimal digits, with a minus sign if it is negative. -/
def ofInt : Int → Text
  | .ofNat n => ofNat n
  | .negSucc n => '-' :: ofNat (n + 1)

/-- The text with blanks after it up to the width. -/
def padEnd (width : Nat) (text : Text) : Text :=
  text ++ List.replicate (width - text.length) (' ' : Character)

end Text

end LatheGloss
