import LatheGloss.Text.Basic

/-! Sets of characters, given as ranges of code points.
-/

namespace LatheGloss

/-- The first and the last code point of each range. -/
abbrev CharSet := List (Nat × Nat)

/-- A set holds the characters whose code points lie in one of its ranges, ends included. -/
def CharSet.contains (set : CharSet) (c : Character) : Bool :=
  set.any fun (first, last) => first ≤ c.toNat && c.toNat ≤ last

end LatheGloss
