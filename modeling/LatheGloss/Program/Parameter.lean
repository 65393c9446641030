import LatheGloss.Program.Token

/-! The order of parameters: by axis letter, in the order of the letters; whatever does not
begin with an axis letter comes after them, by code point.
-/

namespace LatheGloss.Program

/-- What a word is sorted by. Words of one axis letter have equal keys. -/
inductive ParameterKey where
  | axis (index : Nat)
  | other (text : Text)
  deriving DecidableEq

namespace ParameterKey

def ofWord : Text → ParameterKey
  | [] => other []
  | letter :: rest =>
      match parameterLetters.idxOf? letter with
      | some index => axis index
      | none => other (letter :: rest)

/-- Axes come by index and before all else; all else is ordered by code point. -/
def le : ParameterKey → ParameterKey → Bool
  | axis left, axis right => left ≤ right
  | axis _, other _ => true
  | other _, axis _ => false
  | other left, other right => !right.lex left

end ParameterKey

/-- Words with equal keys keep their order. -/
def sortParameters (words : List Text) : List Text :=
  words.mergeSort fun left right => (ParameterKey.ofWord left).le (ParameterKey.ofWord right)

end LatheGloss.Program
