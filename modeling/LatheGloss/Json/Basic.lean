import LatheGloss.Decimal.Binary64
import LatheGloss.Text.Basic

/-! JSON values. Integers are exact, and an object keeps its fields in the order in which their
names were first written.
-/

namespace LatheGloss

inductive Json where
  | null
  | bool (value : Bool)
  | int (value : Int)
  | float (value : Binary64)
  | str (text : Text)
  | arr (items : List Json)
  | obj (fields : List (Text × Json))

namespace Json

/-- The value of a field of an object. -/
def field? (name : Text) : Json → Option Json
  | obj fields => fields.lookup name
  | _ => none

/-- Null, false, zeros and whatever is empty are blank. -/
def isBlank : Json → Bool
  | null => true
  | bool value => !value
  | int value => value = 0
  | float value => value.isZero
  | str text => text.isEmpty
  | arr items => items.isEmpty
  | obj fields => fields.isEmpty

mutual

/-- How many levels of arrays and objects a value has. -/
def depth : Json → Nat
  | arr items => 1 + itemsDepth items
  | obj fields => 1 + fieldsDepth fields
  | null | bool _ | int _ | float _ | str _ => 0

def itemsDepth : List Json → Nat
  | [] => 0
  | item :: rest => max (depth item) (itemsDepth rest)

def fieldsDepth : List (Text × Json) → Nat
  | [] => 0
  | (_, value) :: rest => max (depth value) (fieldsDepth rest)

end

end Json

end LatheGloss
