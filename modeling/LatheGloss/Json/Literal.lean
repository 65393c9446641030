import LatheGloss.Decimal.Render
import LatheGloss.Json.Basic
import LatheGloss.Text.Quoted

/-! JSON values as log lines show them: on one line, with texts in quotes of either kind and with
capitalised constants.
-/

namespace LatheGloss.Json

def literalSpecials : Binary64.Specials where
  nan := "nan"
  infinity := "inf"

mutual

def literal : Json → Text
  | .null => "None"
  | .bool true => "True"
  | .bool false => "False"
  | .int value => Text.ofInt value
  | .float value => value.render literalSpecials
  | .str text => text.quoted
  | .arr [] => ['[', ']']
  | .arr (first :: rest) => ↑ '[' :: literal first ++ literalItems rest ++ ([']'] : Text)
  | .obj [] => (['{', '}'] : Text)
  | .obj ((name, value) :: rest) =>
      ↑ '{' :: name.quoted ++ ↑ ':' :: ↑ ' ' :: literal value ++ literalFields rest
        ++ (['}'] : Text)

def literalItems : List Json → Text
  | [] => []
  | item :: rest => ↑ ',' :: ↑ ' ' :: literal item ++ literalItems rest

def literalFields : List (Text × Json) → Text
  | [] => []
  | (name, value) :: rest =>
      ↑ ',' :: ↑ ' ' :: name.quoted ++ ↑ ':' :: ↑ ' ' :: literal value ++ literalFields rest

end

/-- The name of a value's kind. -/
def kindName : Json → Text
  | .null => "NoneType"
  | .bool _ => "bool"
  | .int _ => "int"
  | .float _ => "float"
  | .str _ => "str"
  | .arr _ => "list"
  | .obj _ => "dict"

end LatheGloss.Json
