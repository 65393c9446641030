import LatheGloss.Decimal.Render
import LatheGloss.Json.Basic

/-! Written JSON, on one line or indented. Only what must be escaped is escaped: quotes,
backslashes and the controls below the space.
-/

namespace LatheGloss.Json

/-- A value is written on one line, or with each item on a line of its own that is indented by
one step per level. -/
inductive Layout where
  | oneLine
  | indented (step : Text)
  deriving DecidableEq

namespace Layout

def indent (width : Nat) : Layout :=
  indented (List.replicate width ' ')

/-- An indentation by so many spaces, of which a negative number is none; without a number
everything stands on one line. -/
def ofIndentation : Option Int → Layout
  | none => oneLine
  | some width => indent width.toNat

/-- What separates two items at a level. -/
def separator : Layout → Nat → Text
  | oneLine, _ => [',', ' ']
  | indented step, level => ',' :: '\n' :: (List.replicate level step).flatten

/-- What stands between a bracket and its first or last item, at the level of what follows. -/
def margin : Layout → Nat → Text
  | oneLine, _ => []
  | indented step, level => '\n' :: (List.replicate level step).flatten

end Layout

def lowerHexDigit (n : Nat) : Character :=
  Nat.digitChar n

/-- A character inside a quoted string. -/
def escapeChar (c : Character) : Text :=
  if c = '"' then ['\\', '"']
  else if c = '\\' then ['\\', '\\']
  else if c = '\n' then ['\\', 'n']
  else if c = '\r' then ['\\', 'r']
  else if c = '\t' then ['\\', 't']
  else if c = '\x0c' then ['\\', 'f']
  else if c = '\x08' then ['\\', 'b']
  else if c.toNat < 32 then
    ['\\', 'u', '0', '0', lowerHexDigit (c.toNat / 16), lowerHexDigit (c.toNat % 16)]
  else [c]

def writeString (text : Text) : Text :=
  ↑ '"' :: text.flatMap escapeChar ++ (['"'] : Text)

def floatSpecials : Binary64.Specials where
  nan := "NaN"
  infinity := "Infinity"

mutual

/-- The text of a value whose own line is at a level. -/
def writeAt (layout : Layout) (level : Nat) : Json → Text
  | .null => "null"
  | .bool true => "true"
  | .bool false => "false"
  | .int value => Text.ofInt value
  | .float value => value.render floatSpecials
  | .str text => writeString text
  | .arr [] => ['[', ']']
  | .arr (first :: rest) =>
      ↑ '[' :: layout.margin (level + 1) ++ writeAt layout (level + 1) first
        ++ writeItems layout (level + 1) rest ++ layout.margin level ++ ([']'] : Text)
  | .obj [] => ['{', '}']
  | .obj ((name, value) :: rest) =>
      ↑ '{' :: layout.margin (level + 1) ++ writeString name ++ ↑ ':'
        :: ↑ ' ' :: writeAt layout (level + 1) value ++ writeFields layout (level + 1) rest
        ++ layout.margin level ++ (['}'] : Text)

/-- The items of an array after the first, each with the separator before it. -/
def writeItems (layout : Layout) (level : Nat) : List Json → Text
  | [] => []
  | item :: rest =>
      layout.separator level ++ writeAt layout level item ++ writeItems layout level rest

/-- The fields of an object after the first, each with the separator before it. -/
def writeFields (layout : Layout) (level : Nat) : List (Text × Json) → Text
  | [] => []
  | (name, value) :: rest =>
      layout.separator level ++ writeString name ++ ↑ ':' :: ↑ ' ' :: writeAt layout level value
        ++ writeFields layout level rest

end

/-- The text of a value. -/
def write (layout : Layout) (value : Json) : Text :=
  value.writeAt layout 0

/-- The parts of an array's item with what stands before it. That is a part of its own before an
array or an object, and belongs to the part of any other item. -/
def partsBehind (before : Text) (item : Json) (parts : List Text) : List Text :=
  match item, parts with
  | .arr _, _ | .obj _, _ | _, [] => before :: parts
  | _, part :: rest => (before ++ part) :: rest

mutual

/-- The text of a value in the parts in which it is handed to a file. -/
def partsAt (layout : Layout) (level : Nat) : Json → List Text
  | .arr (first :: rest) =>
      partsBehind (↑ '[' :: layout.margin (level + 1)) first (partsAt layout (level + 1) first)
        ++ partsOfItems layout (level + 1) rest ++ [layout.margin level, [']']]
  | .obj ((name, value) :: rest) =>
      [(['{'] : Text), layout.margin (level + 1), writeString name, ([':', ' '] : Text)]
        ++ partsAt layout (level + 1) value ++ partsOfFields layout (level + 1) rest
        ++ [layout.margin level, ['}']]
  | value => [writeAt layout level value]

def partsOfItems (layout : Layout) (level : Nat) : List Json → List Text
  | [] => []
  | item :: rest =>
      partsBehind (layout.separator level) item (partsAt layout level item)
        ++ partsOfItems layout level rest

def partsOfFields (layout : Layout) (level : Nat) : List (Text × Json) → List Text
  | [] => []
  | (name, value) :: rest =>
      [layout.separator level, writeString name, ([':', ' '] : Text)] ++ partsAt layout level value
        ++ partsOfFields layout level rest

end

/-- The text of a value in parts. -/
def parts (layout : Layout) (value : Json) : List Text :=
  value.partsAt layout 0

end LatheGloss.Json
