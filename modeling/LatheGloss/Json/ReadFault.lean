import LatheGloss.Text.Basic

/-! Reasons why a text is not read as JSON, and their wording. A mistake in the text is reported
with its place.
-/

namespace LatheGloss.Json

inductive Mistake where
  | byteOrderMark
  | value
  | propertyName
  | colon
  | comma
  | extraData
  | unterminatedString
  | controlCharacter
  | escape
  | unicodeEscape
  deriving DecidableEq

def Mistake.message : Mistake → Text
  | byteOrderMark => "Unexpected UTF-8 BOM (decode using utf-8-sig)"
  | value => "Expecting value"
  | propertyName => "Expecting property name enclosed in double quotes"
  | colon => "Expecting ':' delimiter"
  | comma => "Expecting ',' delimiter"
  | extraData => "Extra data"
  | unterminatedString => "Unterminated string starting at"
  | controlCharacter => "Invalid control character at"
  | escape => "Invalid \\escape"
  | unicodeEscape => "Invalid \\uXXXX escape"

/-- Lines and columns count from one, the offset from zero. -/
structure Position where
  line : Nat
  column : Nat
  offset : Nat
  deriving DecidableEq

/-- The position behind a part of a text. -/
def Position.after (passed : Text) : Position where
  line := passed.count ↑ '\n' + 1
  column := (passed.reverse.takeWhile (· != ('\n' : Character))).length + 1
  offset := passed.length

def Position.message (position : Position) : Text :=
  "line " ++ Text.ofNat position.line ++ " column " ++ Text.ofNat position.column
    ++ " (char " ++ Text.ofNat position.offset ++ ([')'] : Text)

/-- Integers of more digits are not read. -/
def digitLimit : Nat := 4300

inductive Container where
  | array
  | object
  deriving DecidableEq

/-- A mistake somewhere in the text, an integer with more digits than are read, or values nested
deeper than are read. -/
inductive ReadFault (Place : Type) where
  | mistake (what : Mistake) (place : Place)
  | digitLimit (digits : Nat)
  | tooDeep (container : Container)
  deriving DecidableEq

namespace ReadFault

def map {Place Other : Type} (move : Place → Other) : ReadFault Place → ReadFault Other
  | mistake what place => mistake what (move place)
  | digitLimit digits => digitLimit digits
  | tooDeep container => tooDeep container

def message : ReadFault Position → Text
  | mistake what place => what.message ++ ": " ++ place.message
  | digitLimit digits =>
      "Exceeds the limit (" ++ Text.ofNat Json.digitLimit
        ++ " digits) for integer string conversion: value has " ++ Text.ofNat digits
        ++ " digits; use sys.set_int_max_str_digits() to increase the limit"
  | tooDeep .array =>
      "maximum recursion depth exceeded while decoding a JSON array from a unicode string"
  | tooDeep .object =>
      "maximum recursion depth exceeded while decoding a JSON object from a unicode string"

end ReadFault

end LatheGloss.Json
