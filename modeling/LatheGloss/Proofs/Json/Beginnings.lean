import Mathlib
import LatheGloss.Json.Reader

/-! How values begin. A quote begins a string, brackets begin arrays and objects, and a few words
stand for values. Whatever begins otherwise is read as a number.
-/

namespace LatheGloss.Json

/-- The words that stand for values. -/
def wordValues : List (Text × Json) :=
  [
    ("null", .null), ("true", .bool true), ("false", .bool false), ("NaN", .float .nan),
    ("Infinity", .float (.infinity false)), ("-Infinity", .float (.infinity true))
  ]

variable (item : Container → Text → Scan Json)

/-- What reading a value comes to, by the beginning of its text. -/
inductive ScansTo : Text → Scan Json → Prop
  | string (rest : Text)
    : ScansTo ('"' :: rest)
        ((scanString ('"' :: rest) [] rest).map fun (string, after) => (.str string, after))
  | object (rest : Text) : ScansTo ('{' :: rest) (scanObject (item .object) rest)
  | array (rest : Text) : ScansTo ('[' :: rest) (scanArray (item .array) rest)
  | word {word : Text} {value : Json} (known : (word, value) ∈ wordValues) (rest : Text)
    : ScansTo (word ++ rest) (.ok (value, rest))
  | number (text : Text) : ScansTo text (scanNumber text)

theorem scansTo_scanWith (text : Text)
    : ScansTo item text (scanWith item text) := by
  have word {word : Text} {value : Json} (rest : Text) (place : Nat)
      (known : wordValues[place]? = some (word, value))
      : ScansTo item (word ++ rest) (.ok (value, rest)) :=
    .word (List.mem_of_getElem? known) rest
  unfold scanWith
  split
  · exact .string _
  · exact .object _
  · exact .array _
  · exact word _ 0 rfl
  · exact word _ 1 rfl
  · exact word _ 2 rfl
  · exact word _ 3 rfl
  · exact word _ 4 rfl
  · exact word _ 5 rfl
  · exact .number text

theorem scanWith_quote (rest : Text)
    : scanWith item ('"' :: rest)
      = (scanString ('"' :: rest) [] rest).map fun (string, after) => (.str string, after) :=
  rfl

theorem scanWith_brace (rest : Text)
    : scanWith item ('{' :: rest) = scanObject (item .object) rest :=
  rfl

theorem scanWith_bracket (rest : Text)
    : scanWith item ('[' :: rest) = scanArray (item .array) rest :=
  rfl

/-- No value but a number begins with a digit, or with a minus and a digit. No word has a digit, and
each is long enough to reach it.
-/
theorem scanWith_of_numeral {text : Text} {first digit : Character}
    (begins : text.head? = some first) (kind : first = '-' ∨ first.isDigit = true)
    (front : digit ∈ text.take 2) (isDigit : digit.isDigit = true)
    : scanWith item text = scanNumber text := by
  have scans := scansTo_scanWith item text
  generalize scanWith item text = result at scans ⊢
  cases scans with
  | string rest | object rest | array rest =>
      cases begins
      exact absurd kind (by decide)
  | @word word value known rest =>
      have long : ∀ entry ∈ wordValues, 2 ≤ entry.1.length := by decide
      have letters : ∀ entry ∈ wordValues, ∀ c ∈ entry.1, c.isDigit = false := by decide
      rw [List.take_append_of_le_length (long _ known)] at front
      rw [letters _ known digit (List.mem_of_mem_take front)] at isDigit
      cases isDigit
  | number => rfl

end LatheGloss.Json
