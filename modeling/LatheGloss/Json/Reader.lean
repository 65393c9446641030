import LatheGloss.Json.Basic
import LatheGloss.Json.ReadFault
import LatheGloss.Table

/-! Reading JSON. Besides the standard grammar the reader takes NaN and the infinities, and of
several fields of one name in an object the last value counts and the first place. Each scanner
takes a text and gives what it found with the text after it; a mistake carries the text from its
place on.
-/

namespace LatheGloss.Json

/-- What a scanner found, and the text after it. -/
abbrev Scan (α : Type) := Except (ReadFault Text) (α × Text)

/-- Values nested deeper are not read. -/
def depthLimit : Nat := 990

def isSpace (c : Character) : Bool :=
  c == ' ' || c == '\t' || c == '\n' || c == '\r'

def skipSpace (text : Text) : Text :=
  text.dropWhile isSpace

def hexDigit? (c : Character) : Option Nat :=
  if '0' ≤ c ∧ c ≤ '9' then some (c.toNat - '0'.toNat)
  else if 'a' ≤ c ∧ c ≤ 'f' then some (c.toNat - 'a'.toNat + 10)
  else if 'A' ≤ c ∧ c ≤ 'F' then some (c.toNat - 'A'.toNat + 10)
  else none

/-- The value of four hexadecimal digits, and the text after them. -/
def hexQuad? : Text → Option (Nat × Text)
  | a :: b :: c :: d :: rest => do
      let a ← hexDigit? a
      let b ← hexDigit? b
      let c ← hexDigit? c
      let d ← hexDigit? d
      return (((a * 16 + b) * 16 + c) * 16 + d, rest)
  | _ => none

def isHighSurrogate (code : Nat) : Bool :=
  0xD800 ≤ code && code ≤ 0xDBFF

def isLowSurrogate (code : Nat) : Bool :=
  0xDC00 ≤ code && code ≤ 0xDFFF

/-- The rest of an escape, from its letter u on. A high surrogate joins with a low one in the
escape after it, and any other surrogate stands alone. Something has to follow the digits, if only
the closing quote. -/
def scanUnicodeEscape (text : Text) : Scan Character :=
  match hexQuad? text.tail with
  | some (code, rest@('\\' :: 'u' :: second)) =>
      if isHighSurrogate code ∧ 4 < second.length then
        match hexQuad? second with
        | some (low, after) =>
            if isLowSurrogate low then
              .ok (.ofNat (0x10000 + (code - 0xD800) * 0x400 + (low - 0xDC00)), after)
            else
              .ok (.ofNat code, rest)
        | none => .error (.mistake .unicodeEscape ('u' :: second))
      else
        .ok (.ofNat code, rest)
  | some (code, rest@(_ :: _)) => .ok (.ofNat code, rest)
  | _ => .error (.mistake .unicodeEscape text)

/-- What the letter after a backslash stands for. -/
def shortEscape? : Character → Option Character
  | '"' => some '"'
  | '\\' => some '\\'
  | '/' => some '/'
  | 'b' => some '\x08'
  | 'f' => some '\x0c'
  | 'n' => some '\n'
  | 'r' => some '\r'
  | 't' => some '\t'
  | _ => none

/-- One character inside a string, plain or escaped. A string that ends inside an escape is
reported at its opening quote. -/
def scanChar (opening : Text) : Text → Scan Character
  | [] => .error (.mistake .unterminatedString opening)
  | ['\\'] => .error (.mistake .unterminatedString opening)
  | '\\' :: 'u' :: rest => scanUnicodeEscape ('u' :: rest)
  | '\\' :: letter :: rest =>
      match shortEscape? letter with
      | some c => .ok (c, rest)
      | none => .error (.mistake .escape ('\\' :: letter :: rest))
  | c :: rest =>
      if c.toNat < 32 then .error (.mistake .controlCharacter (c :: rest)) else .ok (c, rest)

theorem hexQuad?_length {text rest : Text} {code : Nat} (h : hexQuad? text = some (code, rest))
    : rest.length < text.length := by
  unfold hexQuad? at h
  split at h
  · simp only [Option.bind_eq_bind, Option.pure_def] at h
    simp only [Option.bind_eq_some_iff, Option.some.injEq, Prod.mk.injEq] at h
    obtain ⟨_, _, _, _, _, _, _, _, _, rfl⟩ := h
    simp only [List.length_cons]
    omega
  · simp at h

theorem scanUnicodeEscape_length {text rest : Text} {c : Character}
    (h : scanUnicodeEscape text = .ok (c, rest))
    : rest.length < text.length := by
  unfold scanUnicodeEscape at h
  split at h
  · next found =>
      have short := hexQuad?_length found
      split at h
      · split at h
        · next foundLow =>
            have shortLow := hexQuad?_length foundLow
            split at h <;>
              simp only [Except.ok.injEq, Prod.mk.injEq] at h <;>
              obtain ⟨_, rfl⟩ := h <;>
              simp only [List.length_cons, List.length_tail] at short shortLow ⊢ <;>
              omega
        · cases h
      · simp only [Except.ok.injEq, Prod.mk.injEq] at h
        obtain ⟨_, rfl⟩ := h
        simp only [List.length_cons, List.length_tail] at short ⊢
        omega
  · next found =>
      have short := hexQuad?_length found
      simp only [Except.ok.injEq, Prod.mk.injEq] at h
      obtain ⟨_, rfl⟩ := h
      simp only [List.length_cons, List.length_tail] at short ⊢
      omega
  · cases h

theorem scanChar_length {opening text rest : Text} {c : Character}
    (h : scanChar opening text = .ok (c, rest))
    : rest.length < text.length := by
  unfold scanChar at h
  split at h
  · cases h
  · cases h
  · have := scanUnicodeEscape_length h
    simp at this ⊢
    omega
  · split at h
    · cases h
      simp only [List.length_cons]
      omega
    · cases h
  · split at h
    · cases h
    · cases h
      simp

/-- The rest of a string, up to and with its closing quote, behind the characters read before
in reverse. -/
def scanString (opening : Text) (read : Text) (text : Text) : Scan Text :=
  match text with
  | '"' :: rest => .ok (read.reverse, rest)
  | text =>
      match _h : scanChar opening text with
      | .ok (c, rest) => scanString opening (c :: read) rest
      | .error fault => .error fault
  termination_by text.length
  decreasing_by exact scanChar_length _h

/-- A number as it is spelled. -/
structure Numeral where
  negative : Bool
  whole : Text
  fraction : Text
  exponent : Option (Bool × Text)

/-- The digits of the integer part: a single zero, or digits of which the first is no zero. -/
def scanWhole? : Text → Option (Text × Text)
  | [] => none
  | c :: rest =>
      if c = '0' then some (['0'], rest)
      else if c.isDigit then some ((c :: rest).span Character.isDigit)
      else none

/-- The digits behind a point, if there is one with digits behind it. -/
def scanFraction : Text → Text × Text
  | '.' :: rest =>
      let (digits, after) := rest.span Character.isDigit
      if digits.isEmpty then ([], '.' :: rest) else (digits, after)
  | text => ([], text)

/-- Whether an exponent is negative, and its digits, if there are any. -/
def scanSignedDigits? (text : Text) : Option ((Bool × Text) × Text) :=
  let (negative, unsigned) :=
    match text with
    | '-' :: rest => (true, rest)
    | '+' :: rest => (false, rest)
    | text => (false, text)
  let (digits, after) := unsigned.span Character.isDigit
  if digits.isEmpty then none else some ((negative, digits), after)

def scanExponent : Text → Option (Bool × Text) × Text
  | c :: rest =>
      if c = 'e' ∨ c = 'E' then
        match scanSignedDigits? rest with
        | some (exponent, after) => (some exponent, after)
        | none => (none, c :: rest)
      else
        (none, c :: rest)
  | [] => (none, [])

def scanNumeral? (text : Text) : Option (Numeral × Text) := do
  let (negative, unsigned) :=
    match text with
    | '-' :: rest => (true, rest)
    | text => (false, text)
  let (whole, afterWhole) ← scanWhole? unsigned
  let (fraction, afterFraction) := scanFraction afterWhole
  let (exponent, after) := scanExponent afterFraction
  return ({ negative, whole, fraction, exponent }, after)

/-- The value of decimal digits. -/
def digitsValue (digits : Text) : Nat :=
  digits.foldl (fun value digit => 10 * value + (digit.toNat - '0'.toNat)) 0

namespace Numeral

/-- A numeral without fraction and exponent is an integer. -/
def isInteger (numeral : Numeral) : Bool :=
  numeral.fraction.isEmpty && numeral.exponent.isNone

def integer (numeral : Numeral) : Int :=
  if numeral.negative then -(digitsValue numeral.whole : Int) else digitsValue numeral.whole

def exponentValue (numeral : Numeral) : Int :=
  match numeral.exponent with
  | none => 0
  | some (true, digits) => -(digitsValue digits : Int)
  | some (false, digits) => digitsValue digits

def floating (numeral : Numeral) : Binary64 :=
  .ofDecimal numeral.negative (numeral.whole ++ numeral.fraction)
    (numeral.exponentValue - numeral.fraction.length)

def value? (numeral : Numeral) : Except (ReadFault Text) Json :=
  if !numeral.isInteger then .ok (.float numeral.floating)
  else if digitLimit < numeral.whole.length then .error (.digitLimit numeral.whole.length)
  else .ok (.int numeral.integer)

end Numeral

/-- A number, or the mistake that no value begins here. -/
def scanNumber (text : Text) : Scan Json :=
  match scanNumeral? text with
  | none => .error (.mistake .value text)
  | some (numeral, after) => numeral.value?.map fun value => (value, after)

/-- The items of an array from one of them on, behind the items read before in reverse. Every
item takes at least one character, so a text as long as theirs is bound enough. -/
def scanItems (item : Text → Scan Json) (read : List Json) : Text → Text → Scan Json
  | [], text => .error (.mistake .value text)
  | _ :: bound, text =>
      match item text with
      | .error fault => .error fault
      | .ok (value, after) =>
          match skipSpace after with
          | ']' :: rest => .ok (.arr (value :: read).reverse, rest)
          | ',' :: rest => scanItems item (value :: read) bound (skipSpace rest)
          | rest => .error (.mistake .comma rest)

/-- An array behind its opening bracket. -/
def scanArray (item : Text → Scan Json) (text : Text) : Scan Json :=
  match skipSpace text with
  | ']' :: rest => .ok (.arr [], rest)
  | rest => scanItems item [] rest rest

/-- A field's name, the colon behind it and its value. -/
def scanField (item : Text → Scan Json) (text : Text) : Scan (Text × Json) :=
  match text with
  | '"' :: afterQuote =>
      match scanString text [] afterQuote with
      | .error fault => .error fault
      | .ok (name, afterName) =>
          match skipSpace afterName with
          | ':' :: afterColon =>
              (item (skipSpace afterColon)).map fun (value, after) => ((name, value), after)
          | rest => .error (.mistake .colon rest)
  | _ => .error (.mistake .propertyName text)

/-- The fields of an object from one of them on, behind the fields read before. Every field
takes at least one character, so a text as long as theirs is bound enough. -/
def scanFields (item : Text → Scan Json) (read : Table Json) : Text → Text → Scan Json
  | [], text => .error (.mistake .propertyName text)
  | _ :: bound, text =>
      match scanField item text with
      | .error fault => .error fault
      | .ok ((name, value), after) =>
          let fields := read.insert name value
          match skipSpace after with
          | '}' :: rest => .ok (.obj fields.entries, rest)
          | ',' :: rest => scanFields item fields bound (skipSpace rest)
          | rest => .error (.mistake .comma rest)

/-- An object behind its opening brace. -/
def scanObject (item : Text → Scan Json) (text : Text) : Scan Json :=
  match skipSpace text with
  | '}' :: rest => .ok (.obj [], rest)
  | rest => scanFields item .empty rest rest

/-- A value, given how values inside it are read. -/
def scanWith (item : Container → Text → Scan Json) (text : Text) : Scan Json :=
  match text with
  | '"' :: rest => (scanString text [] rest).map fun (string, after) => (.str string, after)
  | '{' :: rest => scanObject (item .object) rest
  | '[' :: rest => scanArray (item .array) rest
  | 'n' :: 'u' :: 'l' :: 'l' :: rest => .ok (.null, rest)
  | 't' :: 'r' :: 'u' :: 'e' :: rest => .ok (.bool true, rest)
  | 'f' :: 'a' :: 'l' :: 's' :: 'e' :: rest => .ok (.bool false, rest)
  | 'N' :: 'a' :: 'N' :: rest => .ok (.float .nan, rest)
  | 'I' :: 'n' :: 'f' :: 'i' :: 'n' :: 'i' :: 't' :: 'y' :: rest =>
      .ok (.float (.infinity false), rest)
  | '-' :: 'I' :: 'n' :: 'f' :: 'i' :: 'n' :: 'i' :: 't' :: 'y' :: rest =>
      .ok (.float (.infinity true), rest)
  | text => scanNumber text

/-- A value with at most so many levels of arrays and objects. -/
def scanValue : Nat → Text → Scan Json
  | 0, text =>
      match text with
      | '{' :: _ => .error (.tooDeep .object)
      | '[' :: _ => .error (.tooDeep .array)
      | text => scanWith (fun container _ => .error (.tooDeep container)) text
  | depth + 1, text => scanWith (fun _ => scanValue depth) text

/-- A text that is one value with spaces around it. -/
def scanDocument (text : Text) : Except (ReadFault Text) Json :=
  if text.head? = some ('\uFEFF' : Character) then
    .error (.mistake .byteOrderMark text)
  else
    match scanValue depthLimit (skipSpace text) with
    | .error fault => .error fault
    | .ok (value, after) =>
        let rest := skipSpace after
        if rest.isEmpty then .ok value else .error (.mistake .extraData rest)

/-- The value that a text spells. -/
def read (text : Text) : Except (ReadFault Position) Json :=
  (scanDocument text).mapError (·.map fun rest => .after (text.take (text.length - rest.length)))

end LatheGloss.Json
