import LatheGloss.Program.Comment
import LatheGloss.Program.Token
import LatheGloss.Text.DecimalDigit
import LatheGloss.Text.WordCharacter

/-! Highlighting of a program line. Words are found by their shapes anywhere in the line, without
regard to case; comments and the terminators at the end of the line are marked after them and
cover what was marked before.
-/

namespace LatheGloss.Program

inductive Style where
  | code
  | parameter
  | label
  | conditional
  | jump
  | indexedVariable
  | comment
  | terminator
  deriving DecidableEq

/-- Columns of a line and how they are shown. -/
structure Span where
  start : Nat
  length : Nat
  style : Style
  deriving DecidableEq

/-- The characters that count as a capital letter when case does not matter. Besides the small
letter these are the dotless and the dotted i, the Kelvin sign and the long s. -/
def variants : Character → Text
  | 'I' => ['I', 'i', 'ı', 'İ']
  | 'K' => ['K', 'k', '\u212A']
  | 'S' => ['S', 's', 'ſ']
  | capital => [capital, capital.toLower]

def isVariantOf (capital c : Character) : Bool :=
  (variants capital).contains c

/-- What follows a keyword that is spelled in either case. -/
def afterKeyword? : Text → Text → Option Text
  | [], text => some text
  | capital :: keyword, c :: text =>
      if isVariantOf capital c then afterKeyword? keyword text else none
  | _ :: _, [] => none

/-- How many characters of a class a text begins with. -/
def runLength (holds : Character → Bool) (text : Text) : Nat :=
  (text.takeWhile holds).length

/-- A run of at least one character of a class. -/
def run? (holds : Character → Bool) (text : Text) : Option Nat :=
  let length := runLength holds text
  if length = 0 then none else some length

def isWordCharacter? (c : Option Character) : Bool :=
  c.any Text.isWordCharacter

/-- A word that begins with one of several capital letters in either case and goes on for some
length. -/
def lettered? (capitals : Text) (tail? : Text → Option Nat) : Text → Option Nat
  | [] => none
  | c :: rest =>
      if capitals.any (isVariantOf · c) then (tail? rest).map (· + 1) else none

def isDigitOrPoint (c : Character) : Bool :=
  c == '.' || Text.isDecimalDigit c

/-- A run of digits and points, with or without a sign before it. -/
def signedRun? : Text → Option Nat
  | '+' :: rest => (run? isDigitOrPoint rest).map (· + 1)
  | '-' :: rest => (run? isDigitOrPoint rest).map (· + 1)
  | text => run? isDigitOrPoint text

/-- The length of the word of a style at the head of a text, if there is one. The condition has
to stand apart from the word characters around it. -/
def wordLength? (previous : Option Character) (text : Text) : Style → Option Nat
  | .jump =>
      (afterKeyword? Rule.jumpKeyword text).map fun rest =>
        4 + runLength Text.isWordCharacter rest
  | .conditional =>
      match afterKeyword? ['I', 'F'] text with
      | some rest =>
          if isWordCharacter? previous || isWordCharacter? rest.head? then none else some 2
      | none => none
  | .code => lettered? ['G', 'M'] (run? Text.isDecimalDigit) text
  | .label => lettered? ['N'] (run? Text.isWordCharacter) text
  | .indexedVariable => lettered? ['#'] (run? Text.isDecimalDigit) text
  | .parameter => lettered? parameterLetters signedRun? text
  | .comment | .terminator => none

/-- The styles of words, in the order in which they are tried. -/
def wordStyles : List Style :=
  [.jump, .conditional, .code, .label, .indexedVariable, .parameter]

/-- The word at the head of a text, if there is one. -/
def wordAt? (previous : Option Character) (text : Text) : Option (Style × Nat) :=
  wordStyles.findSome? fun style =>
    (wordLength? previous text style).map fun length => (style, length)

/-- Words from a column on. While some columns are left of the word found last, none begins. -/
def wordSpansFrom (column : Nat) (previous : Option Character) (left : Nat) : Text → List Span
  | [] => []
  | c :: rest =>
      match left with
      | left + 1 => wordSpansFrom (column + 1) (some c) left rest
      | 0 =>
          match wordAt? previous (c :: rest) with
          | some (style, length) =>
              ⟨column, length, style⟩ :: wordSpansFrom (column + 1) (some c) (length - 1) rest
          | none => wordSpansFrom (column + 1) (some c) 0 rest

/-- The words of a line from left to right, none within another. -/
def wordSpans (line : Text) : List Span :=
  wordSpansFrom 0 none 0 line

def commentSpans (line : Text) : List Span :=
  (commentColumns line).map fun (start, length) => ⟨start, length, .comment⟩

/-- The terminators at the end of a line, blanks behind them disregarded. -/
def terminatorSpans (line : Text) : List Span :=
  let stripped := line.trimEnd Text.isBlank
  let count := runLength (· == ';') stripped.reverse
  if count = 0 then [] else [⟨stripped.length - count, count, .terminator⟩]

/-- All marks on a line, later ones over earlier ones. -/
def highlight (line : Text) : List Span :=
  wordSpans line ++ commentSpans line ++ terminatorSpans line

end LatheGloss.Program
