import LatheGloss.Text.Blank
import LatheGloss.Text.Uppercase

/-! Tokens: words together with what kind of word they are. A word is judged in uppercase by the
first rule that recognises it.
-/

namespace LatheGloss.Program

/-- A word in uppercase and its kind; a jump also has the label that it goes to. -/
inductive Token where
  | command (text : Text)
  | parameter (text : Text)
  | label (text : Text)
  | conditional (text : Text)
  | jump (text : Text) (target : Text)
  | indexedVariable (text : Text)
  | symbol (text : Text)
  | unknown (text : Text)
  deriving DecidableEq

namespace Token

def text : Token → Text
  | command text | parameter text | label text | conditional text | jump text _
  | indexedVariable text | symbol text | unknown text => text

def target? : Token → Option Text
  | jump _ target => some target
  | _ => none

/-- The name of a token's kind. -/
def kindName : Token → Text
  | command _ => "command"
  | parameter _ => "parameter"
  | label _ => "label"
  | conditional _ => "conditional"
  | jump _ _ => "jump"
  | indexedVariable _ => "indexed_variable"
  | symbol _ => "symbol"
  | unknown _ => "unknown"

/-- A token in full: its kind and its text. -/
def describe (token : Token) : Text :=
  token.kindName ++ ↑ ':' :: token.text

end Token

/-- The axis and modal letters, in the order in which parameters are listed. -/
def parameterLetters : Text :=
  ['X', 'Y', 'Z', 'U', 'W', 'I', 'J', 'K', 'R', 'S', 'P', 'F', 'Q']

/-- Comparisons, brackets and connectives. -/
def symbols : List Text :=
  [
    ['E', 'Q'], ['N', 'E'], ['G', 'T'], ['L', 'T'], ['G', 'E'], ['L', 'E'], ['['], [']'],
    ['A', 'N', 'D'], ['O', 'R']
  ]

/-- At least one digit and nothing else. -/
def isNumeral (text : Text) : Bool :=
  !text.isEmpty && text.all Character.isDigit

/-- Digits with at most one point among them, and at least one digit. -/
def isUnsignedDecimal (text : Text) : Bool :=
  match text.span Character.isDigit with
  | ([], '.' :: fraction) => isNumeral fraction
  | ([], _) => false
  | (_, []) => true
  | (_, '.' :: fraction) => fraction.all Character.isDigit
  | (_, _) => false

/-- A decimal with at most one sign before it. -/
def isDecimal : Text → Bool
  | '+' :: rest => isUnsignedDecimal rest
  | '-' :: rest => isUnsignedDecimal rest
  | text => isUnsignedDecimal text

/-- At least one digit or capital letter and nothing else. -/
def isLabelName (text : Text) : Bool :=
  !text.isEmpty && text.all fun c => c.isDigit || c.isUpper

/-- The ways to recognise a word. The loose jump takes whatever follows the jump's keyword. -/
inductive Rule where
  | command
  | parameter
  | label
  | conditional
  | jump
  | indexedVariable
  | symbol
  | looseJump
  deriving DecidableEq

namespace Rule

def jumpKeyword : Text :=
  ['G', 'O', 'T', 'O']

/-- What a rule makes of a word in uppercase. -/
def recognise? (rule : Rule) (word : Text) : Option Token :=
  match rule, word with
  | command, letter :: number =>
      if (letter == 'G' || letter == 'M') && isNumeral number then some (.command word) else none
  | parameter, letter :: number =>
      if parameterLetters.contains letter && isDecimal number then some (.parameter word) else none
  | label, 'N' :: name => if isLabelName name then some (.label word) else none
  | conditional, ['I', 'F'] => some (.conditional word)
  | jump, 'G' :: 'O' :: 'T' :: 'O' :: target =>
      if isLabelName target then some (.jump word target) else none
  | indexedVariable, '#' :: number =>
      if isNumeral number then some (.indexedVariable word) else none
  | symbol, _ => if symbols.contains word then some (.symbol word) else none
  | looseJump, 'G' :: 'O' :: 'T' :: 'O' :: rest =>
      let target := rest.takeWhile (!Text.isBlank ·)
      if target.isEmpty then none else some (.jump word target)
  | _, _ => none

/-- The order in which the rules are tried. -/
def order : List Rule :=
  [command, parameter, label, conditional, jump, indexedVariable, symbol, looseJump]

end Rule

/-- The token that the first rule to recognise a word in uppercase makes of it. -/
def classifyBy (rules : List Rule) (word : Text) : Token :=
  (rules.findSome? (·.recognise? word)).getD (.unknown word)

/-- The token of a word. -/
def classify (word : Text) : Token :=
  classifyBy Rule.order (Text.upper word)

end LatheGloss.Program
