import LatheGloss.Program.Parameter
import LatheGloss.Program.Word

/-! The gloss of a program line says what the line does. Its first part describes commands,
labels, conditions and jumps in the order of the line; after it stand the parameters in their
own order. Words without a meaning are shown with the parameters and reported as unknown.
-/

namespace LatheGloss.Program

structure Gloss where
  text : Text
  unknowns : List Text
  deriving DecidableEq

namespace Gloss

def hasUnknown (gloss : Gloss) : Bool :=
  !gloss.unknowns.isEmpty

def phraseSeparator : Text :=
  " ／ "

def unregistered (code : Text) : Text :=
  "未登録:" ++ code

/-- What a token adds to the first part, given the descriptions of codes. -/
def phrase? (describe : Text → Option Text) : Token → Option Text
  | .command code => some ((describe code).getD (unregistered code))
  | .label name => some ("ラベル " ++ name)
  | .conditional _ => some "条件分岐 IF"
  | .jump _ target => some ("GOTO " ++ target)
  | .parameter _ | .indexedVariable _ | .symbol _ | .unknown _ => none

/-- What a token adds to the parameters. -/
def parameter? : Token → Option Text
  | .parameter text | .indexedVariable text | .symbol text | .unknown text => some text
  | .command _ | .label _ | .conditional _ | .jump _ _ => none

/-- A token is unknown if it is of no kind or a command without a description. -/
def unknown? (describe : Text → Option Text) : Token → Option Text
  | .command code => if (describe code).isNone then some code else none
  | .unknown text => some text
  | _ => none

/-- The two parts of a gloss with a space between, unless one of them is missing. -/
def joinParts (phrases parameters : List Text) : Text :=
  let described := phraseSeparator.intercalate phrases
  if parameters.isEmpty then described
  else if described.isEmpty then [↑ ' '].intercalate parameters
  else described ++ ↑ ' ' :: [↑ ' '].intercalate parameters

/-- The gloss of tokens from left to right. -/
def ofTokens (describe : Text → Option Text) (tokens : List Token) : Gloss where
  text :=
    joinParts (tokens.filterMap (phrase? describe)) (sortParameters (tokens.filterMap parameter?))
  unknowns := tokens.filterMap (unknown? describe)

/-- The gloss of words from left to right. -/
def ofWords (describe : Text → Option Text) (words : List Text) : Gloss :=
  ofTokens describe (words.map classify)

/-- The gloss of a line. -/
def ofLine (describe : Text → Option Text) (line : Text) : Gloss :=
  ofWords describe (words line)

end Gloss

end LatheGloss.Program
