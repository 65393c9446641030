import LatheGloss.Program.Comment
import LatheGloss.Text.Blank

/-! Words of a program line. Spaces separate words, and so does every place where a letter
follows something that is not a letter: the line G0X38.0 has the words G0 and X38.0.
-/

namespace LatheGloss.Program

/-- The line without comments, without blanks around it, and then without the terminators at
its end. -/
def clean (line : Text) : Text :=
  (Text.trim Text.isBlank (withoutComments line)).trimEnd (· == ';')

/-- Two neighbouring characters belong to one word unless the second is a letter and the first
is not. -/
def adheres (left right : Character) : Bool :=
  left.isAlpha || !right.isAlpha

/-- The words of a text without spaces. -/
def unglue (text : Text) : List Text :=
  text.splitBy adheres

/-- The words of a line, from left to right. -/
def words (line : Text) : List Text :=
  ((clean line).splitOn ↑ ' ').flatMap unglue

end LatheGloss.Program
