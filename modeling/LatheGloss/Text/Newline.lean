import LatheGloss.Text.Basic

/-! Line ends. A program ends its lines with a line feed or with a carriage return and a line
feed; a file may also end them with a carriage return alone.
-/

namespace LatheGloss.Text

/-- Every pair of a carriage return and a line feed becomes a line feed. -/
def foldReturnPairs : Text → Text
  | '\r' :: '\n' :: rest => '\n' :: foldReturnPairs rest
  | c :: rest => c :: foldReturnPairs rest
  | [] => []

/-- Every pair of a carriage return and a line feed becomes a line feed, and so does every
other carriage return. -/
def foldReturns : Text → Text
  | '\r' :: '\n' :: rest => '\n' :: foldReturns rest
  | '\r' :: rest => '\n' :: foldReturns rest
  | c :: rest => c :: foldReturns rest
  | [] => []

/-- The lines of a text, without the line feeds between them. -/
def lines (text : Text) : List Text :=
  text.splitOn ↑ '\n'

end LatheGloss.Text
