import LatheGloss.Text.Basic

/-! Paths name places on the disk: names with slashes between them.
-/

namespace LatheGloss.Path

/-- The path without doubled slashes, slashes at its end and names that stay in place. -/
def normal (path : Text) : Text :=
  let names := (path.splitOn ↑ '/').filter fun name => name ≠ [] ∧ name ≠ [↑ '.']
  let joined := [↑ '/'].intercalate names
  if path.head? = some ('/' : Character) then '/' :: joined
  else if joined.isEmpty then ['.']
  else joined

/-- Something in a directory, with one slash between. -/
def join (directory name : Text) : Text :=
  if directory.isEmpty ∨ directory.getLast? = some ('/' : Character) then directory ++ name
  else directory ++ ↑ '/' :: name

/-- What stands before the last slash of a path, without further slashes at its end unless it
is nothing but slashes. -/
def directory (path : Text) : Text :=
  let head := path.trimEnd (· != '/')
  let trimmed := head.trimEnd (· == '/')
  if trimmed.isEmpty then head else trimmed

/-- The directory that holds a place, by its normal path. -/
def parent (path : Text) : Text :=
  normal (directory (normal path))

/-- The path with every step upward taken by dropping the name before it. -/
def collapse (path : Text) : Text :=
  let climb (names : List Text) (name : Text) : List Text :=
    if name = [] ∨ name = [↑ '.'] then names
    else if name = [↑ '.', ↑ '.'] then names.tail
    else name :: names
  let joined := [↑ '/'].intercalate ((path.splitOn ↑ '/').foldl climb []).reverse
  if path.head? = some ('/' : Character) then '/' :: joined else joined

end LatheGloss.Path
