import LatheGloss.Text.Printable

/-! Quoted texts as log lines show them: in single quotes, or in double quotes if only single
ones occur inside, with backslash escapes for quotes, backslashes and whatever does not print.
-/

namespace LatheGloss.Text

def quotedChar (quote c : Character) : Text :=
  if c = quote ∨ c = '\\' then ['\\', c]
  else if c = '\n' then ['\\', 'n']
  else if c = '\r' then ['\\', 'r']
  else if c = '\t' then ['\\', 't']
  else if isPrintable c then [c]
  else if c.toNat < 0x100 then '\\' :: 'x' :: hex 2 c.toNat
  else if c.toNat < 0x10000 then '\\' :: 'u' :: hex 4 c.toNat
  else '\\' :: 'U' :: hex 8 c.toNat

def quoted (text : Text) : Text :=
  let quote : Character := if text.contains '\'' && !text.contains '"' then '"' else '\''
  quote :: text.flatMap (quotedChar quote) ++ [quote]

end LatheGloss.Text
