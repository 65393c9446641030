import LatheGloss.Table
import LatheGloss.Text.Uppercase

/-! A layer describes codes. Codes are written and looked up in uppercase.
-/

namespace LatheGloss

/-- Descriptions by code. -/
abbrev Layer := Table Text

namespace Layer

/-- Writes descriptions one after the other, each under its code in uppercase. -/
def write (layer : Layer) (entries : List (Text × Text)) : Layer :=
  layer.insertAll (entries.map fun (code, text) => (Text.upper code, text))

def ofEntries (entries : List (Text × Text)) : Layer :=
  write .empty entries

/-- The descriptions of two layers, where those of the second one win. -/
def overlay (under above : Layer) : Layer :=
  under.insertAll above.entries

end Layer

end LatheGloss
