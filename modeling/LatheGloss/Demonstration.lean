import LatheGloss.Annotator
import LatheGloss.CodeBook.Dialect

/-! A demonstration: a short program with its glosses and its statistics.
-/

namespace LatheGloss.Demonstration

def program : Text :=
  [↑ '\n'].intercalate
    [
      "O0001 (SAMPLE)",
      "G50 S5000;",
      "G0X38.0Z-1.0 T0101;",
      "G96 S120 M03;",
      "G1 X10 Z-5 F0.05;",
      "G999;",
      "M30;"
    ]

def model : Text :=
  "BE12"

/-- A line beside its gloss, with a mark before it if it has unknown words. -/
def showLine (line : Program.AnnotatedLine) : Text :=
  (if line.gloss.hasUnknown then ↑ '!' else ↑ ' ') :: ↑ ' ' :: line.source.padEnd 24
    ++ ↑ ' ' :: line.gloss.text

def lines : List Text :=
  let (annotator, _) := (Annotator.ofCodeBook Dialect.codeBook).annotate program (some model)
  annotator.lines.map showLine ++ [annotator.statistics.toJson.literal]

end LatheGloss.Demonstration
