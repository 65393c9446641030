import LatheGloss.Program.Gloss
import LatheGloss.Text.Newline

/-! A program is annotated line by line.
-/

namespace LatheGloss.Program

/-- A line of a program with its gloss. Lines are numbered from one. -/
structure AnnotatedLine where
  number : Nat
  source : Text
  gloss : Gloss
  deriving DecidableEq

/-- The lines of a program text. -/
def sourceLines (program : Text) : List Text :=
  program.foldReturnPairs.lines

/-- The lines of a program text with their glosses, in order. -/
def annotate (describe : Text → Option Text) (program : Text) : List AnnotatedLine :=
  ((sourceLines program).zipIdx 1).map fun (source, number) =>
    { number, source, gloss := Gloss.ofLine describe source }

end LatheGloss.Program
