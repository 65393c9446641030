import LatheGloss.Demonstration

/-! The command line shows the demonstration.
-/

def main : IO Unit :=
  LatheGloss.Demonstration.lines.forM fun line => IO.println (String.ofList line.scalars)
