import LatheGloss.Text.Newline

/-! The editor of the workbench holds a program text, a cursor at the beginning of a line, and
the numbers of the lines with unknown words. Lines are numbered from one.
-/

namespace LatheGloss

inductive LineMark where
  | current
  | unknown
  deriving DecidableEq

/-- The colour behind a marked line. -/
def LineMark.colour : LineMark → Text
  | current => "#44475a"
  | unknown => "#660000"

/-- Marked lines stay as they are until the next marking, whatever happens to the text. -/
structure Editor where
  text : Text
  cursorLine : Nat
  unknownLines : List Int
  marks : List (Int × LineMark)
  deriving DecidableEq

namespace Editor

def blank : Editor where
  text := []
  cursorLine := 1
  unknownLines := []
  marks := []

def lineCount (editor : Editor) : Nat :=
  editor.text.count ↑ '\n' + 1

def hasLine (editor : Editor) (line : Int) : Bool :=
  0 < line && line ≤ editor.lineCount

/-- The width of the margin with the line numbers: ten for each digit of the last one. -/
def margin (editor : Editor) : Nat :=
  3 + 10 * (Text.ofNat editor.lineCount).length

/-- Marks the line of the cursor and the lines with unknown words that there are. -/
def remark (editor : Editor) : Editor :=
  { editor with
    marks :=
      ((editor.cursorLine : Int), .current)
        :: (editor.unknownLines.filter editor.hasLine).map fun line => (line, .unknown) }

/-- Numbers in ascending order, each of them once. -/
def ascending (lines : List Int) : List Int :=
  (lines.mergeSort (· ≤ ·)).eraseDups

/-- Replaces the lines with unknown words. -/
def markUnknown (editor : Editor) (lines : List Int) : Editor :=
  { editor with unknownLines := ascending lines }.remark

/-- Moves the cursor to a line, and marks lines anew if it was elsewhere. -/
def moveTo (editor : Editor) (line : Nat) : Editor :=
  if editor.cursorLine = line then editor else { editor with cursorLine := line }.remark

/-- Moves the cursor to a line that there is. -/
def goto (editor : Editor) (line : Int) : Editor :=
  if editor.hasLine line then editor.moveTo line.toNat else editor

/-- Replaces the text; the cursor goes to its beginning. -/
def setText (editor : Editor) (text : Text) : Editor :=
  { editor with text := text.foldReturns }.moveTo 1

end Editor

end LatheGloss
