import LatheGloss.Annotator
import LatheGloss.Settings.File
import LatheGloss.Workbench.Editor
import LatheGloss.Workbench.Message
import LatheGloss.Workbench.Selector

/-! The workbench: an editor for a program, a table with the gloss of every line, a selector for
the model, and what belongs around them.
-/

namespace LatheGloss

/-- A line in the table: its source and its gloss, and a warning if it has unknown words. -/
structure Row where
  source : Text
  gloss : Text
  warning : Option Text
  deriving DecidableEq

namespace Row

/-- The warning names the unknown words. -/
def ofLine (line : Program.AnnotatedLine) : Row where
  source := line.source
  gloss := line.gloss.text
  warning :=
    if line.gloss.hasUnknown then some (([',', ' '] : Text).intercalate line.gloss.unknowns)
    else none

def background : Text :=
  "#ffe3e3"

def foreground : Text :=
  "#c92a2a"

def headers : List Text :=
  ["コード", "翻訳"]

end Row

/-- A refresh is due when the text has changed since the last one; it is made when the timer
runs out. -/
structure Workbench where
  annotator : Annotator
  settings : Settings
  editor : Editor
  selector : Selector
  rows : List Row
  status : Status
  console : List Report
  refreshDue : Bool
  shown : Bool
  geometry : List Json

namespace Workbench

def title : Text :=
  "CNC Line Annotator"

/-- The program that a new workbench shows. -/
def sampleProgram : Text :=
  [↑ '\n'].intercalate
    [
      "O0001 (SAMPLE)",
      "N1 (OUTER)",
      "G50 S5000;",
      "G0X38.0Z-1.0;",
      "G96 S120 M03;",
      "M08;",
      "G1 X10 Z-5 F0.05;",
      "G28U0W0;",
      "IF[#100EQ1]GOTO10;",
      "M10;",
      "M30;"
    ]

/-- The selected model, if there is one. -/
def model? (bench : Workbench) : Option Text :=
  if bench.selector.text.isEmpty then none else some bench.selector.text

/-- Glosses the text of the editor for the selected model and shows the outcome. -/
def refresh (bench : Workbench) : Workbench × List Notice :=
  let (annotator, notices) := bench.annotator.annotate bench.editor.text bench.model?
  let unknown := annotator.unknownLines
  ({ bench with
      annotator,
      rows := annotator.lines.map Row.ofLine,
      editor := bench.editor.markUnknown (unknown.map Int.ofNat),
      status := if unknown.isEmpty then .complete else .unknown unknown.length },
    notices)

/-- Replaces the text of the editor, after which a refresh is due. -/
def setText (bench : Workbench) (text : Text) : Workbench :=
  { bench with editor := bench.editor.setText text, refreshDue := true }

def say (bench : Workbench) (report : Report) : Workbench :=
  { bench with console := bench.console ++ [report] }

/-- Empties the editor and the table and forgets the last program. -/
def clear (bench : Workbench) : Workbench :=
  let cleared := bench.setText []
  { cleared with
    refreshDue := false,
    rows := [],
    editor := cleared.editor.markUnknown [],
    annotator := cleared.annotator.reset,
    status := .ready }

/-- The four numbers of a geometry. -/
def geometryOf (geometry : Json) : Except Fault (List Json) :=
  let numbers? : Option (List Json) :=
    match geometry with
    | .arr items => some items
    | .str text => some (text.map fun c => .str [c])
    | .obj fields => some (fields.map fun (name, _) => .str name)
    | _ => none
  match numbers? with
  | none => .error (.geometryType geometry.kindName)
  | some numbers =>
      if numbers.length = 4 then .ok numbers else .error (.geometryCount numbers.length)

/-- The selector of a new workbench: all models, with the one to begin with selected. -/
def initialSelector (annotator : Annotator) (settings : Settings) : Selector :=
  let models := annotator.book.modelNames
  let all := Selector.empty.add models
  match settings.initialModel models with
  | .str model => all.select model
  | _ => all

/-- A new workbench shows the sample program with its glosses. -/
def start (annotator : Annotator) (settings : Settings)
    : Except Fault (Workbench × List Notice) :=
  match geometryOf settings.windowGeometry with
  | .error fault => .error fault
  | .ok geometry =>
      let bench : Workbench :=
        {
          annotator,
          settings,
          editor := .blank,
          selector := initialSelector annotator settings,
          rows := [],
          status := .ready,
          console := [],
          refreshDue := false,
          shown := false,
          geometry
        }
      .ok (bench.setText sampleProgram).refresh

end Workbench

end LatheGloss
