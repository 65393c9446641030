import LatheGloss.CodeBook.Exchange
import LatheGloss.Issue
import LatheGloss.Program.Annotation

/-! The annotator glosses programs by its code book. Of the last program it keeps the annotated
lines and an issue for every unknown word.
-/

namespace LatheGloss

open Program

structure Annotator where
  book : CodeBook
  lines : List AnnotatedLine
  issues : IssueLog
  model : Option Text

/-- Counts over the lines of the last program, and its model. -/
structure Statistics where
  total : Nat
  glossed : Nat
  empty : Nat
  unknown : Nat
  issues : Nat
  warnings : Nat
  model : Option Text

/-- The columns of a line in which an unknown word first stands outside of comments; all columns
if it stands there nowhere. -/
def wordColumns (source word : Text) : Nat × Nat :=
  match Text.find? word (Text.upper (maskComments source)) with
  | some start => (start, start + word.length)
  | none => (0, source.length)

/-- The issue that reports an unknown word of a line. A command is not registered, and any other
word is not recognised. -/
def unknownWordIssue (line : AnnotatedLine) (word : Text) : Issue :=
  let (start, stop) := wordColumns line.source word
  match classify word with
  | .command _ =>
      {
        line := line.number, start, stop, message := "Unregistered code: " ++ word,
        kind := .unregisteredCode, severity := .warning
      }
  | _ =>
      {
        line := line.number, start, stop, message := "Unrecognized token: " ++ word,
        kind := .unknownToken, severity := .warning
      }

/-- The issues of annotated lines, one for every unknown word, in the order of the program. -/
def issuesOf (lines : List AnnotatedLine) : IssueLog :=
  ⟨lines.flatMap fun line => line.gloss.unknowns.map (unknownWordIssue line)⟩

def Statistics.toJson (statistics : Statistics) : Json :=
  .obj
    [
      ("total_lines", .int statistics.total),
      ("translated_lines", .int statistics.glossed),
      ("empty_lines", .int statistics.empty),
      ("unknown_lines", .int statistics.unknown),
      ("issues", .int statistics.issues),
      ("warnings", .int statistics.warnings),
      ("model", (statistics.model.map Json.str).getD .null)
    ]

namespace Annotator

def ofCodeBook (book : CodeBook) : Annotator where
  book := book
  lines := []
  issues := .empty
  model := none

/-- Forgets the last program. -/
def reset (annotator : Annotator) : Annotator :=
  ofCodeBook annotator.book

/-- The numbers of the lines with an unknown word. -/
def unknownLines (annotator : Annotator) : List Nat :=
  (annotator.lines.filter (·.gloss.hasUnknown)).map (·.number)

/-- A model that the code book does not know is worth a notice. -/
def modelNotices (annotator : Annotator) (model : Option Text) : List Notice :=
  match model with
  | none => []
  | some model => if annotator.book.hasModel model then [] else [.unknownModel model]

/-- Glosses a program for a model. -/
def annotate (annotator : Annotator) (program : Text) (model : Option Text)
    : Annotator × List Notice :=
  let lines := Program.annotate (annotator.book.describe model) program
  let annotated := { annotator with lines, issues := issuesOf lines, model }
  (annotated,
    annotator.modelNotices model ++ [.annotated lines.length annotated.unknownLines.length])

def statistics (annotator : Annotator) : Statistics :=
  let empty := annotator.lines.countP (·.gloss.text.isEmpty)
  {
    total := annotator.lines.length,
    glossed := annotator.lines.length - empty,
    empty,
    unknown := annotator.unknownLines.length,
    issues := annotator.issues.issues.length,
    warnings := annotator.issues.count .warning,
    model := annotator.model
  }

/-- The annotator with another code book; what it keeps of the last program stays. -/
def withBook (annotator : Annotator) (change : CodeBook × List Notice)
    : Annotator × List Notice :=
  ({ annotator with book := change.1 }, change.2)

/-- Merges the document in a file into the code book. -/
def importFile (annotator : Annotator) (disk : Disk) (path : Text)
    : Except Fault (Annotator × List Notice) :=
  (annotator.book.load disk path).map annotator.withBook

/-- Merges a document into the code book. -/
def importText (annotator : Annotator) (text : Text) : Except Fault (Annotator × List Notice) :=
  (annotator.book.importJson text none).map annotator.withBook

end Annotator

end LatheGloss
