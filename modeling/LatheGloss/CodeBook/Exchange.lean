import LatheGloss.CodeBook.Document
import LatheGloss.Disk.Basic
import LatheGloss.Json.Reader
import LatheGloss.Json.Writer
import LatheGloss.Notice

/-! Code books are exchanged as JSON texts and files. A document is read and checked in full
before anything of it is merged.
-/

namespace LatheGloss.CodeBook

/-- A code book after an operation, and what was logged. -/
abbrev Change := Except Fault (CodeBook × List Notice)

/-- Merges descriptions. -/
def extend (book : CodeBook) (supplement : Supplement) : CodeBook × List Notice :=
  (book.merge supplement, [.merged supplement.base.length supplement.modelEntries])

def exportJson (book : CodeBook) (layout : Json.Layout) : Text :=
  (Document.ofCodeBook book).write layout

/-- Merges a document that was read from a source. -/
def importDocument (book : CodeBook) (document : Json) (source : Option Text) : Change :=
  match Document.supplement document with
  | .error offence => .error (.importRefused (.misshapen offence) source)
  | .ok entries => .ok (book.extend entries)

/-- Merges a document that is spelled as JSON. -/
def importJson (book : CodeBook) (text : Text) (source : Option Text) : Change :=
  match Json.read text with
  | .error (.mistake what place) => .error (.importRefused (.malformed what place) source)
  | .error (.digitLimit digits) => .error (.digitLimit digits)
  | .error (.tooDeep container) => .error (.tooDeep container)
  | .ok document => book.importDocument document source

/-- Code books are written to files with an indentation of two. -/
def fileLayout : Json.Layout :=
  .indent 2

/-- Writes the document of a code book to a file, and gives the disk after that with what was
logged. The file is there even if the document cannot be encoded. -/
def save (book : CodeBook) (disk : Disk) (path : Text) : Disk × Except Fault (List Notice) :=
  match disk.writeTexts path [book.exportJson fileLayout] with
  | (disk, none) => (disk, .ok [.exported path])
  | (disk, some fault) =>
      (disk, .error (if fault.isRefusal then .exportRefused path fault else .disk fault))

/-- Merges the document that reading a file came to, if it came to a text. -/
def importFrom (book : CodeBook) (file : Except FileFault Text) (source : Text) : Change :=
  match file with
  | .error (.disk fault) =>
      if fault.isRefusal then .error (.importRefused (.unreadable (.disk fault)) (some source))
      else .error (.disk fault)
  | .error fault => .error (.importRefused (.unreadable fault) (some source))
  | .ok text =>
      (book.importJson text (some source)).map fun (book, notices) =>
        (book, notices ++ [.imported source])

/-- Merges the document in a file. -/
def load (book : CodeBook) (disk : Disk) (path : Text) : Change :=
  book.importFrom (disk.readText path) path

end LatheGloss.CodeBook
