import LatheGloss.Annotator
import LatheGloss.Disk.OpenFiles
import LatheGloss.Settings.File

/-! Start-up: an annotator with the code book that the settings ask for.
-/

namespace LatheGloss.Startup

/-- A path as it is shown. -/
def pathText : Json → Text
  | .str path => path
  | value => value.literal

/-- Merges the document at whatever the settings have for a path. A number stands for an open file,
and so do truth values, which count as zero and one. -/
def loadFrom (book : CodeBook) (disk : Disk) (files : OpenFiles) (path : Json)
    : CodeBook.Change :=
  match path with
  | .str path => book.load disk path
  | .bool value => book.importFrom (files.readText value.toNat) (pathText path)
  | .int number =>
      if number < -OpenFiles.numberLimit ∨ OpenFiles.numberLimit ≤ number then
        .error (.noPath path.kindName)
      else if number < 0 then .error .negativeDescriptor
      else book.importFrom (files.readText number.toNat) (pathText path)
  | _ => .error (.noPath path.kindName)

/-- The code book of the known dialects with the document of the settings merged in. A document
that is refused is skipped with a notice. -/
def codeBook (settings : Settings) (disk : Disk) (files : OpenFiles) : CodeBook.Change :=
  let path := settings.dictionaryPath
  if path.isBlank then .ok (Dialect.codeBook, [])
  else
    match loadFrom Dialect.codeBook disk files path with
    | .ok change => .ok change
    | .error fault =>
        if fault.concernsDictionary then
          .ok (Dialect.codeBook, [.dictionarySkipped (pathText path) fault])
        else .error fault

/-- The annotator that the settings ask for. -/
def annotator (settings : Settings) (disk : Disk) (files : OpenFiles)
    : Except Fault (Annotator × List Notice) :=
  (codeBook settings disk files).map fun (book, notices) => (.ofCodeBook book, notices)

end LatheGloss.Startup
