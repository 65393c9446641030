import LatheGloss.CodeBook.Document
import LatheGloss.Disk.Fault
import LatheGloss.Json.Literal
import LatheGloss.Json.ReadFault

/-! Faults: what makes an operation fail, and what the user is told about it.
-/

namespace LatheGloss

/-- Why a code book document is refused. -/
inductive ImportCause where
  | unreadable (fault : FileFault)
  | malformed (mistake : Json.Mistake) (position : Json.Position)
  | misshapen (offence : Document.Offence)
  deriving DecidableEq

def ImportCause.message : ImportCause → Text
  | unreadable fault => fault.message
  | malformed mistake position => (Json.ReadFault.mistake mistake position).message
  | misshapen offence => offence.message

/-- A document is refused with its source, if it has one; documents and settings may not get
written; integers may be too long and values too deep; something other than a path or the name
of a log level may be used as one; and a window needs four numbers for its place. -/
inductive Fault where
  | importRefused (cause : ImportCause) (source : Option Text)
  | exportRefused (path : Text) (fault : DiskFault)
  | settingsRefused (path : Text) (fault : DiskFault)
  | disk (fault : DiskFault)
  | digitLimit (digits : Nat)
  | tooDeep (container : Json.Container)
  | tooDeepToWrite
  | noPath (kind : Text)
  | negativeDescriptor
  | noText (kind : Text)
  | unknownLevel (name : Text)
  | levelType (value : Text)
  | geometryCount (count : Nat)
  | geometryType (kind : Text)
  | unknownIssueKind (value : Json)
  | unknownSeverity (value : Json)

namespace Fault

def message : Fault → Text
  | importRefused cause source =>
      "JSON読み込みエラー: " ++ cause.message
        ++ (match source with
            | none | some [] => []
            | some source => " (" ++ source ++ ([')'] : Text))
  | exportRefused path fault => "Could not write " ++ path ++ ": " ++ fault.message
  | settingsRefused path fault =>
      "Could not save settings to " ++ path ++ ": " ++ fault.message
  | disk fault => fault.message
  | digitLimit digits => (Json.ReadFault.digitLimit digits).message
  | tooDeep container => (Json.ReadFault.tooDeep container).message
  | tooDeepToWrite => "maximum recursion depth exceeded"
  | noPath kind => "expected str, bytes or os.PathLike object, not " ++ kind
  | negativeDescriptor => "negative file descriptor"
  | noText kind => ↑ '\'' :: kind ++ "' object has no attribute 'upper'"
  | unknownLevel name => "Unknown level: " ++ name.quoted
  | levelType value => "Level not an integer or a valid string: " ++ value
  | geometryCount count =>
      "geometry takes 4 numbers but " ++ Text.ofNat count ++ " were given"
  | geometryType kind => "geometry must be an iterable, not " ++ kind
  | unknownIssueKind value => value.literal ++ " is not a valid ErrorType"
  | unknownSeverity value => value.literal ++ " is not a valid ErrorSeverity"

/-- Faults of reading and writing code book documents are reported to the user; others end the
operation that they occur in. -/
def concernsDictionary : Fault → Bool
  | importRefused _ _ | exportRefused _ _ => true
  | _ => false

end Fault

end LatheGloss
