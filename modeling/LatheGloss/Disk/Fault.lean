import LatheGloss.Text.Quoted
import LatheGloss.Text.Utf8

/-! Reasons why a file cannot be read or written, and their wording.
-/

namespace LatheGloss

/-- Why the disk refuses an operation. -/
inductive Refusal where
  | missing
  | badDescriptor
  | alreadyThere
  | notDirectory
  | isDirectory
  | nameTooLong
  deriving DecidableEq

namespace Refusal

def code : Refusal → Nat
  | missing => 2
  | badDescriptor => 9
  | alreadyThere => 17
  | notDirectory => 20
  | isDirectory => 21
  | nameTooLong => 36

def reason : Refusal → Text
  | missing => "No such file or directory"
  | badDescriptor => "Bad file descriptor"
  | alreadyThere => "File exists"
  | notDirectory => "Not a directory"
  | isDirectory => "Is a directory"
  | nameTooLong => "File name too long"

end Refusal

/-- An operation is refused, for the path that it was asked for if there is one. A path with a
null character is none, nor is one that cannot be encoded; and no such text can be written. -/
inductive DiskFault where
  | refused (refusal : Refusal) (path : Option Text)
  | nullCharacter
  | unencodable (fault : Text.Utf8.Unencodable)
  deriving DecidableEq

namespace DiskFault

def message : DiskFault → Text
  | refused refusal path =>
      "[Errno " ++ Text.ofNat refusal.code ++ "] " ++ refusal.reason
        ++ (match path with
            | some path => ": " ++ path.quoted
            | none => [])
  | nullCharacter => "embedded null byte"
  | unencodable fault => fault.message

def isRefusal : DiskFault → Bool
  | refused _ _ => true
  | nullCharacter | unencodable _ => false

end DiskFault

/-- A file cannot be read as text: the disk refuses it, it is open but cannot be read for a reason
of its own, or its bytes are no text. -/
inductive FileFault where
  | disk (fault : DiskFault)
  | openFile (reason : Text)
  | encoding (fault : Text.Utf8.Fault)
  deriving DecidableEq

def FileFault.message : FileFault → Text
  | disk fault => fault.message
  | openFile reason => reason
  | encoding fault => fault.message

end LatheGloss
