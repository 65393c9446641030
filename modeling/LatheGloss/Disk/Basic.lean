import LatheGloss.Disk.Fault
import LatheGloss.Disk.Path
import LatheGloss.Text.Newline

/-! A disk holds files and directories. Paths are followed name by name, and every name but the
last has to lead to a directory. The top of the disk is a directory above which there is
nothing. A name or a path that is too long leads nowhere. On the disk a name is its bytes.
-/

namespace LatheGloss

/-- The names from the top of the disk down to a place. -/
abbrev Place := List (List UInt8)

inductive Entry where
  | file (bytes : List UInt8)
  | directory
  deriving DecidableEq

structure Disk where
  entries : List (Place × Entry)

namespace Disk

def empty : Disk :=
  ⟨[]⟩

def entry? (disk : Disk) (place : Place) : Option Entry :=
  if place.isEmpty then some .directory else disk.entries.lookup place

def put (disk : Disk) (place : Place) (entry : Entry) : Disk :=
  ⟨(place, entry) :: disk.entries.filter fun other => other.1 ≠ place⟩

/-- The most bytes that a name may have. -/
def longestName : Nat := 255

/-- The most bytes that a path may have. -/
def longestPath : Nat := 4095

/-- The place that a name leads to. -/
def follow (disk : Disk) (here : Place) (name : Text) : Except Refusal Place :=
  match disk.entry? here with
  | none => .error .missing
  | some (.file _) => .error .notDirectory
  | some .directory =>
      if name = [] ∨ name = (['.'] : Text) then .ok here
      else if name = (['.', '.'] : Text) then .ok here.dropLast
      else if longestName < (Text.Utf8.bytes name).length then .error .nameTooLong
      else .ok (here ++ [Text.Utf8.bytes name])

/-- The place that a path leads to; there may be nothing yet. -/
def locate (disk : Disk) (path : Text) : Except Refusal Place :=
  if path.isEmpty then .error .missing else (path.splitOn ↑ '/').foldlM disk.follow []

/-- What a path leads to. -/
def lookup (disk : Disk) (path : Text) : Except Refusal Entry := do
  match disk.entry? (← disk.locate path) with
  | some entry => .ok entry
  | none => .error .missing

/-- A path may have bytes that are no characters. -/
def isPathCharacter (c : Character) : Bool :=
  c.isScalar || Text.Utf8.isEscapedByte c

/-- An operation on a path. -/
def onPath {α : Type} (path : Text) (operation : Except Refusal α) : Except DiskFault α :=
  match Text.Utf8.unencodable? isPathCharacter path with
  | some fault => .error (.unencodable fault)
  | none =>
      if path.contains '\x00' then .error .nullCharacter
      else if longestPath < (Text.Utf8.bytes path).length then
        .error (.refused .nameTooLong (some path))
      else operation.mapError fun refusal => .refused refusal (some path)

/-- Whether a path leads to something. Of a name that is too long nothing is known. -/
def hasEntry (disk : Disk) (path : Text) : Except DiskFault Bool :=
  match onPath path (disk.lookup path) with
  | .ok _ => .ok true
  | .error (.refused .nameTooLong path) => .error (.refused .nameTooLong path)
  | .error _ => .ok false

def isDirectory (disk : Disk) (path : Text) : Bool :=
  match onPath path (disk.lookup path) with
  | .ok .directory => true
  | _ => false

def readBytes (disk : Disk) (path : Text) : Except DiskFault (List UInt8) :=
  onPath path <|
    match disk.lookup path with
    | .ok (.file bytes) => .ok bytes
    | .ok .directory => .error .isDirectory
    | .error refusal => .error refusal

/-- The text that the bytes of a file are, with line feeds for all line ends. -/
def textOf (bytes : List UInt8) : Except FileFault Text :=
  match Text.Utf8.decode bytes with
  | .error fault => .error (.encoding fault)
  | .ok text => .ok text.foldReturns

/-- The text of a file. -/
def readText (disk : Disk) (path : Text) : Except FileFault Text :=
  match disk.readBytes path with
  | .error fault => .error (.disk fault)
  | .ok bytes => textOf bytes

/-- The text of a file, with line feeds for all line ends and replacement characters for bytes
that are no text. -/
def readLossy (disk : Disk) (path : Text) : Except DiskFault Text :=
  (disk.readBytes path).map fun bytes => (Text.Utf8.decodeLossy bytes).foldReturns

/-- The place of a file that may have to be created. A path that ends with a slash is none,
whatever its last name is. -/
def locateFile (disk : Disk) (path : Text) : Except Refusal Place := do
  if path.getLast? = some ('/' : Character) then
    let above := (path.trimEnd (· == '/')).trimEnd (· != '/')
    if !above.isEmpty then let _ ← disk.locate above
    .error .isDirectory
  else
    let place ← disk.locate path
    if disk.entry? place = some .directory then .error .isDirectory else .ok place

/-- Writes a file, in place of the one that was there. -/
def writeBytes (disk : Disk) (path : Text) (bytes : List UInt8) : Except DiskFault Disk :=
  onPath path ((disk.locateFile path).map fun place => disk.put place (.file bytes))

/-- Writes texts to a file one after the other, up to the first that cannot be encoded. The file is
written even if none of them can. -/
def writeTexts (disk : Disk) (path : Text) (texts : List Text) : Disk × Option DiskFault :=
  let (bytes, fault) := Text.Utf8.encodeAll texts
  match disk.writeBytes path bytes with
  | .error refused => (disk, some refused)
  | .ok disk => (disk, fault.map .unencodable)

/-- Creates an empty file unless there is a file. -/
def touch (disk : Disk) (path : Text) : Except DiskFault Disk :=
  onPath path <| (disk.locateFile path).map fun place =>
    if (disk.entry? place).isSome then disk else disk.put place (.file [])

/-- Creates a directory in a directory that exists. -/
def makeDirectory (disk : Disk) (path : Text) : Except DiskFault Disk :=
  onPath path <|
    match disk.locate path with
    | .error refusal => .error refusal
    | .ok place =>
        if (disk.entry? place).isSome then .error .alreadyThere
        else .ok (disk.put place .directory)

/-- Creates a directory unless it is there already. -/
def ensureDirectory (disk : Disk) (path : Text) : Disk × Option DiskFault :=
  match disk.makeDirectory path with
  | .ok disk => (disk, none)
  | .error fault =>
      if fault.isRefusal && disk.isDirectory path then (disk, none) else (disk, some fault)

/-- Creates a directory and those above it, unless they are there already. The path is given by
its names, the last one first, and the slash before them if there is one. -/
def ensureNames (root : Text) : List Text → Disk → Disk × Option DiskFault
  | [], disk => disk.ensureDirectory (if root.isEmpty then ['.'] else root)
  | name :: above, disk =>
      let path := root ++ [↑ '/'].intercalate (name :: above).reverse
      match disk.makeDirectory path with
      | .error (.refused .missing _) =>
          match ensureNames root above disk with
          | (disk, none) => disk.ensureDirectory path
          | failed => failed
      | _ => disk.ensureDirectory path

/-- Creates a directory and those above it, unless they are there already. What was created
before something is refused stays. -/
def ensureDirectories (disk : Disk) (path : Text) : Disk × Option DiskFault :=
  let names := ((Path.normal path).splitOn ↑ '/').filter (· ≠ [])
  disk.ensureNames (if path.head? = some ('/' : Character) then ['/'] else []) names.reverse

end Disk

end LatheGloss
