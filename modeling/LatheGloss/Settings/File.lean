import LatheGloss.Disk.Basic
import LatheGloss.Json.Reader
import LatheGloss.Notice
import LatheGloss.Settings.Basic
import LatheGloss.Settings.Surroundings

/-! Settings files. A file that cannot be used gives the default settings and a notice; only a
path that is too long and a file that nests values too deep are faults.
-/

namespace LatheGloss

namespace Settings

/-- The path of a settings file; the usual one if none or an empty one is asked for. -/
def filePath (surroundings : Surroundings) : Option Text → Text
  | none | some [] => surroundings.settingsFile
  | some path => Path.normal path

/-- Why a settings file gives no settings. -/
inductive Unusable where
  | file (fault : FileFault)
  | malformed (fault : Json.ReadFault Json.Position)
  | noObject (kind : Text)

def Unusable.message : Unusable → Text
  | file fault => fault.message
  | malformed fault => fault.message
  | noObject kind => ↑ '\'' :: kind ++ "' object has no attribute 'items'"

/-- The settings in a file, whatever their geometry is. -/
def readFile (disk : Disk) (path : Text) : Except Unusable Settings :=
  match disk.readText path with
  | .error fault => .error (.file fault)
  | .ok text =>
      match Json.read text with
      | .error fault => .error (.malformed fault)
      | .ok (.obj fields) => .ok (ofFields fields)
      | .ok value => .error (.noObject value.kindName)

/-- Settings with a geometry that can be used. -/
def withValidGeometry (settings : Settings) : Settings × List Notice :=
  if validGeometry settings.windowGeometry then (settings, [])
  else
    ({ settings with windowGeometry := defaultGeometry },
      [.geometryIgnored settings.windowGeometry])

/-- The settings in a file, or the default ones if there is none that can be used. -/
def load (surroundings : Surroundings) (disk : Disk) (path : Option Text)
    : Except Fault (Settings × List Notice) :=
  let path := filePath surroundings path
  match disk.hasEntry path with
  | .error fault => .error (.disk fault)
  | .ok false => .ok (default, [])
  | .ok true =>
      match readFile disk path with
      | .ok settings => .ok settings.withValidGeometry
      | .error (.malformed (.tooDeep container)) => .error (.tooDeep container)
      | .error unusable => .ok (default, [.settingsIgnored path unusable.message])

/-- Settings are written to files with an indentation of two. -/
def fileLayout : Json.Layout :=
  .indent 2

/-- Writes the settings to a file and creates the directories above it. Directories stay when
the file cannot be written, and so do the parts before one that cannot be encoded. Values deeper
than can be read back are not written. -/
def save (settings : Settings) (surroundings : Surroundings) (disk : Disk) (path : Option Text)
    : Disk × Option Fault :=
  let path := filePath surroundings path
  let refuse (fault : DiskFault) : Fault :=
    if fault.isRefusal then .settingsRefused path fault else .disk fault
  match disk.ensureDirectories (Path.parent path) with
  | (disk, some fault) => (disk, some (refuse fault))
  | (disk, none) =>
      if Json.depthLimit < settings.toJson.depth then (disk, some .tooDeepToWrite)
      else
        match disk.writeTexts path (settings.toJson.parts fileLayout) with
        | (disk, none) => (disk, none)
        | (disk, some fault) => (disk, some (refuse fault))

end Settings

end LatheGloss
