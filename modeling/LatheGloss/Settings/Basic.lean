import LatheGloss.CodeBook.Dialect
import LatheGloss.Json.Writer

/-! Settings of the user. A settings file may hold any value for any of them, so each is a JSON
value; only the window's geometry is ever checked.
-/

namespace LatheGloss

structure Settings where
  defaultModel : Json
  dictionaryPath : Json
  lastExportDirectory : Json
  logLevel : Json
  windowGeometry : Json

namespace Settings

def defaultGeometry : Json :=
  .arr [.int 100, .int 100, .int 1400, .int 900]

/-- The first model, no paths, and a window that fits most screens. -/
def default : Settings where
  defaultModel := (Dialect.models.head?.map Json.str).getD .null
  dictionaryPath := .null
  lastExportDirectory := .null
  logLevel := .str "INFO"
  windowGeometry := defaultGeometry

/-- A setting by its name in a settings file. -/
inductive Key where
  | defaultModel
  | dictionaryPath
  | lastExportDirectory
  | logLevel
  | windowGeometry
  deriving DecidableEq

namespace Key

/-- The order in which settings are written. -/
def all : List Key :=
  [defaultModel, dictionaryPath, lastExportDirectory, logLevel, windowGeometry]

def name : Key → Text
  | defaultModel => "default_model"
  | dictionaryPath => "dictionary_path"
  | lastExportDirectory => "last_export_dir"
  | logLevel => "log_level"
  | windowGeometry => "window_geometry"

def ofName? (name : Text) : Option Key :=
  all.find? (·.name == name)

end Key

def get (settings : Settings) : Key → Json
  | .defaultModel => settings.defaultModel
  | .dictionaryPath => settings.dictionaryPath
  | .lastExportDirectory => settings.lastExportDirectory
  | .logLevel => settings.logLevel
  | .windowGeometry => settings.windowGeometry

def set (settings : Settings) (key : Key) (value : Json) : Settings :=
  match key with
  | .defaultModel => { settings with defaultModel := value }
  | .dictionaryPath => { settings with dictionaryPath := value }
  | .lastExportDirectory => { settings with lastExportDirectory := value }
  | .logLevel => { settings with logLevel := value }
  | .windowGeometry => { settings with windowGeometry := value }

def toJson (settings : Settings) : Json :=
  .obj (Key.all.map fun key => (key.name, settings.get key))

/-- The settings on one line. -/
def render (settings : Settings) : Text :=
  settings.toJson.write .oneLine

/-- Settings with the values of fields; fields of other names are ignored. -/
def ofFields (fields : List (Text × Json)) : Settings :=
  fields.foldl
    (fun settings (name, value) =>
      match Key.ofName? name with
      | some key => settings.set key value
      | none => settings)
    default

def isInteger : Json → Bool
  | .int _ => true
  | _ => false

/-- A geometry is four integers: where the window is, and how wide and how high. -/
def validGeometry : Json → Bool
  | .arr items => items.length = 4 && items.all isInteger
  | _ => false

/-- Whether the default model is one of the models. -/
def knowsDefault (settings : Settings) (models : List Text) : Bool :=
  match settings.defaultModel with
  | .str model => models.contains model
  | _ => false

/-- The model to begin with: the default model, or the first one if that is not among the
models. -/
def initialModel (settings : Settings) (models : List Text) : Json :=
  if settings.knowsDefault models then settings.defaultModel
  else
    match models with
    | first :: _ => .str first
    | [] => settings.defaultModel

end Settings

end LatheGloss
