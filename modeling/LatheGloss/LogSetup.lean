import LatheGloss.Disk.Basic
import LatheGloss.Json.Literal
import LatheGloss.Notice
import LatheGloss.Settings.Surroundings
import LatheGloss.Text.Uppercase

/-! Log handlers. Notices go to the console from some level on and to a file from the lowest
level on. Each handler is attached once, however often the log is set up.
-/

namespace LatheGloss

inductive Channel where
  | console
  | file
  deriving DecidableEq

def Channel.name : Channel → Text
  | console => "annotator_console"
  | file => "annotator_file"

/-- A handler takes notices from its level on. -/
structure Handler where
  channel : Channel
  level : Nat
  deriving DecidableEq

namespace LogSetup

/-- The levels by their names. -/
def levels : List (Text × Nat) :=
  [
    ("NOTSET", 0), ("DEBUG", 10), ("INFO", 20), ("WARN", 30),
    ("WARNING", 30), ("ERROR", 40), ("CRITICAL", 50), ("FATAL", 50)
  ]

def debugLevel : Nat := 10

/-- Names without a level mean this one. -/
def usualLevel : Nat := 20

/-- The texts of the name that stands for the format of a notice and of the name that stands
for the styles of formats. Neither is a level. -/
def basicFormat : Text :=
  "%(levelname)s:%(name)s:%(message)s"

def formatStyles : Text :=
  ("\x7b'%': (<class 'logging.PercentStyle'>, '%(levelname)s:%(name)s:%(message)s'), "
    ++ "'\x7b': (<class 'logging.StrFormatStyle'>, "
    ++ "'\x7blevelname\x7d:\x7bname\x7d:\x7bmessage\x7d'), "
    ++ "'$': (<class 'logging.StringTemplateStyle'>, "
    ++ "'$\x7blevelname\x7d:$\x7bname\x7d:$\x7bmessage\x7d')\x7d")

/-- The level of a name in any case. -/
def levelOf (value : Json) : Except Fault Nat :=
  match value with
  | .str name =>
      let name := Text.upper name
      if name = "BASIC_FORMAT" then .error (.unknownLevel basicFormat)
      else if name = "_STYLES" then .error (.levelType formatStyles)
      else .ok ((levels.lookup name).getD usualLevel)
  | value => .error (.noText value.kindName)

def isAttached (handlers : List Handler) (channel : Channel) : Bool :=
  handlers.any (·.channel = channel)

/-- The directory of the log: one beside the settings, or in the scratch directory if the disk
refuses that. -/
def directory (surroundings : Surroundings) (disk : Disk) : Disk × Except Fault Text :=
  let usual := Path.join surroundings.settingsDirectory "logs"
  match disk.ensureDirectories usual with
  | (disk, none) => (disk, .ok usual)
  | (disk, some (.refused _ _)) =>
      let other := Path.join (Path.normal surroundings.scratch) "cnc_annotator_logs"
      match disk.ensureDirectories other with
      | (disk, none) => (disk, .ok other)
      | (disk, some fault) => (disk, .error (.disk fault))
  | (disk, some fault) => (disk, .error (.disk fault))

/-- The handlers after a set-up, and the disk with the log file. -/
structure Result where
  handlers : List Handler
  disk : Disk
  fault : Option Fault

/-- Attaches the file handler unless there is one. Its file is created at once. -/
def attachFile (handlers : List Handler) (disk : Disk) (directory : Text) : Result :=
  if isAttached handlers .file then { handlers, disk, fault := none }
  else
    match disk.touch (Path.collapse (Path.join directory "annotator.log")) with
    | .ok disk => { handlers := handlers ++ [⟨.file, debugLevel⟩], disk, fault := none }
    | .error fault => { handlers, disk, fault := some (.disk fault) }

/-- Attaches the console handler unless there is one. Only then its level matters. -/
def attachConsole (handlers : List Handler) (level : Json) : Except Fault (List Handler) :=
  if isAttached handlers .console then .ok handlers
  else (levelOf level).map fun level => handlers ++ [⟨.console, level⟩]

/-- Attaches the handlers that are missing, first the console and then the file in the
directory. -/
def attach (handlers : List Handler) (disk : Disk) (level : Json) (directory : Text) : Result :=
  match attachConsole handlers level with
  | .error fault => { handlers, disk, fault := some fault }
  | .ok handlers => attachFile handlers disk directory

/-- Sets the log up for a level, with the log file in a directory, or in the usual one if none
or an empty one is asked for. -/
def setUp (handlers : List Handler) (surroundings : Surroundings) (disk : Disk) (level : Json)
    (requested : Option Text) : Result :=
  match requested with
  | some path@(_ :: _) => attach handlers disk level (Path.normal path)
  | _ =>
      match directory surroundings disk with
      | (disk, .error fault) => { handlers, disk, fault := some fault }
      | (disk, .ok path) => attach handlers disk level path

/-- The level to set up for if none is given. -/
def initialLevel : Json :=
  .str "INFO"

end LogSetup

end LatheGloss
