import LatheGloss.Json.Basic

/-! What the workbench tells the user: a status line, reports on a console, and dialogs.
-/

namespace LatheGloss

inductive Status where
  | ready
  | complete
  | unknown (lines : Nat)
  deriving DecidableEq

def Status.message : Status → Text
  | ready => "Ready"
  | complete => "Translation complete"
  | unknown lines => "未登録/不明: " ++ Text.ofNat lines ++ " 行"

inductive Report where
  | programLoaded (path : Text)
  | modelSelected (model : Text)
  | bookImported (path : Text)
  | bookExported (path : Text)
  deriving DecidableEq

def Report.message : Report → Text
  | programLoaded path => "Loaded: " ++ path
  | modelSelected model => "Switched to " ++ model
  | bookImported path => "Imported dictionary: " ++ path
  | bookExported path => "Exported dictionary: " ++ path

/-- A file dialog proposes where to start; a message box shows a text. -/
inductive Dialog where
  | openProgram
  | openBook (start : Json)
  | saveBook (start : Text)
  | critical (text : Text)
  | warning (text : Text)
  | information (text : Text)

namespace Dialog

def kind : Dialog → Text
  | openProgram | openBook _ => "open"
  | saveBook _ => "save"
  | critical _ => "critical"
  | warning _ => "warning"
  | information _ => "information"

def title : Dialog → Text
  | openProgram => "Open NC Program"
  | openBook _ => "Import Dictionary"
  | saveBook _ => "Export Dictionary"
  | critical _ | warning _ => "Error"
  | information _ => "Dictionary"

def programFilter : Text :=
  "NC Programs (*.nc *.txt *.ngc *.gcode);;All Files (*)"

def bookFilter : Text :=
  "JSON (*.json);;All Files (*)"

/-- What a dialog shows after its title: where it starts and the files to choose from, or its
text. -/
def details : Dialog → List Json
  | openProgram => [.str [], .str programFilter]
  | openBook start => [start, .str bookFilter]
  | saveBook start => [.str start, .str bookFilter]
  | critical text | warning text | information text => [.str text]

end Dialog

end LatheGloss
