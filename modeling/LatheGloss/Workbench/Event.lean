import LatheGloss.Workbench.Basic

/-! Events at the workbench and what they bring about. An event may end in a fault; what was
done before it stays done.
-/

namespace LatheGloss

/-- The user presses a button and, where a file dialog opens, chooses a path, which is empty if
the dialog is cancelled; or uses the editor, the selector, the table or the window. -/
inductive Event where
  | loadProgram (path : Text)
  | refresh
  | clear
  | importBook (path : Text)
  | exportBook (path : Text)
  | selectModel (model : Text)
  | edit (text : Text)
  | timeout
  | activateRow (row : Int)
  | gotoLine (line : Int)
  | markLines (lines : List Int)
  | move (geometry : List Json)
  | close

/-- The workbench and the disk after an event, and what was logged and shown meanwhile. -/
structure Reply where
  bench : Workbench
  disk : Disk
  notices : List Notice
  dialogs : List Dialog
  fault : Option Fault

namespace Workbench

/-- Nothing but the workbench changes. -/
def quietly (bench : Workbench) (disk : Disk) : Reply where
  bench := bench
  disk := disk
  notices := []
  dialogs := []
  fault := none

/-- The workbench is refreshed, after notices and dialogs. -/
def thenRefresh (bench : Workbench) (disk : Disk) (notices : List Notice)
    (dialogs : List Dialog) : Reply :=
  let (refreshed, more) := bench.refresh
  { bench := refreshed, disk, notices := notices ++ more, dialogs, fault := none }

/-- Loads a program from a file. -/
def loadProgram (bench : Workbench) (disk : Disk) (path : Text) : Reply :=
  let asked := { bench.quietly disk with dialogs := [.openProgram] }
  if path.isEmpty then asked
  else
    match disk.readLossy path with
    | .ok text =>
        ((bench.setText text).say (.programLoaded path)).thenRefresh disk [] asked.dialogs
    | .error fault =>
        if fault.isRefusal then
          let text := "Could not open " ++ path ++ ":\n" ++ fault.message
          { asked with dialogs := asked.dialogs ++ [.critical text] }
        else
          { asked with fault := some (.disk fault) }

/-- Selects a model; another one than before becomes the default one. -/
def selectModel (bench : Workbench) (disk : Disk) (model : Text) : Reply :=
  let selected := bench.selector.select model
  if selected.current = bench.selector.current then bench.quietly disk
  else
    let settings := { bench.settings with defaultModel := .str model }
    ({ bench with selector := selected, settings }.say (.modelSelected model)).thenRefresh
      disk [] []

/-- Where a dialog for code books starts. -/
def exportDirectory (bench : Workbench) : Json :=
  if bench.settings.lastExportDirectory.isBlank then .str []
  else bench.settings.lastExportDirectory

/-- Merges the code book in a file. The selector gets the models of the merged code book and
keeps its selection. -/
def importBook (bench : Workbench) (disk : Disk) (path : Text) : Reply :=
  let asked := { bench.quietly disk with dialogs := [.openBook bench.exportDirectory] }
  if path.isEmpty then asked
  else
    match bench.annotator.importFile disk path with
    | .error fault =>
        if fault.concernsDictionary then
          { asked with
            notices := [.importFailed fault],
            dialogs := asked.dialogs ++ [.warning fault.message] }
        else
          { asked with fault := some fault }
    | .ok (annotator, notices) =>
        let merged :=
          { bench with
            annotator,
            selector := bench.selector.refill annotator.book.modelNames,
            settings := { bench.settings with dictionaryPath := .str path } }
        (merged.say (.bookImported path)).thenRefresh disk notices
          (asked.dialogs ++ [.information "辞書を読み込みました"])

/-- The name that is proposed for a code book's file. -/
def bookFileName : Text :=
  "tsugami_dict.json"

/-- Writes the code book to a file. -/
def exportBook (bench : Workbench) (disk : Disk) (path : Text) : Reply :=
  match bench.exportDirectory with
  | .str directory =>
      let asked :=
        { bench.quietly disk with dialogs := [.saveBook (Path.join directory bookFileName)] }
      if path.isEmpty then asked
      else
        match bench.annotator.book.save disk path with
        | (disk, .ok notices) =>
            let settings :=
              { bench.settings with lastExportDirectory := .str (Path.directory path) }
            let saved := { bench with settings }.say (.bookExported path)
            { asked with bench := saved, disk, notices }
        | (disk, .error fault) =>
            if fault.concernsDictionary then
              { asked with disk, dialogs := asked.dialogs ++ [.critical fault.message] }
            else
              { asked with disk, fault := some fault }
  | other => { bench.quietly disk with fault := some (.noPath other.kindName) }

/-- Closes the window and keeps its geometry in the settings file. -/
def close (bench : Workbench) (surroundings : Surroundings) (disk : Disk) : Reply :=
  let settings := { bench.settings with windowGeometry := .arr bench.geometry }
  let kept := { bench with settings }
  match settings.save surroundings disk none with
  | (disk, none) => { kept with shown := false }.quietly disk
  | (disk, some fault@(.settingsRefused _ _)) =>
      { { kept with shown := false }.quietly disk with notices := [.settingsNotSaved fault] }
  | (disk, some fault) => { kept.quietly disk with fault := some fault }

/-- What an event brings about. -/
def step (bench : Workbench) (surroundings : Surroundings) (disk : Disk) (event : Event)
    : Reply :=
  match event with
  | .loadProgram path => bench.loadProgram disk path
  | .refresh => bench.thenRefresh disk [] []
  | .clear => bench.clear.quietly disk
  | .importBook path => bench.importBook disk path
  | .exportBook path => bench.exportBook disk path
  | .selectModel model => bench.selectModel disk model
  | .edit text => (bench.setText text).quietly disk
  | .timeout =>
      if bench.refreshDue then
        { bench with refreshDue := false }.thenRefresh disk [] []
      else bench.quietly disk
  | .activateRow row => { bench with editor := bench.editor.goto (row + 1) }.quietly disk
  | .gotoLine line => { bench with editor := bench.editor.goto line }.quietly disk
  | .markLines lines => { bench with editor := bench.editor.markUnknown lines }.quietly disk
  | .move geometry => { bench with geometry }.quietly disk
  | .close => bench.close surroundings disk

end Workbench

end LatheGloss
