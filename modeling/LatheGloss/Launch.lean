import LatheGloss.LogSetup
import LatheGloss.Startup
import LatheGloss.Workbench.Event

/-! Launching the workbench: with nothing given, or with the settings, the log and the code book
that the user has.
-/

namespace LatheGloss.Launch

/-- A workbench with the known dialects and the settings of the user. -/
def plain (surroundings : Surroundings) (disk : Disk) : Except Fault (Workbench × List Notice) :=
  match Settings.load surroundings disk none with
  | .error fault => .error fault
  | .ok (settings, notices) =>
      (Workbench.start (.ofCodeBook Dialect.codeBook) settings).map fun (bench, more) =>
        (bench, notices ++ more)

/-- What a launch leaves behind, also when it ends in a fault. -/
structure Result where
  outcome : Except Fault Workbench
  handlers : List Handler
  disk : Disk
  notices : List Notice

/-- Reads the settings, sets up the log, reads the code book, from the disk or from one of the files
that are open by then, and shows the workbench. -/
def run (surroundings : Surroundings) (handlers : List Handler) (disk : Disk) (files : OpenFiles)
    : Result :=
  match Settings.load surroundings disk none with
  | .error fault => { outcome := .error fault, handlers, disk, notices := [] }
  | .ok (settings, settingsNotices) =>
      match LogSetup.setUp handlers surroundings disk settings.logLevel none with
      | { handlers, disk, fault := some fault } =>
          { outcome := .error fault, handlers, disk, notices := settingsNotices }
      | { handlers, disk, fault := none } =>
          match Startup.annotator settings disk files with
          | .error fault =>
              { outcome := .error fault, handlers, disk, notices := settingsNotices }
          | .ok (annotator, bookNotices) =>
              let before := settingsNotices ++ bookNotices
              match Workbench.start annotator settings with
              | .error fault => { outcome := .error fault, handlers, disk, notices := before }
              | .ok (bench, startNotices) =>
                  {
                    outcome := .ok { bench with shown := true }, handlers, disk,
                    notices := before ++ startNotices
                  }

end LatheGloss.Launch
