import LatheGloss.Disk.Path

/-! Surroundings: the directories that the program finds set up for it.
-/

namespace LatheGloss

/-- The user's home, a directory for scratch files, and a directory for the settings if one is
asked for. -/
structure Surroundings where
  home : Text
  scratch : Text
  settings : Option Text

namespace Surroundings

/-- The directory of the settings; an empty request counts as none. -/
def settingsDirectory (surroundings : Surroundings) : Text :=
  match surroundings.settings with
  | none | some [] => Path.join (Path.normal surroundings.home) ".cnc_annotator"
  | some directory => Path.normal directory

def settingsFile (surroundings : Surroundings) : Text :=
  Path.join surroundings.settingsDirectory "settings.json"

end Surroundings

end LatheGloss
