import LatheGloss.Fault

/-! Notices: what the program writes to its log.
-/

namespace LatheGloss

inductive Notice where
  | merged (base models : Nat)
  | exported (path : Text)
  | imported (path : Text)
  | unknownModel (model : Text)
  | annotated (lines unknown : Nat)
  | settingsIgnored (path reason : Text)
  | geometryIgnored (geometry : Json)
  | dictionarySkipped (path : Text) (fault : Fault)
  | importFailed (fault : Fault)
  | settingsNotSaved (fault : Fault)

namespace Notice

def level : Notice → Text
  | merged _ _ | exported _ | imported _ => "INFO"
  | annotated _ _ => "DEBUG"
  | unknownModel _ | settingsIgnored _ _ | geometryIgnored _ | dictionarySkipped _ _
  | importFailed _ | settingsNotSaved _ => "WARNING"

/-- The name of the log that a notice goes to. -/
def log : Notice → Text
  | merged _ _ | exported _ | imported _ => "config.code_dictionary"
  | annotated _ _ | unknownModel _ => "annotation_processor"
  | settingsIgnored _ _ | geometryIgnored _ => "config.app_config"
  | dictionarySkipped _ _ => "main"
  | importFailed _ | settingsNotSaved _ => "gui.main_window"

def message : Notice → Text
  | merged base models =>
      "Merged " ++ Text.ofNat base ++ " base and " ++ Text.ofNat models
        ++ " model entries"
  | exported path => "Exported dictionary to " ++ path
  | imported path => "Imported dictionary from " ++ path
  | unknownModel model =>
      "Unknown model " ++ model.quoted ++ ", using common descriptions only"
  | annotated lines unknown =>
      "Annotated " ++ Text.ofNat lines ++ " lines (" ++ Text.ofNat unknown
        ++ " with unknown tokens)"
  | settingsIgnored path reason =>
      "Could not load settings from " ++ path ++ ", using defaults: " ++ reason
  | geometryIgnored geometry => "Ignoring invalid window geometry " ++ geometry.literal
  | dictionarySkipped path fault =>
      "Skipping dictionary " ++ path ++ ": " ++ fault.message
  | importFailed fault => "Dictionary import failed: " ++ fault.message
  | settingsNotSaved fault => fault.message

/-- A notice as it is logged, with its level and its log. -/
def render (notice : Notice) : Text :=
  notice.level ++ ↑ ' ' :: notice.log ++ ": " ++ notice.message

end Notice

end LatheGloss
