import Mathlib
import LatheGloss.Launch
import LatheGloss.Proofs.Settings.Loading
import LatheGloss.Proofs.Startup
import LatheGloss.Proofs.Workbench.Freshness

/-! Launching with whatever settings file there is. Settings that cannot be had are replaced by the
default ones, and so is a geometry that is none. Whether the workbench comes up is then decided by
two settings that nothing checks: the log level and the path of the code book.
-/

namespace LatheGloss

-----------------------------------------------------------------------------------------
-- The log
-----------------------------------------------------------------------------------------

namespace LogSetup

/-- Whether a value is taken for the name of a level. Unknown names are, but two names stand for
something else.
-/
def NamesLevel : Json → Prop
  | .str name => Text.upper name ≠ "BASIC_FORMAT" ∧ Text.upper name ≠ "_STYLES"
  | _ => False

instance : DecidablePred NamesLevel
  | .str _ => inferInstanceAs (Decidable (_ ∧ _))
  | .null | .bool _ | .int _ | .float _ | .arr _ | .obj _ => inferInstanceAs (Decidable False)

theorem exists_levelOf_iff {value : Json}
    : (∃ level, levelOf value = .ok level) ↔ NamesLevel value := by
  cases value with
  | str name =>
      simp only [levelOf, NamesLevel]
      split_ifs with format styles
      · refine iff_of_false ?_ fun names => names.1 format
        rintro ⟨level, found⟩
        cases found
      · refine iff_of_false ?_ fun names => names.2 styles
        rintro ⟨level, found⟩
        cases found
      · exact iff_of_true ⟨_, rfl⟩ ⟨format, styles⟩
  | _ => simp [levelOf, NamesLevel]

/-- The handlers that are missing can be attached. -/
@[mk_iff]
structure Attaches (handlers : List Handler) (disk : Disk) (level : Json) (directory : Text)
    : Prop where
  console : isAttached handlers .console = true ∨ NamesLevel level
  file
    : isAttached handlers .file = true
      ∨ ∃ touched,
          disk.touch (Path.collapse (Path.join directory "annotator.log")) = .ok touched

theorem exists_attachConsole_iff {handlers : List Handler} {level : Json}
    : (∃ attached, attachConsole handlers level = .ok attached)
      ↔ isAttached handlers .console = true ∨ NamesLevel level := by
  unfold attachConsole
  split
  · next there => exact iff_of_true ⟨_, rfl⟩ (.inl there)
  · next missing =>
      rw [← exists_levelOf_iff]
      cases levelOf level <;> simp [missing, Except.map]

/-- The console makes no difference for the file. -/
theorem isAttached_file_of_attachConsole {handlers attached : List Handler} {level : Json}
    (done : attachConsole handlers level = .ok attached)
    : isAttached attached .file = isAttached handlers .file := by
  unfold attachConsole at done
  split at done
  · cases done
    rfl
  · cases found : levelOf level with
    | error fault =>
        rw [found] at done
        cases done
    | ok number =>
        rw [found] at done
        obtain rfl := Except.ok.inj done
        simp [isAttached]

theorem fault_attachFile_iff {handlers : List Handler} {disk : Disk} {directory : Text}
    : (attachFile handlers disk directory).fault = none
      ↔ isAttached handlers .file = true
        ∨ ∃ touched,
            disk.touch (Path.collapse (Path.join directory "annotator.log"))
            = .ok touched := by
  unfold attachFile
  split
  · next there => exact iff_of_true rfl (.inl there)
  · next missing =>
      cases disk.touch (Path.collapse (Path.join directory "annotator.log")) <;>
        simp [missing]

theorem fault_attach_iff {handlers : List Handler} {disk : Disk} {level : Json} {directory : Text}
    : (attach handlers disk level directory).fault = none
      ↔ Attaches handlers disk level directory := by
  rw [attaches_iff, ← exists_attachConsole_iff, ← fault_attachFile_iff]
  unfold attach
  cases done : attachConsole handlers level with
  | error fault => simp
  | ok attached =>
      simp only [Except.ok.injEq, exists_eq', true_and]
      rw [fault_attachFile_iff, fault_attachFile_iff, isAttached_file_of_attachConsole done]

end LogSetup

-----------------------------------------------------------------------------------------
-- The launch
-----------------------------------------------------------------------------------------

namespace Launch

/-- The workbench came up with settings and with the code book that they ask for, and both may have
been worth notices.
-/
def Result.Opens (result : Result) (files : OpenFiles) (settings : Settings)
    (notices : List Notice)
    : Prop :=
  ∃ bench supplied more,
    result.outcome = .ok bench ∧ bench.shown = true ∧ bench.settings = settings
    ∧ Startup.Supplied settings result.disk files (bench.annotator.book, supplied)
    ∧ result.notices = notices ++ supplied ++ more

/-- After the settings, only the log and the code book can keep the workbench from coming up. -/
theorem opens_run_iff {surroundings : Surroundings} {handlers : List Handler} {disk : Disk}
    {files : OpenFiles} {settings : Settings} {notices : List Notice}
    (loaded : Settings.load surroundings disk none = .ok (settings, notices))
    (valid : Settings.validGeometry settings.windowGeometry = true)
    : (run surroundings handlers disk files).Opens files settings notices
      ↔ (LogSetup.setUp handlers surroundings disk settings.logLevel none).fault = none
        ∧ Startup.Takes (run surroundings handlers disk files).disk files
            settings.dictionaryPath := by
  unfold run
  rw [loaded]
  dsimp only
  generalize LogSetup.setUp handlers surroundings disk settings.logLevel none = log
  obtain ⟨attached, logDisk, fault⟩ := log
  cases fault with
  | some fault => simp [Result.Opens]
  | none =>
      dsimp only
      rw [← Startup.exists_annotator_iff_takes]
      cases found : Startup.annotator settings logDisk files with
      | error fault => simp [Result.Opens, found]
      | ok result =>
          obtain ⟨annotator, bookNotices⟩ := result
          obtain ⟨numbers, geometry⟩ := Workbench.geometryOf_of_valid valid
          have supplied := Startup.supplied_of_annotator found
          simp only [Workbench.start, geometry, found]
          exact iff_of_true ⟨_, _, _, rfl, rfl, rfl, supplied, rfl⟩ ⟨trivial, _, rfl⟩

/-- Whatever a settings file holds, if it does not nest too deep, there are settings with a
geometry, and the default ones if the file is of no use. If there is a directory for the log, the
workbench comes up with these just when the log can be attached, which the log level has to name a
level for unless the console already is, and start-up can do with the path of the code book.
-/
theorem run_opens_iff (handlers : List Handler) (files : OpenFiles) {surroundings : Surroundings}
    {disk prepared : Disk} {known : Bool} {directory : Text}
    (reachable : disk.hasEntry surroundings.settingsFile = .ok known)
    (shallow
      : ∀ text,
          disk.readText surroundings.settingsFile = .ok text
          → Json.nesting text ≤ Json.depthLimit)
    (creatable : LogSetup.directory surroundings disk = (prepared, .ok directory))
    : let result := run surroundings handlers disk files
      ∃ settings notices,
        Settings.load surroundings disk none = .ok (settings, notices)
        ∧ Settings.Loaded disk surroundings.settingsFile (settings, notices)
        ∧ Settings.validGeometry settings.windowGeometry = true
        ∧ (result.Opens files settings notices
          ↔ LogSetup.Attaches handlers prepared settings.logLevel directory
            ∧ Startup.Takes result.disk files settings.dictionaryPath) := by
  intro result
  obtain ⟨⟨settings, notices⟩, loaded, source⟩ := Settings.exists_loaded reachable shallow
  refine ⟨settings, notices, loaded, source, source.validGeometry, ?_⟩
  rw [opens_run_iff loaded source.validGeometry, ← LogSetup.fault_attach_iff]
  simp only [LogSetup.setUp, creatable]
  rfl

/-- A level that nobody knows, a path that is none and a geometry that is none do no harm. -/
theorem run_opens_iff_strangeValues
    : let bytes := Text.Utf8.bytes
        "\x7b\"log_level\": \"loud\", \"dictionary_path\": [], \"window_geometry\": 0\x7d"
      let disk : Disk :=
        ⟨[
          ([Text.Utf8.bytes "s"], .directory),
          ([Text.Utf8.bytes "s", Text.Utf8.bytes "settings.json"], .file bytes)
        ]⟩
      let surroundings : Surroundings := ⟨"h", "t", some "s"⟩
      let noFiles : OpenFiles := fun _ => none
      let prepared := (LogSetup.directory surroundings disk).1
      disk.hasEntry surroundings.settingsFile = .ok true
      ∧ (∀ text,
          disk.readText surroundings.settingsFile = .ok text
          → Json.nesting text ≤ Json.depthLimit)
      ∧ LogSetup.directory surroundings disk = (prepared, .ok "s/logs")
      ∧ ∃ settings notices,
          Settings.load surroundings disk none = .ok (settings, notices)
          ∧ (run surroundings [] disk noFiles).Opens noFiles settings notices := by
  intro bytes disk surroundings noFiles prepared
  have reachable : disk.hasEntry surroundings.settingsFile = .ok true := rfl
  have shallow
      : ∀ text,
          disk.readText surroundings.settingsFile = .ok text
          → Json.nesting text ≤ Json.depthLimit := by
    have held
        : ∀ text ∈ (disk.readText surroundings.settingsFile).toOption,
            Json.nesting text ≤ Json.depthLimit := by
      decide +kernel
    intro text found
    exact held text (by rw [found]; rfl)
  have creatable : LogSetup.directory surroundings disk = (prepared, .ok "s/logs") := rfl
  have values
      : ∀ settings ∈ (Settings.readFile disk surroundings.settingsFile).toOption,
          LogSetup.NamesLevel settings.logLevel ∧ settings.dictionaryPath.isBlank = true := by
    decide +kernel
  have touches
      : (prepared.touch (Path.collapse (Path.join "s/logs" "annotator.log"))).toOption.isSome
        = true := by
    decide +kernel
  obtain ⟨settings, notices, loaded, source, -, opens⟩ :=
    run_opens_iff [] noFiles reachable shallow creatable
  obtain ⟨level, blank⟩ :=
    source.transfer (p := fun level path => LogSetup.NamesLevel level ∧ path.isBlank = true)
      (by decide) fun settings found => values settings (by rw [found]; rfl)
  refine ⟨reachable, shallow, creatable, settings, notices, loaded, opens.mpr ⟨⟨?_, ?_⟩, ?_⟩⟩
  · exact .inr level
  · exact .inr (CodeBook.exists_toOption_iff.mp (Option.isSome_iff_exists.mp touches))
  · exact Startup.takes_of_isBlank blank

/-- A level that is a number keeps the workbench from coming up. -/
theorem exists_settings_failing
    : let bytes := Text.Utf8.bytes "\x7b\"log_level\": 5\x7d"
      let disk : Disk :=
        ⟨[
          ([Text.Utf8.bytes "s"], .directory),
          ([Text.Utf8.bytes "s", Text.Utf8.bytes "settings.json"], .file bytes)
        ]⟩
      let surroundings : Surroundings := ⟨"h", "t", some "s"⟩
      disk.readBytes surroundings.settingsFile = .ok bytes
      ∧ (∀ text ∈ (disk.readText surroundings.settingsFile).toOption,
          Json.nesting text ≤ Json.depthLimit)
      ∧ (LogSetup.directory surroundings disk).2 = .ok "s/logs"
      ∧ ∀ files, (run surroundings [] disk files).outcome = .error (.noText "int") := by
  intro bytes disk surroundings
  refine ⟨rfl, by decide +kernel, rfl, fun files => ?_⟩
  with_unfolding_all rfl

end Launch

end LatheGloss
