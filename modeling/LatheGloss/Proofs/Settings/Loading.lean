import Mathlib
import LatheGloss.Proofs.Disk.Directories
import LatheGloss.Proofs.Json.FieldNames
import LatheGloss.Proofs.Json.Limits
import LatheGloss.Settings.File

/-! Loading settings. A file gives every setting that it has a field for, and the default of every
other one; settings that cannot be had are replaced by the default ones, and so is a geometry that
is none.
-/

namespace LatheGloss.Settings

-----------------------------------------------------------------------------------------
-- Settings by their names
-----------------------------------------------------------------------------------------

theorem Key.ofName?_eq_some_iff {name : Text} {key : Key}
    : Key.ofName? name = some key ↔ name = key.name := by
  constructor
  · intro found
    have same := List.find?_some found
    exact (eq_of_beq same).symm
  · rintro rfl
    cases key <;> decide

theorem get_set (settings : Settings) (key other : Key) (value : Json)
    : (settings.set key value).get other = if other = key then value else settings.get other := by
  cases key <;> cases other <;> rfl

/-- Settings are determined by their values. -/
theorem eq_of_get {settings other : Settings} (same : ∀ key, settings.get key = other.get key)
    : settings = other := by
  obtain ⟨model, dictionary, directory, level, geometry⟩ := settings
  obtain ⟨otherModel, otherDictionary, otherDirectory, otherLevel, otherGeometry⟩ := other
  obtain rfl : model = otherModel := same .defaultModel
  obtain rfl : dictionary = otherDictionary := same .dictionaryPath
  obtain rfl : directory = otherDirectory := same .lastExportDirectory
  obtain rfl : level = otherLevel := same .logLevel
  obtain rfl : geometry = otherGeometry := same .windowGeometry
  rfl

-----------------------------------------------------------------------------------------
-- Settings of fields
-----------------------------------------------------------------------------------------

/-- Settings with the value of one more field, if it is a setting. -/
def withField (settings : Settings) (field : Text × Json) : Settings :=
  match Key.ofName? field.1 with
  | some key => settings.set key field.2
  | none => settings

theorem get_withField (settings : Settings) (field : Text × Json) (key : Key)
    : (settings.withField field).get key
      = if field.1 = key.name then field.2 else settings.get key := by
  unfold withField
  split
  · next named found =>
      obtain rfl | other := eq_or_ne key named
      · rw [get_set, if_pos rfl, if_pos (Key.ofName?_eq_some_iff.mp found)]
      · have apart : field.1 ≠ key.name := by
          intro same
          have both := found.symm.trans (Key.ofName?_eq_some_iff.mpr same)
          exact other (Option.some.inj both).symm
        rw [get_set, if_neg other, if_neg apart]
  · next unknown =>
      have apart : field.1 ≠ key.name := by
        intro same
        rw [Key.ofName?_eq_some_iff.mpr same] at unknown
        cases unknown
      rw [if_neg apart]

/-- The last field of a setting's name counts, by induction over the fields. -/
theorem get_foldl_withField (settings : Settings) (fields : List (Text × Json)) (key : Key)
    : (fields.foldl withField settings).get key
      = (fields.reverse.lookup key.name).getD (settings.get key) := by
  induction fields generalizing settings with
  | nil => rfl
  | cons field rest ih =>
      obtain ⟨name, value⟩ := field
      rw [List.foldl_cons, ih, get_withField, List.reverse_cons, List.lookup_append,
        Table.lookup_cons_ite, List.lookup_nil]
      cases rest.reverse.lookup key.name with
      | some later => rfl
      | none =>
          by_cases same : name = key.name
          · simp [same]
          · simp [same, Ne.symm same]

theorem get_ofFields {fields : List (Text × Json)} (apart : (fields.map Prod.fst).Nodup) (key : Key)
    : (ofFields fields).get key = (fields.lookup key.name).getD (default.get key) := by
  have folded : ofFields fields = fields.foldl withField default := rfl
  rw [folded, get_foldl_withField, Table.lookup_reverse apart]

-----------------------------------------------------------------------------------------
-- Where settings come from
-----------------------------------------------------------------------------------------

/-- Where settings come from: there is no file, or it has settings, or it is ignored. -/
inductive Loaded (disk : Disk) (path : Text) : Settings × List Notice → Prop
  | missing (nothing : disk.hasEntry path = .ok false) : Loaded disk path (default, [])
  | read {settings} (found : readFile disk path = .ok settings)
    : Loaded disk path settings.withValidGeometry
  | ignored {unusable} (failed : readFile disk path = .error unusable)
    : Loaded disk path (default, [.settingsIgnored path unusable.message])

theorem validGeometry_withValidGeometry (settings : Settings)
    : validGeometry settings.withValidGeometry.1.windowGeometry = true := by
  unfold withValidGeometry
  split
  · assumption
  · rfl

theorem withValidGeometry_keeps (settings : Settings)
    : settings.withValidGeometry.1.logLevel = settings.logLevel
      ∧ settings.withValidGeometry.1.dictionaryPath = settings.dictionaryPath := by
  unfold withValidGeometry
  split <;> exact ⟨rfl, rfl⟩

theorem Loaded.validGeometry {disk : Disk} {path : Text} {loaded : Settings × List Notice}
    (found : Loaded disk path loaded)
    : Settings.validGeometry loaded.1.windowGeometry = true := by
  cases found with
  | missing _ => rfl
  | read _ => exact validGeometry_withValidGeometry _
  | ignored _ => rfl

/-- What holds of the level and the path of the default settings and of those in the file holds of
the settings that are used.
-/
theorem Loaded.transfer {disk : Disk} {path : Text} {loaded : Settings × List Notice}
    {p : Json → Json → Prop} (found : Loaded disk path loaded)
    (usual : p default.logLevel default.dictionaryPath)
    (held
      : ∀ settings, readFile disk path = .ok settings → p settings.logLevel settings.dictionaryPath)
    : p loaded.1.logLevel loaded.1.dictionaryPath := by
  cases found with
  | missing _ => exact usual
  | ignored _ => exact usual
  | @read settings found =>
      obtain ⟨level, dictionary⟩ := withValidGeometry_keeps settings
      rw [level, dictionary]
      exact held settings found

/-- A file that does not nest too deep is not given up on for its depth. -/
theorem readFile_ne_tooDeep {disk : Disk} {path : Text}
    (shallow : ∀ text, disk.readText path = .ok text → Json.nesting text ≤ Json.depthLimit)
    (container : Json.Container)
    : readFile disk path ≠ .error (.malformed (.tooDeep container)) := by
  unfold readFile
  cases found : disk.readText path with
  | error fault => simp
  | ok text =>
      dsimp only
      split
      · next fault failed =>
          intro same
          obtain rfl : fault = .tooDeep container := by simpa using same
          rcases Json.fault_of_read failed with ⟨_, _, mistake⟩ | ⟨_, _, deep⟩ | ⟨_, digits, _⟩
          · cases mistake
          · exact absurd (shallow text found) (Nat.not_le_of_lt deep)
          · cases digits
      · simp
      · simp

/-- Of a path that may be asked whether something is there, settings can be had. -/
theorem exists_loaded_at {surroundings : Surroundings} {disk : Disk} (path : Option Text)
    {known : Bool} (reachable : disk.hasEntry (filePath surroundings path) = .ok known)
    (shallow
      : ∀ text,
          disk.readText (filePath surroundings path) = .ok text
          → Json.nesting text ≤ Json.depthLimit)
    : ∃ loaded,
        load surroundings disk path = .ok loaded
        ∧ Loaded disk (filePath surroundings path) loaded := by
  unfold load
  dsimp only
  rw [reachable]
  cases known with
  | false => exact ⟨_, rfl, .missing reachable⟩
  | true =>
      dsimp only
      split
      · next settings found => exact ⟨_, rfl, .read found⟩
      · next container failed => exact absurd failed (readFile_ne_tooDeep shallow container)
      · next unusable _ failed => exact ⟨_, rfl, .ignored failed⟩

theorem exists_loaded {surroundings : Surroundings} {disk : Disk} {known : Bool}
    (reachable : disk.hasEntry surroundings.settingsFile = .ok known)
    (shallow
      : ∀ text,
          disk.readText surroundings.settingsFile = .ok text
          → Json.nesting text ≤ Json.depthLimit)
    : ∃ loaded,
        load surroundings disk none = .ok loaded
        ∧ Loaded disk surroundings.settingsFile loaded :=
  exists_loaded_at none reachable shallow

-----------------------------------------------------------------------------------------
-- What settings a file gives
-----------------------------------------------------------------------------------------

/-- The value that a file spells, if it spells one. -/
def content? (disk : Disk) (path : Text) : Option Json :=
  (disk.readText path).toOption.bind fun text => (Json.read text).toOption

theorem readFile_eq_ok_iff {disk : Disk} {path : Text} {settings : Settings}
    : readFile disk path = .ok settings
      ↔ ∃ fields, content? disk path = some (.obj fields) ∧ ofFields fields = settings := by
  unfold readFile content?
  cases disk.readText path with
  | error fault => simp [Except.toOption]
  | ok text =>
      simp only [Except.toOption, Option.bind_some]
      cases Json.read text with
      | error fault => simp
      | ok value => cases value <;> simp

theorem namesApart_of_content? {disk : Disk} {path : Text} {value : Json}
    (found : content? disk path = some value)
    : value.NamesApart := by
  obtain ⟨text, -, spelled⟩ := Option.bind_eq_some_iff.mp found
  cases scanned : Json.read text with
  | error fault =>
      rw [scanned] at spelled
      cases spelled
  | ok read =>
      rw [scanned] at spelled
      obtain rfl := Option.some.inj spelled
      exact Json.namesApart_of_read scanned

/-- What is used for a value of a setting: the value itself, unless it is a geometry that is none.
-/
def Key.usable (key : Key) (value : Json) : Json :=
  if key = .windowGeometry ∧ validGeometry value = false then defaultGeometry else value

theorem get_withValidGeometry (settings : Settings) (key : Key)
    : settings.withValidGeometry.1.get key = key.usable (settings.get key) := by
  unfold withValidGeometry Key.usable
  cases valid : validGeometry settings.windowGeometry <;> cases key <;> simp [get, valid]

theorem Key.usable_default (key : Key)
    : key.usable (default.get key) = default.get key := by
  cases key <;> rfl

theorem isInteger_iff {value : Json}
    : isInteger value = true ↔ ∃ number, value = .int number := by
  cases value <;> simp [isInteger]

/-- A geometry that is valid is four integers. -/
theorem validGeometry_iff {geometry : Json}
    : validGeometry geometry = true
      ↔ ∃ x y width height, geometry = .arr [.int x, .int y, .int width, .int height] := by
  constructor
  · intro valid
    unfold validGeometry at valid
    split at valid
    · next items =>
        obtain ⟨four, integers⟩ := Bool.and_eq_true_iff.mp valid
        obtain ⟨first, second, third, fourth, rfl⟩ :=
          List.length_eq_four.mp (of_decide_eq_true four)
        simp only [List.all_cons, List.all_nil, Bool.and_true, Bool.and_eq_true, isInteger_iff]
          at integers
        obtain ⟨⟨x, rfl⟩, ⟨y, rfl⟩, ⟨width, rfl⟩, height, rfl⟩ := integers
        exact ⟨x, y, width, height, rfl⟩
    · cases valid
  · rintro ⟨x, y, width, height, rfl⟩
    rfl

/-- The settings that a file asks for: what its fields say, and the default for every setting that
it has no field for; the default settings if it is no object at all. In any case their geometry is
four integers.
-/
structure Reflects (settings : Settings) (content : Option Json) : Prop where
  geometry
    : ∃ x y width height,
        settings.windowGeometry = .arr [.int x, .int y, .int width, .int height]
  fields
    : ∀ fields,
        content = some (.obj fields)
        → ∀ key,
            settings.get key = ((fields.lookup key.name).map key.usable).getD (default.get key)
  otherwise : (∀ fields, content ≠ some (.obj fields)) → settings = default

/-- Fields whose names are apart are reflected when their geometry has been checked. -/
theorem reflects_ofFields {fields : List (Text × Json)} (apart : (fields.map Prod.fst).Nodup)
    : (ofFields fields).withValidGeometry.1.Reflects (some (.obj fields)) where
  geometry := validGeometry_iff.mp (validGeometry_withValidGeometry _)
  fields := by
    intro others same key
    obtain rfl := Json.obj.inj (Option.some.inj same)
    rw [get_withValidGeometry, get_ofFields apart]
    cases fields.lookup key.name with
    | some value => rfl
    | none => exact key.usable_default
  otherwise noObject := absurd rfl (noObject fields)

theorem reflects_default {content : Option Json} (noObject : ∀ fields, content ≠ some (.obj fields))
    : default.Reflects content where
  geometry := ⟨_, _, _, _, rfl⟩
  fields fields object := absurd object (noObject fields)
  otherwise _ := rfl

theorem content?_of_missing {disk : Disk} {path : Text} (nothing : disk.hasEntry path = .ok false)
    : content? disk path = none := by
  cases found : disk.readBytes path with
  | ok bytes => cases (Disk.hasEntry_of_readBytes found).symm.trans nothing
  | error fault => rw [content?, Disk.readText, found]; rfl

/-- Wherever the settings come from, they are those that the file asks for. -/
theorem Loaded.reflects {disk : Disk} {path : Text} {loaded : Settings × List Notice}
    (found : Loaded disk path loaded)
    : loaded.1.Reflects (content? disk path) := by
  cases found with
  | missing nothing =>
      rw [content?_of_missing nothing]
      exact reflects_default fun fields none => nomatch none
  | read found =>
      obtain ⟨fields, content, rfl⟩ := readFile_eq_ok_iff.mp found
      rw [content]
      exact reflects_ofFields (namesApart_of_content? content)
  | ignored failed =>
      refine reflects_default fun fields content => ?_
      have held := readFile_eq_ok_iff.mpr ⟨fields, content, rfl⟩
      cases held.symm.trans failed

/-- Settings can be had of every path under which there is a file, whatever its bytes are, a
directory, or nothing at all, as long as the file does not nest too deep; and they are those that
the file asks for.
-/
theorem load_reflects {surroundings : Surroundings} {disk : Disk} (path : Option Text)
    (there
      : (∃ bytes, disk.readBytes (filePath surroundings path) = .ok bytes)
        ∨ disk.isDirectory (filePath surroundings path) = true
        ∨ disk.hasEntry (filePath surroundings path) = .ok false)
    (shallow
      : ∀ text,
          disk.readText (filePath surroundings path) = .ok text
          → Json.nesting text ≤ Json.depthLimit)
    : ∃ settings notices,
        load surroundings disk path = .ok (settings, notices)
        ∧ settings.Reflects (content? disk (filePath surroundings path)) := by
  have reachable : ∃ known, disk.hasEntry (filePath surroundings path) = .ok known := by
    rcases there with ⟨bytes, file⟩ | directory | nothing
    · exact ⟨true, Disk.hasEntry_of_readBytes file⟩
    · exact ⟨true, Disk.hasEntry_of_lookup (Disk.isDirectory_iff.mp directory)⟩
    · exact ⟨false, nothing⟩
  obtain ⟨known, reachable⟩ := reachable
  obtain ⟨⟨settings, notices⟩, loaded, source⟩ := exists_loaded_at path reachable shallow
  exact ⟨settings, notices, loaded, source.reflects⟩

set_option maxRecDepth 1024 in
/-- The last of two levels counts, though it is null, and a surrogate that stands alone is kept. A
setting of another program is ignored, and so is a geometry with a truth value in it.
-/
theorem load_reflects_mixedFields
    : let fields : List (Text × Json) :=
        [("log_level", .null), ("default_model", .str [.surrogate 0]), ("theme", .int 7),
          ("window_geometry", .arr [.int 1, .int 2, .int 3, .bool true])]
      let bytes := Text.Utf8.bytes
        ("\x7b\"log_level\": 1, \"default_model\": \"\\ud800\", \"theme\": 7, "
          ++ "\"log_level\": null, \"window_geometry\": [1, 2, 3, true]\x7d")
      let disk : Disk := ⟨[([Text.Utf8.bytes "s"], .file bytes)]⟩
      let surroundings : Surroundings := ⟨"h", "t", none⟩
      disk.readBytes "s" = .ok bytes
      ∧ (∀ text, disk.readText "s" = .ok text → Json.nesting text ≤ Json.depthLimit)
      ∧ content? disk "s" = some (.obj fields)
      ∧ ∃ settings notices,
          load surroundings disk (some "s") = .ok (settings, notices)
          ∧ settings.defaultModel = .str [.surrogate 0]
          ∧ settings.logLevel = .null
          ∧ settings.windowGeometry = defaultGeometry := by
  intro fields bytes disk surroundings
  have there : disk.readBytes "s" = .ok bytes := rfl
  have shallow : ∀ text, disk.readText "s" = .ok text → Json.nesting text ≤ Json.depthLimit := by
    have held : ∀ text ∈ (disk.readText "s").toOption, Json.nesting text ≤ Json.depthLimit := by
      decide +kernel
    intro text found
    exact held text (by rw [found]; rfl)
  have content : content? disk "s" = some (.obj fields) := by
    with_unfolding_all rfl
  obtain ⟨settings, notices, loaded, reflects⟩ :=
    @load_reflects surroundings disk (some "s") (.inl ⟨bytes, there⟩) shallow
  have values := reflects.fields fields content
  exact ⟨there, shallow, content, settings, notices, loaded, values .defaultModel,
    values .logLevel, values .windowGeometry⟩

end LatheGloss.Settings
