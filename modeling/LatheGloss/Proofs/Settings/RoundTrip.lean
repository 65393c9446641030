import Mathlib
import LatheGloss.Proofs.Json.Characters
import LatheGloss.Proofs.Settings.Loading

/-! Settings that were saved are loaded as they were, but for a geometry that is none. Once they
were loaded their geometry is one, so saving and loading them again changes nothing; and where they
could be saved once they can be saved again.
-/

namespace LatheGloss.Settings

variable {settings : Settings} {surroundings : Surroundings} {disk written : Disk}
  {path : Option Text}

-----------------------------------------------------------------------------------------
-- Settings as fields
-----------------------------------------------------------------------------------------

/-- Settings all of whose values are read back as they were. -/
def Storable (settings : Settings) : Prop :=
  ∀ key, (settings.get key).Faithful

theorem faithful_defaultGeometry
    : defaultGeometry.Faithful := by
  simp only [defaultGeometry, Json.Faithful, Json.ItemsFaithful]
  decide

theorem storable_default
    : default.Storable := by
  intro key
  cases key with
  | defaultModel =>
      simp only [get, default]
      cases Dialect.models.head? <;> trivial
  | dictionaryPath | lastExportDirectory | logLevel => trivial
  | windowGeometry => exact faithful_defaultGeometry

/-- The fields of a settings file. -/
def fields (settings : Settings) : List (Text × Json) :=
  Key.all.map fun key => (key.name, settings.get key)

theorem nodup_names (settings : Settings)
    : (settings.fields.map Prod.fst).Nodup := by
  have names : settings.fields.map Prod.fst = Key.all.map Key.name := rfl
  rw [names]
  decide

theorem lookup_fields (settings : Settings) (key : Key)
    : settings.fields.lookup key.name = some (settings.get key) := by
  cases key <;> rfl

/-- The fields of settings give these settings again. -/
theorem ofFields_fields (settings : Settings)
    : ofFields settings.fields = settings := by
  apply eq_of_get
  intro key
  rw [get_ofFields settings.nodup_names, lookup_fields, Option.getD_some]

theorem Storable.faithful (storable : settings.Storable)
    : settings.toJson.Faithful := by
  rw [toJson, Json.Faithful, Json.fieldsFaithful_iff]
  refine ⟨settings.nodup_names, ?_⟩
  intro field member
  obtain ⟨key, -, rfl⟩ := List.mem_map.mp member
  exact storable key

-----------------------------------------------------------------------------------------
-- Saving
-----------------------------------------------------------------------------------------

/-- Settings are saved when the directories above the file can be had, when the settings do not nest
too deep, when their text can be encoded, and when the disk takes the bytes.
-/
theorem save_eq_none_iff
    : settings.save surroundings disk path = (written, none)
      ↔ ∃ prepared bytes,
          disk.ensureDirectories (Path.parent (filePath surroundings path)) = (prepared, none)
          ∧ settings.toJson.depth ≤ Json.depthLimit
          ∧ Text.Utf8.encode (settings.toJson.write fileLayout) = .ok bytes
          ∧ prepared.writeBytes (filePath surroundings path) bytes = .ok written := by
  have text := Json.flatten_parts fileLayout settings.toJson
  unfold save
  dsimp only
  generalize disk.ensureDirectories (Path.parent (filePath surroundings path)) = ensured
  obtain ⟨prepared, fault⟩ := ensured
  cases fault with
  | some fault => simp
  | none =>
      have taken := @Disk.writeTexts_eq_none_iff prepared written (filePath surroundings path)
        (settings.toJson.parts fileLayout)
      rw [text] at taken
      dsimp only
      split
      · next deep =>
          simp only [Prod.mk.injEq, reduceCtorEq, and_false, and_true, false_iff, not_exists]
          rintro other bytes ⟨-, bounded, -⟩
          exact absurd bounded (Nat.not_le_of_lt deep)
      · next bounded =>
          have bounded := Nat.not_lt.mp bounded
          simp only [Prod.mk.injEq, and_true, bounded, true_and, exists_and_left, exists_eq_left',
            ← taken]
          split <;> simp_all

/-- The file of saved settings has these settings. -/
theorem readFile_of_save (storable : settings.Storable)
    (saved : settings.save surroundings disk path = (written, none))
    : readFile written (filePath surroundings path) = .ok settings := by
  obtain ⟨prepared, bytes, -, bounded, encoded, wrote⟩ := save_eq_none_iff.mp saved
  have noReturn : ↑ '\r' ∉ settings.toJson.write fileLayout :=
    Json.return_not_mem_write storable.faithful (some 2)
  have text := Disk.readText_writeBytes encoded noReturn wrote
  have value := Json.read_write (Json.Layout.blank_ofIndentation (some 2)) storable.faithful bounded
  have content : content? written (filePath surroundings path) = some (.obj settings.fields) := by
    rw [content?, text]
    exact congrArg Except.toOption value
  exact readFile_eq_ok_iff.mpr ⟨settings.fields, content, settings.ofFields_fields⟩

theorem load_of_save (storable : settings.Storable)
    (saved : settings.save surroundings disk path = (written, none))
    : load surroundings written path = .ok settings.withValidGeometry := by
  obtain ⟨prepared, bytes, -, -, -, wrote⟩ := save_eq_none_iff.mp saved
  have there := Disk.hasEntry_of_readBytes (Disk.readBytes_writeBytes wrote)
  unfold load
  dsimp only
  rw [there, readFile_of_save storable saved]

-----------------------------------------------------------------------------------------
-- Saving what was loaded
-----------------------------------------------------------------------------------------

theorem Storable.withValidGeometry (storable : settings.Storable)
    : settings.withValidGeometry.1.Storable := by
  intro key
  rw [get_withValidGeometry, Key.usable]
  split
  · exact faithful_defaultGeometry
  · exact storable key

/-- The default geometry nests no deeper than the limit, and nothing else is replaced. -/
theorem depth_withValidGeometry (bounded : settings.toJson.depth ≤ Json.depthLimit)
    : settings.withValidGeometry.1.toJson.depth ≤ Json.depthLimit := by
  unfold withValidGeometry
  split
  · exact bounded
  · simp only [toJson, Key.all, List.map_cons, List.map_nil, get, Json.depth, Json.fieldsDepth,
      defaultGeometry, Json.itemsDepth, Json.depthLimit] at bounded ⊢
    omega

/-- The texts of settings are the names of their fields and the texts of their values. -/
theorem forall_texts_iff {kind : Text → Prop}
    : (∀ text ∈ settings.toJson.texts, kind text)
      ↔ ∀ key : Key, kind key.name ∧ ∀ text ∈ (settings.get key).texts, kind text := by
  have all : ∀ key : Key, key ∈ Key.all := by
    intro key
    cases key <;> decide
  have fields : settings.toJson.texts
      = Json.fieldTexts (Key.all.map fun key => (key.name, settings.get key)) := rfl
  rw [fields, Json.forall_mem_fieldTexts_iff, List.forall_mem_map]
  exact ⟨fun each key => each key (all key), fun each key _ => each key⟩

/-- The default geometry has no texts, and nothing else is replaced. -/
theorem texts_withValidGeometry {kind : Text → Prop}
    (each : ∀ text ∈ settings.toJson.texts, kind text)
    : ∀ text ∈ settings.withValidGeometry.1.toJson.texts, kind text := by
  rw [forall_texts_iff] at each ⊢
  intro key
  refine ⟨(each key).1, ?_⟩
  rw [get_withValidGeometry, Key.usable]
  split
  · exact fun text none => nomatch none
  · exact (each key).2

/-- A geometry that was replaced once is not replaced again. -/
theorem withValidGeometry_again (settings : Settings)
    : settings.withValidGeometry.1.withValidGeometry = (settings.withValidGeometry.1, []) :=
  if_pos (validGeometry_withValidGeometry settings)

/-- Settings that were saved can be saved with a valid geometry in the same file, whatever it holds
now.
-/
theorem exists_save_again (storable : settings.Storable)
    (saved : settings.save surroundings disk path = (written, none))
    : ∃ again, settings.withValidGeometry.1.save surroundings written path = (again, none) := by
  obtain ⟨prepared, bytes, ensured, bounded, encoded, wrote⟩ := save_eq_none_iff.mp saved
  have scalar := texts_withValidGeometry
    ((Json.isScalar_write_iff storable.faithful (some 2)).mp
      (Text.Utf8.encode_eq_ok_iff.mp encoded).1)
  have spelled :=
    (Json.isScalar_write_iff storable.withValidGeometry.faithful (some 2)).mpr scalar
  obtain ⟨again, rewrote⟩ := Disk.exists_writeBytes_again wrote
    (Text.Utf8.bytes (settings.withValidGeometry.1.toJson.write fileLayout))
  have same := Disk.ensureDirectories_again ensured wrote
  exact ⟨again, save_eq_none_iff.mpr ⟨written, _, same, depth_withValidGeometry bounded,
    Text.Utf8.encode_eq_ok_iff.mpr ⟨spelled, rfl⟩, rewrote⟩⟩

/-- Settings that were saved, whatever values they have that a file can hold, are loaded from there
as they were, and with the default geometry if theirs is none. What was loaded can be saved there
again, and saved anywhere it is loaded as it is.
-/
theorem load_save_load (storable : settings.Storable)
    (saved : settings.save surroundings disk path = (written, none))
    : ∃ loaded notices,
        load surroundings written path = .ok (loaded, notices)
        ∧ (validGeometry settings.windowGeometry = true → loaded = settings ∧ notices = [])
        ∧ (validGeometry settings.windowGeometry = false
          → loaded = { settings with windowGeometry := defaultGeometry })
        ∧ (∃ again, loaded.save surroundings written path = (again, none))
        ∧ ∀ surroundings disk path again,
            loaded.save surroundings disk path = (again, none)
            → load surroundings again path = .ok (loaded, []) := by
  refine ⟨settings.withValidGeometry.1, settings.withValidGeometry.2, load_of_save storable saved,
    ?_, ?_, exists_save_again storable saved, ?_⟩
  · intro valid
    simp [withValidGeometry, valid]
  · intro invalid
    simp [withValidGeometry, invalid]
  · intro surroundings disk path again resaved
    rw [load_of_save storable.withValidGeometry resaved, withValidGeometry_again]

/-- Nested values, escapes and an integer below zero come back; a geometry of three numbers does
not.
-/
theorem load_save_load_nested
    : let settings : Settings :=
        { default with
          dictionaryPath :=
            .obj [(['a'], .arr []), (['"', '\n'], .arr [.null, .bool true, .obj []])]
          logLevel := .int (-7)
          windowGeometry := .arr [.int 1, .int 2, .int 3] }
      let surroundings : Surroundings := ⟨"h", "t", none⟩
      let path : Option Text := some "d/s"
      settings.Storable
      ∧ ∃ written again loaded notices,
          settings.save surroundings .empty path = (written, none)
          ∧ load surroundings written path = .ok (loaded, notices)
          ∧ loaded = { settings with windowGeometry := defaultGeometry }
          ∧ loaded.save surroundings written path = (again, none)
          ∧ load surroundings again path = .ok (loaded, []) := by
  intro settings surroundings path
  have storable : settings.Storable := by
    intro key
    cases key with
    | defaultModel => exact storable_default .defaultModel
    | lastExportDirectory => exact storable_default .lastExportDirectory
    | dictionaryPath | logLevel | windowGeometry =>
        simp only [settings, get, Json.Faithful, Json.ItemsFaithful, Json.FieldsFaithful]
        decide
  let prepared : Disk := ⟨[([Text.Utf8.bytes "d"], .directory)]⟩
  have parent : Path.parent (filePath surroundings path) = "d" := by decide +kernel
  have ensured : Disk.empty.ensureDirectories (Path.parent (filePath surroundings path))
      = (prepared, none) := by
    rw [parent]
    rfl
  have writable (bytes : List UInt8)
      : ∃ written, prepared.writeBytes (filePath surroundings path) bytes = .ok written := ⟨_, rfl⟩
  obtain ⟨written, wrote⟩ := writable (Text.Utf8.bytes (settings.toJson.write fileLayout))
  have bounded : settings.toJson.depth ≤ Json.depthLimit := by decide
  have scalar : ∀ text ∈ settings.toJson.texts, ∀ c ∈ text, c.isScalar = true := by decide
  have spelled := (Json.isScalar_write_iff storable.faithful (some 2)).mpr scalar
  have encoded := Text.Utf8.encode_eq_ok_iff.mpr ⟨spelled, rfl⟩
  have saved := save_eq_none_iff.mpr ⟨prepared, _, ensured, bounded, encoded, wrote⟩
  obtain ⟨loaded, notices, found, -, replaced, ⟨again, resaved⟩, settled⟩ :=
    load_save_load storable saved
  exact ⟨storable, written, again, loaded, notices, saved, found, replaced rfl, resaved,
    settled surroundings written path again resaved⟩

end LatheGloss.Settings
