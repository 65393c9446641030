import Mathlib
import LatheGloss.Disk.Basic
import LatheGloss.Proofs.Text.Utf8

/-! A text that was written to a file is read back from it. Nothing is put in the place of a
directory, so every path that could be followed before leads to the same place afterwards.
-/

namespace LatheGloss

/-- A text without carriage returns has no line ends to translate. -/
theorem Text.foldReturns_of_not_mem {text : Text} (noReturn : ↑ '\r' ∉ text)
    : text.foldReturns = text := by
  induction text with
  | nil => rfl
  | cons c rest ih =>
      obtain ⟨here, later⟩ := List.ne_and_not_mem_of_not_mem_cons noReturn
      rw [Text.foldReturns, ih later]
      · intro tail same
        exact absurd same.symm here
      · exact here.symm

namespace Disk

theorem lookup_filter_ne {place other : Place} (apart : other ≠ place)
    (entries : List (Place × Entry))
    : (entries.filter fun entry => entry.1 ≠ place).lookup other = entries.lookup other := by
  induction entries with
  | nil => rfl
  | cons entry rest ih =>
      obtain ⟨here, content⟩ := entry
      by_cases same : here = place
      · subst here
        have skip : (other == place) = false := by simpa using apart
        rw [List.filter_cons_of_neg (by simp), ih, List.lookup_cons, skip]
      · rw [List.filter_cons_of_pos (by simpa using same), List.lookup_cons, List.lookup_cons, ih]

/-- A new entry is found at its place, and everything else where it was. -/
theorem entry?_put {place : Place} (below : place ≠ []) (disk : Disk) (entry : Entry)
    (other : Place)
    : entry? (disk.put place entry) other
      = if other = place then some entry else disk.entry? other := by
  unfold entry? put
  by_cases same : other = place
  · subst other
    simp [below]
  · have apart : (other == place) = false := by simpa using same
    simp only [List.lookup_cons, apart, if_neg same, lookup_filter_ne same]

variable {disk : Disk} {place : Place}

theorem ne_nil_of_not_directory (free : disk.entry? place ≠ some .directory)
    : place ≠ [] := by
  rintro rfl
  exact free rfl

/-- A name that could be followed leads to the same place when an entry is put where there was no
directory.
-/
theorem follow_put (free : disk.entry? place ≠ some .directory) (entry : Entry)
    {here there : Place} {name : Text} (followed : disk.follow here name = .ok there)
    : (disk.put place entry).follow here name = .ok there := by
  have apart : here ≠ place := by
    rintro rfl
    unfold follow at followed
    split at followed
    · cases followed
    · cases followed
    · next directory => exact free directory
  have kept := entry?_put (ne_nil_of_not_directory free) disk entry here
  rw [if_neg apart] at kept
  rwa [follow, kept]

/-- So does a whole path, by induction over its names. -/
theorem foldlM_follow_put (free : disk.entry? place ≠ some .directory) (entry : Entry)
    {names : List Text} {here there : Place}
    (followed : names.foldlM disk.follow here = .ok there)
    : names.foldlM (disk.put place entry).follow here = .ok there := by
  induction names generalizing here with
  | nil => exact followed
  | cons name rest ih =>
      rw [List.foldlM_cons] at followed ⊢
      cases step : disk.follow here name with
      | error refusal =>
          rw [step] at followed
          cases followed
      | ok next =>
          rw [step] at followed
          rw [follow_put free entry step]
          exact ih followed

theorem locate_put (free : disk.entry? place ≠ some .directory) (entry : Entry)
    {path : Text} {there : Place} (located : disk.locate path = .ok there)
    : (disk.put place entry).locate path = .ok there := by
  unfold locate at located ⊢
  split at located
  · cases located
  · next given => rw [if_neg given, foldlM_follow_put free entry located]

theorem lookup_put (free : disk.entry? place ≠ some .directory) (entry : Entry) {path : Text}
    (located : disk.locate path = .ok place)
    : (disk.put place entry).lookup path = .ok entry := by
  simp only [lookup, locate_put free entry located, bind, Except.bind,
    entry?_put (ne_nil_of_not_directory free), if_true]

/-- A path that ends with a slash is no place for a file. -/
theorem noSlash_of_locateFile {path : Text} (located : disk.locateFile path = .ok place)
    : path.getLast? ≠ some ('/' : Character) := by
  intro slash
  rw [locateFile, if_pos slash] at located
  simp only [bind, Except.bind] at located
  split at located
  · split at located <;> cases located
  · cases located

/-- The place of a file is located like any other place, and there is no directory. -/
theorem of_locateFile {path : Text} (located : disk.locateFile path = .ok place)
    : disk.locate path = .ok place ∧ disk.entry? place ≠ some .directory := by
  rw [locateFile, if_neg (noSlash_of_locateFile located)] at located
  simp only [bind, Except.bind] at located
  split at located
  · cases located
  · next found =>
      split at located
      · cases located
      · next free =>
          obtain rfl := Except.ok.inj located
          exact ⟨found, free⟩

/-- A file that is there does not keep a file from being put there. -/
theorem locateFile_put {path : Text} (located : disk.locateFile path = .ok place)
    (bytes : List UInt8)
    : (disk.put place (.file bytes)).locateFile path = .ok place := by
  obtain ⟨found, free⟩ := of_locateFile located
  have kept := locate_put free (.file bytes) found
  have there := entry?_put (ne_nil_of_not_directory free) disk (.file bytes) place
  rw [if_pos rfl] at there
  rw [locateFile, if_neg (noSlash_of_locateFile located), kept]
  simp only [bind, Except.bind, there]
  rfl

/-- A path for which an operation was done is one, and every other operation gets to it too. -/
theorem onPath_of_ok {α β : Type} {path : Text} {operation : Except Refusal α} {result : α}
    (done : onPath path operation = .ok result) (other : Except Refusal β)
    : onPath path other = other.mapError fun refusal => .refused refusal (some path) := by
  unfold onPath at done ⊢
  split at done
  · cases done
  · split at done
    · cases done
    · next noNull =>
        split at done
        · cases done
        · next short => rw [if_neg noNull, if_neg short]

theorem onPath_ok {α : Type} {path : Text} {operation : Except Refusal α} {result : α}
    (done : onPath path operation = .ok result)
    : operation = .ok result
      ∧ ∀ {β : Type} (value : β), onPath path (.ok value) = .ok value := by
  refine ⟨?_, fun value => onPath_of_ok done (.ok value)⟩
  rw [onPath_of_ok done operation] at done
  cases operation with
  | error refusal => cases done
  | ok value => exact congrArg _ (Except.ok.inj done)

/-- A text that can be a path: each of its characters has bytes, and none is the null character. -/
def IsPath (path : Text) : Prop :=
  (∀ c ∈ path, isPathCharacter c = true) ∧ ↑ '\x00' ∉ path

/-- The disk refuses nothing to a text that is no path; the text itself is at fault. -/
theorem exists_onPath_eq_noPath_iff {α : Type} {path : Text} {operation : Except Refusal α}
    : (∃ fault, onPath path operation = .error fault ∧ fault.isRefusal = false)
      ↔ ¬IsPath path := by
  rw [IsPath, ← Text.Utf8.unencodable?_eq_none_iff, onPath]
  cases spelled : Text.Utf8.unencodable? isPathCharacter path with
  | some fault => exact iff_of_true ⟨_, rfl, rfl⟩ fun isPath => nomatch isPath.1
  | none =>
      by_cases null : path.contains '\x00' = true
      · simp only [if_pos null]
        exact iff_of_true ⟨_, rfl, rfl⟩ fun isPath => isPath.2 (List.contains_iff_mem.mp null)
      · simp only [if_neg null]
        refine iff_of_false ?_ (not_not.mpr ⟨trivial, mt List.contains_iff_mem.mpr null⟩)
        rintro ⟨fault, failed, noRefusal⟩
        split_ifs at failed
        · cases failed
          cases noRefusal
        · cases operation <;> cases failed
          cases noRefusal

theorem textOf_ne_disk (bytes : List UInt8) (fault : DiskFault)
    : textOf bytes ≠ .error (.disk fault) := by
  unfold textOf
  split <;> simp

theorem exists_readText_eq_noPath_iff (disk : Disk) {path : Text}
    : (∃ fault, disk.readText path = .error (.disk fault) ∧ fault.isRefusal = false)
      ↔ ¬IsPath path := by
  have bytes : (∃ fault, disk.readBytes path = .error fault ∧ fault.isRefusal = false)
      ↔ ¬IsPath path :=
    exists_onPath_eq_noPath_iff
  rw [← bytes, readText]
  cases disk.readBytes path with
  | error fault => simp
  | ok content => simp [textOf_ne_disk]

/-- A written file is put at the place that the path leads to. -/
theorem of_writeBytes {written : Disk} {path : Text} {bytes : List UInt8}
    (done : disk.writeBytes path bytes = .ok written)
    : ∃ place, disk.locateFile path = .ok place ∧ written = disk.put place (.file bytes) := by
  obtain ⟨put, -⟩ := onPath_ok done
  cases file : disk.locateFile path with
  | error refusal =>
      rw [file] at put
      cases put
  | ok place =>
      rw [file] at put
      exact ⟨place, rfl, (Except.ok.inj put).symm⟩

/-- What was written to a file is read from it. -/
theorem readBytes_writeBytes {written : Disk} {path : Text} {bytes : List UInt8}
    (done : disk.writeBytes path bytes = .ok written)
    : written.readBytes path = .ok bytes := by
  obtain ⟨-, reach⟩ := onPath_ok done
  obtain ⟨place, file, rfl⟩ := of_writeBytes done
  obtain ⟨located, free⟩ := of_locateFile file
  rw [readBytes, lookup_put free (.file bytes) located]
  exact reach bytes

theorem hasEntry_of_lookup {path : Text} {entry : Entry}
    (found : onPath path (disk.lookup path) = .ok entry)
    : disk.hasEntry path = .ok true := by
  rw [hasEntry, found]

theorem hasEntry_of_readBytes {path : Text} {bytes : List UInt8}
    (found : disk.readBytes path = .ok bytes)
    : disk.hasEntry path = .ok true := by
  obtain ⟨held, reach⟩ := onPath_ok found
  split at held
  · next there =>
      obtain rfl := Except.ok.inj held
      apply hasEntry_of_lookup
      rw [there]
      exact reach _
  · cases held
  · cases held

/-- A file that could be written can be written again. -/
theorem exists_writeBytes_again {written : Disk} {path : Text} {bytes : List UInt8}
    (done : disk.writeBytes path bytes = .ok written) (other : List UInt8)
    : ∃ again, written.writeBytes path other = .ok again := by
  obtain ⟨-, reach⟩ := onPath_ok done
  obtain ⟨place, file, rfl⟩ := of_writeBytes done
  have same := locateFile_put file bytes
  refine ⟨(disk.put place (.file bytes)).put place (.file other), ?_⟩
  rw [writeBytes, same]
  exact reach _

/-- Texts are written to a file just where all of them can be encoded and the disk takes their
bytes.
-/
theorem writeTexts_eq_none_iff {written : Disk} {path : Text} {texts : List Text}
    : disk.writeTexts path texts = (written, none)
      ↔ ∃ bytes, Text.Utf8.encode texts.flatten = .ok bytes
          ∧ disk.writeBytes path bytes = .ok written := by
  unfold writeTexts
  cases encoded : Text.Utf8.encodeAll texts with
  | mk bytes fault =>
      dsimp only
      cases fault with
      | none =>
          have all := Text.Utf8.encodeAll_eq_iff.mp encoded
          cases taken : disk.writeBytes path bytes <;> simp [all, taken]
      | some fault =>
          refine iff_of_false (by split <;> simp) ?_
          rintro ⟨all, spelled, -⟩
          cases encoded.symm.trans (Text.Utf8.encodeAll_eq_iff.mpr spelled)

/-- A text whose bytes were written to a file is read from it, if it has no carriage returns. -/
theorem readText_writeBytes {written : Disk} {path text : Text} {bytes : List UInt8}
    (encoded : Text.Utf8.encode text = .ok bytes) (noReturn : ↑ '\r' ∉ text)
    (done : disk.writeBytes path bytes = .ok written)
    : written.readText path = .ok text := by
  rw [readText, readBytes_writeBytes done]
  simp only [textOf, Text.Utf8.decode_of_encode encoded, Text.foldReturns_of_not_mem noReturn]

end Disk

end LatheGloss
