import Mathlib
import LatheGloss.Proofs.Disk.TextFile

/-! Directories. A directory that was made is there, and what is put on the disk later does not take
its place; to make it again then changes nothing, however many directories are above it.
-/

namespace LatheGloss.Disk

variable {disk : Disk} {place : Place} {path : Text}

theorem lookup_eq_ok_iff {entry : Entry}
    : disk.lookup path = .ok entry
      ↔ ∃ place, disk.locate path = .ok place ∧ disk.entry? place = some entry := by
  unfold lookup
  cases disk.locate path with
  | error refusal => simp [bind, Except.bind]
  | ok place =>
      cases found : disk.entry? place <;> simp [bind, Except.bind, found]

theorem isDirectory_iff
    : disk.isDirectory path = true ↔ onPath path (disk.lookup path) = .ok .directory := by
  unfold isDirectory
  split <;> simp_all

/-- A directory stays when something is put where there was no directory. -/
theorem isDirectory_put (free : disk.entry? place ≠ some .directory) (entry : Entry)
    (there : disk.isDirectory path = true)
    : (disk.put place entry).isDirectory path = true := by
  obtain ⟨found, reach⟩ := onPath_ok (isDirectory_iff.mp there)
  obtain ⟨own, located, directory⟩ := lookup_eq_ok_iff.mp found
  have apart : own ≠ place := by
    rintro rfl
    exact free directory
  have kept := entry?_put (ne_nil_of_not_directory free) disk entry own
  rw [if_neg apart, directory] at kept
  rw [isDirectory_iff, lookup_eq_ok_iff.mpr ⟨own, locate_put free entry located, kept⟩]
  exact reach _

theorem isDirectory_writeBytes {written : Disk} {file : Text} {bytes : List UInt8}
    (done : disk.writeBytes file bytes = .ok written) (there : disk.isDirectory path = true)
    : written.isDirectory path = true := by
  obtain ⟨place, located, rfl⟩ := of_writeBytes done
  exact isDirectory_put (of_locateFile located).2 _ there

-----------------------------------------------------------------------------------------
-- One directory
-----------------------------------------------------------------------------------------

theorem isDirectory_makeDirectory {made : Disk} (done : disk.makeDirectory path = .ok made)
    : made.isDirectory path = true := by
  obtain ⟨put, reach⟩ := onPath_ok done
  cases located : disk.locate path with
  | error refusal =>
      rw [located] at put
      cases put
  | ok place =>
      rw [located] at put
      dsimp only at put
      split at put
      · cases put
      · next nothing =>
          obtain rfl := Except.ok.inj put
          have free : disk.entry? place ≠ some .directory := by
            intro directory
            exact nothing (by rw [directory]; rfl)
          rw [isDirectory_iff, lookup_put free .directory located]
          exact reach _

/-- A directory that is there is not made once more. -/
theorem makeDirectory_of_isDirectory (there : disk.isDirectory path = true)
    : disk.makeDirectory path = .error (.refused .alreadyThere (some path)) := by
  have reached := isDirectory_iff.mp there
  obtain ⟨place, located, directory⟩ := lookup_eq_ok_iff.mp (onPath_ok reached).1
  rw [makeDirectory, onPath_of_ok reached, located]
  simp [directory, Except.mapError]

theorem isDirectory_ensureDirectory {ensured : Disk}
    (done : disk.ensureDirectory path = (ensured, none))
    : ensured.isDirectory path = true := by
  unfold ensureDirectory at done
  split at done
  · next made =>
      obtain ⟨rfl, -⟩ := Prod.mk.inj done
      exact isDirectory_makeDirectory made
  · split at done
    · next there =>
        obtain ⟨rfl, -⟩ := Prod.mk.inj done
        exact (Bool.and_eq_true_iff.mp there).2
    · cases done

theorem ensureDirectory_of_isDirectory (there : disk.isDirectory path = true)
    : disk.ensureDirectory path = (disk, none) := by
  rw [ensureDirectory, makeDirectory_of_isDirectory there]
  simp [DiskFault.isRefusal, there]

-----------------------------------------------------------------------------------------
-- A directory and those above it
-----------------------------------------------------------------------------------------

/-- The path of a directory that is given by its names, the last one first. -/
def namesPath (root : Text) : List Text → Text
  | [] => if root.isEmpty then ['.'] else root
  | name :: above => root ++ (['/'] : Text).intercalate (name :: above).reverse

theorem isDirectory_ensureNames {root : Text} {names : List Text} {ensured : Disk}
    (done : disk.ensureNames root names = (ensured, none))
    : ensured.isDirectory (namesPath root names) = true := by
  cases names with
  | nil => exact isDirectory_ensureDirectory done
  | cons name above =>
      rw [ensureNames] at done
      split at done
      · split at done
        · exact isDirectory_ensureDirectory done
        · next failed =>
            exact absurd done (failed ensured)
      · exact isDirectory_ensureDirectory done

theorem ensureNames_of_isDirectory {root : Text} {names : List Text}
    (there : disk.isDirectory (namesPath root names) = true)
    : disk.ensureNames root names = (disk, none) := by
  cases names with
  | nil => exact ensureDirectory_of_isDirectory there
  | cons name above =>
      rw [ensureNames]
      rw [← namesPath, makeDirectory_of_isDirectory there]
      exact ensureDirectory_of_isDirectory there

/-- Directories that were made need not be made again after a file was written. -/
theorem ensureDirectories_again {prepared written : Disk} {file : Text} {bytes : List UInt8}
    (done : disk.ensureDirectories path = (prepared, none))
    (wrote : prepared.writeBytes file bytes = .ok written)
    : written.ensureDirectories path = (written, none) :=
  ensureNames_of_isDirectory (isDirectory_writeBytes wrote (isDirectory_ensureNames done))

end LatheGloss.Disk
