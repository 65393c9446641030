import Mathlib
import LatheGloss.Proofs.CodeBook.Import
import LatheGloss.Startup

/-! What start-up can do with the path of a code book. The settings may have any value there. Null
and all that is empty or zero are fine, and so are texts that can be paths and the numbers that open
files can have, whatever is in the files, as long as the reader stays within its limits. With
anything else start-up ends in a fault.
-/

namespace LatheGloss.Startup

/-- Whether start-up can do with a value for a path. -/
def Takes (disk : Disk) (files : OpenFiles) : Json → Prop
  | .null => True
  | .bool value =>
      value = false ∨ ∀ text, files.readText value.toNat = .ok text → Json.WithinLimits text
  | .int number =>
      number = 0
      ∨ 0 ≤ number
        ∧ number < OpenFiles.numberLimit
        ∧ ∀ text, files.readText number.toNat = .ok text → Json.WithinLimits text
  | .float value => value.isZero = true
  | .str name =>
      name = []
      ∨ Disk.IsPath name ∧ ∀ text, disk.readText name = .ok text → Json.WithinLimits text
  | .arr items => items = []
  | .obj fields => fields = []

variable {settings : Settings} {disk : Disk} {files : OpenFiles}

/-- Where the code book of a start-up comes from: the settings have no path, or what is there was
merged, or it was skipped with a notice.
-/
inductive Supplied (settings : Settings) (disk : Disk) (files : OpenFiles)
    : CodeBook × List Notice → Prop
  | usual (blank : settings.dictionaryPath.isBlank = true)
    : Supplied settings disk files (Dialect.codeBook, [])
  | merged {change}
    (done : loadFrom Dialect.codeBook disk files settings.dictionaryPath = .ok change)
    : Supplied settings disk files change
  | skipped {fault}
    (failed : loadFrom Dialect.codeBook disk files settings.dictionaryPath = .error fault)
    : Supplied settings disk files
        (Dialect.codeBook, [.dictionarySkipped (pathText settings.dictionaryPath) fault])

/-- The code book cannot be had just when merging a document ends in a fault that is not
reported.
-/
theorem exists_annotator_iff
    : (∃ result, annotator settings disk files = .ok result)
      ↔ settings.dictionaryPath.isBlank = true
        ∨ ¬(loadFrom Dialect.codeBook disk files settings.dictionaryPath).Escapes := by
  unfold annotator codeBook
  by_cases blank : settings.dictionaryPath.isBlank = true
  · simp [blank, Except.map]
  · rw [if_neg blank]
    cases loadFrom Dialect.codeBook disk files settings.dictionaryPath with
    | ok change => simp [CodeBook.not_escapes_ok, Except.map]
    | error fault =>
        rw [CodeBook.escapes_error_iff]
        cases concerns : fault.concernsDictionary <;> simp [blank, concerns, Except.map]

theorem supplied_of_annotator {annotator : Annotator} {notices : List Notice}
    (found : Startup.annotator settings disk files = .ok (annotator, notices))
    : Supplied settings disk files (annotator.book, notices) := by
  unfold Startup.annotator codeBook at found
  dsimp only at found
  split at found
  · next blank =>
      obtain ⟨rfl, rfl⟩ := Prod.mk.inj (Except.ok.inj found)
      exact .usual blank
  · split at found
    · next change done =>
        cases found
        exact .merged done
    · next fault failed =>
        split at found
        · obtain ⟨rfl, rfl⟩ := Prod.mk.inj (Except.ok.inj found)
          exact .skipped failed
        · cases found

/-- Of an open file only the text can be a fault that is not reported. -/
theorem escapes_importFrom_openFile_iff {book : CodeBook} {number : Nat} {source : Text}
    : (book.importFrom (files.readText number) source).Escapes
      ↔ ¬∀ text, files.readText number = .ok text → Json.WithinLimits text := by
  have reported
      : ∀ fault, files.readText number = .error (.disk fault) → fault.isRefusal = true := by
    intro fault failed
    unfold OpenFiles.readText at failed
    split at failed
    · cases failed
      rfl
    · cases failed
    · exact absurd failed (Disk.textOf_ne_disk _ fault)
  rw [CodeBook.escapes_importFrom_iff, or_iff_right, not_forall]
  · simp only [not_forall, exists_prop]
  · rintro ⟨fault, failed, noRefusal⟩
    rw [reported fault failed] at noRefusal
    cases noRefusal

/-- Every value, by its kind. -/
theorem escapes_loadFrom_iff {book : CodeBook} {path : Json} (given : path.isBlank = false)
    : (loadFrom book disk files path).Escapes ↔ ¬Takes disk files path := by
  cases path with
  | null => cases given
  | bool value =>
      have chosen : value ≠ false := by simpa [Json.isBlank] using given
      refine escapes_importFrom_openFile_iff.trans ?_
      rw [Takes, or_iff_right chosen]
  | int number =>
      have chosen : number ≠ 0 := by simpa [Json.isBlank] using given
      simp only [loadFrom, Takes, chosen, false_or]
      split_ifs with outside negative
      · refine iff_of_true (CodeBook.escapes_error_iff.mpr rfl) fun takes => ?_
        unfold OpenFiles.numberLimit at outside takes
        omega
      · exact iff_of_true (CodeBook.escapes_error_iff.mpr rfl) fun takes => by omega
      · rw [escapes_importFrom_openFile_iff]
        have known : 0 ≤ number ∧ number < OpenFiles.numberLimit := by omega
        simp only [known, true_and]
  | float value =>
      refine iff_of_true (CodeBook.escapes_error_iff.mpr rfl) ?_
      simpa [Takes, Json.isBlank] using given
  | str name =>
      have named : name ≠ [] := by simpa [Json.isBlank] using given
      refine CodeBook.escapes_load_iff.trans ?_
      simp only [Takes, named, false_or, not_and_or, not_forall, exists_prop]
  | arr items =>
      refine iff_of_true (CodeBook.escapes_error_iff.mpr rfl) ?_
      simpa [Takes, Json.isBlank] using given
  | obj fields =>
      refine iff_of_true (CodeBook.escapes_error_iff.mpr rfl) ?_
      simpa [Takes, Json.isBlank] using given

theorem takes_of_isBlank {path : Json} (blank : path.isBlank = true)
    : Takes disk files path := by
  cases path <;> simp_all [Takes, Json.isBlank]

/-- Start-up comes to an annotator just when it can do with the path of the settings. -/
theorem exists_annotator_iff_takes
    : (∃ result, annotator settings disk files = .ok result)
      ↔ Takes disk files settings.dictionaryPath := by
  rw [exists_annotator_iff]
  cases given : settings.dictionaryPath.isBlank with
  | true => exact iff_of_true (.inl rfl) (takes_of_isBlank given)
  | false => simp [escapes_loadFrom_iff given]

/-- Start-up goes on without a document that was refused. -/
theorem annotator_of_importEnd {path : Text} {text? : Option Text}
    (named : settings.dictionaryPath = .str path) (given : path ≠ [])
    (ends : CodeBook.ImportEnd Dialect.codeBook text? (some path)
      (Dialect.codeBook.load disk path))
    : (∃ result, annotator settings disk files = .ok result)
      ∨ ∃ fault,
          annotator settings disk files = .error fault
          ∧ CodeBook.StopsAtInteger text? fault := by
  have filled : (Json.str path).isBlank = false := by simpa [Json.isBlank] using given
  unfold annotator codeBook
  simp only [named, filled, Bool.false_eq_true, if_false, loadFrom]
  generalize Dialect.codeBook.load disk path = change at ends
  cases ends with
  | merged _ _ _ => exact .inl ⟨_, rfl⟩
  | refused cause => exact .inl ⟨_, rfl⟩
  | stopped stops =>
      refine .inr ⟨_, ?_, stops⟩
      simp only [stops.concernsDictionary, Bool.false_eq_true, if_false]
      rfl

end LatheGloss.Startup
