import Mathlib
import LatheGloss.Proofs.Json.Beginnings
import LatheGloss.Proofs.Table

/-! The fields of an object that was read have names of their own, however often the text repeats a
name: fields go into a table one by one, and a table keeps its keys apart.
-/

namespace LatheGloss.Json

/-- A value that does not have two fields of one name. -/
def NamesApart : Json → Prop
  | obj fields => (fields.map Prod.fst).Nodup
  | null | bool _ | int _ | float _ | str _ | arr _ => True

variable {item : Text → Scan Json} {value : Json} {text rest : Text}

/-- Items are read into an array, by induction over the bound. -/
theorem exists_items_of_scanItems {read : List Json} {bound : Text}
    (found : scanItems item read bound text = .ok (value, rest))
    : ∃ items, value = .arr items := by
  induction bound generalizing read text with
  | nil => cases found
  | cons _ bound ih =>
      rw [scanItems] at found
      cases scanned : item text with
      | error fault =>
          rw [scanned] at found
          cases found
      | ok result =>
          rw [scanned] at found
          dsimp only at found
          split at found
          · cases found
            exact ⟨_, rfl⟩
          · exact ih found
          · cases found

theorem namesApart_scanArray (found : scanArray item text = .ok (value, rest))
    : value.NamesApart := by
  unfold scanArray at found
  split at found
  · cases found
    trivial
  · obtain ⟨items, rfl⟩ := exists_items_of_scanItems found
    trivial

/-- A field that is read keeps the names apart, by induction over the bound. -/
theorem namesApart_scanFields {read : Table Json} {bound : Text} (apart : read.keys.Nodup)
    (found : scanFields item read bound text = .ok (value, rest))
    : value.NamesApart := by
  induction bound generalizing read text with
  | nil => cases found
  | cons _ bound ih =>
      rw [scanFields] at found
      cases scanned : scanField item text with
      | error fault =>
          rw [scanned] at found
          cases found
      | ok result =>
          obtain ⟨⟨name, field⟩, after⟩ := result
          have kept := Table.nodup_keys_insert apart name field
          rw [scanned] at found
          dsimp only at found
          split at found
          · cases found
            exact kept
          · exact ih kept found
          · cases found

theorem namesApart_scanObject (found : scanObject item text = .ok (value, rest))
    : value.NamesApart := by
  unfold scanObject at found
  split at found
  · cases found
    exact List.nodup_nil
  · have empty : (Table.empty : Table Json).keys.Nodup := List.nodup_nil
    exact namesApart_scanFields empty found

theorem namesApart_scanNumber (found : scanNumber text = .ok (value, rest))
    : value.NamesApart := by
  unfold scanNumber Numeral.value? at found
  split at found
  · cases found
  · split_ifs at found <;> cases found <;> trivial

/-- Only an object has fields at all. -/
theorem namesApart_scanWith {item : Container → Text → Scan Json}
    (found : scanWith item text = .ok (value, rest))
    : value.NamesApart := by
  have scans := scansTo_scanWith item text
  generalize scanWith item text = result at scans found
  cases scans with
  | string opening =>
      cases scanned : scanString ('"' :: opening) [] opening with
      | error fault =>
          rw [scanned] at found
          cases found
      | ok result =>
          rw [scanned] at found
          cases found
          trivial
  | object => exact namesApart_scanObject found
  | array => exact namesApart_scanArray found
  | @word word value known =>
      have plain : ∀ entry ∈ wordValues, entry.2.NamesApart := by simp [wordValues, NamesApart]
      cases found
      exact plain _ known
  | number => exact namesApart_scanNumber found

theorem namesApart_scanValue {levels : Nat} (found : scanValue levels text = .ok (value, rest))
    : value.NamesApart := by
  unfold scanValue at found
  split at found
  · split at found
    · cases found
    · cases found
    · exact namesApart_scanWith found
  · exact namesApart_scanWith found

theorem namesApart_of_read (found : read text = .ok value)
    : value.NamesApart := by
  unfold read scanDocument at found
  split at found
  · cases found
  · split at found
    · cases found
    · next scanned =>
        dsimp only at found
        split at found
        · obtain rfl := Except.ok.inj found
          exact namesApart_scanValue scanned
        · cases found

end LatheGloss.Json
