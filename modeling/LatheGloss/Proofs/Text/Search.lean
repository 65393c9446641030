import Mathlib
import LatheGloss.Text.Basic

/-! Searching a text. A search gives the first place at which the needle begins, and it fails only
if the needle begins nowhere.
-/

namespace LatheGloss.Text

/-- The needle stands in the text from a place on. -/
def OccursAt (needle text : Text) (start : Nat) : Prop :=
  needle <+: text.drop start

/-- Where the needle stands, the text has its length from there on. -/
theorem OccursAt.stop_le {needle text : Text} {start : Nat} (occurs : OccursAt needle text start)
    (nonempty : needle ≠ [])
    : start + needle.length ≤ text.length := by
  have bound := occurs.length_le
  have positive := List.length_pos_of_ne_nil nonempty
  rw [List.length_drop] at bound
  omega

theorem OccursAt.slice {needle text : Text} {start : Nat} (occurs : OccursAt needle text start)
    : (text.drop start).take needle.length = needle :=
  (List.prefix_iff_eq_take.mp occurs).symm

/-- A search that fails has tried every place, by induction over the text. -/
theorem not_occursAt_of_find? {needle text : Text} (missed : find? needle text = none)
    (start : Nat)
    : ¬OccursAt needle text start := by
  induction text generalizing start with
  | nil =>
      intro occurs
      have bare : needle = [] := by simpa [OccursAt] using occurs
      simp [find?, bare] at missed
  | cons c rest ih =>
      rw [find?] at missed
      split at missed
      · cases missed
      · next elsewhere =>
          have later := ih (Option.map_eq_none_iff.mp missed)
          intro occurs
          cases start with
          | zero => exact elsewhere (List.isPrefixOf_iff_prefix.mpr occurs)
          | succ start => exact later start occurs

/-- A search that succeeds has tried every earlier place, by induction over the text. -/
theorem occursAt_of_find? {needle text : Text} {start : Nat}
    (found : find? needle text = some start)
    : OccursAt needle text start ∧ ∀ earlier < start, ¬OccursAt needle text earlier := by
  induction text generalizing start with
  | nil =>
      obtain ⟨bare, rfl⟩ : needle = [] ∧ 0 = start := by simpa [find?] using found
      simp [OccursAt, bare]
  | cons c rest ih =>
      rw [find?] at found
      split at found
      · next begins =>
          obtain rfl : 0 = start := Option.some.inj found
          exact ⟨List.isPrefixOf_iff_prefix.mp begins, by simp⟩
      · next elsewhere =>
          obtain ⟨before, earlier, rfl⟩ := Option.map_eq_some_iff.mp found
          obtain ⟨occurs, first⟩ := ih earlier
          refine ⟨occurs, ?_⟩
          intro place less occursEarlier
          cases place with
          | zero => exact elsewhere (List.isPrefixOf_iff_prefix.mpr occursEarlier)
          | succ place => exact first place (by omega) occursEarlier

end LatheGloss.Text
