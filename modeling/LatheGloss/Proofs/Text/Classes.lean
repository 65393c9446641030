import Mathlib
import LatheGloss.Proofs.Text.Character
import LatheGloss.Text.Blank

/-! Classes of characters and runs of characters of a class. Where a run ends is told by the first
character behind it.
-/

namespace LatheGloss

-----------------------------------------------------------------------------------------
-- Code points of the classes of ASCII
-----------------------------------------------------------------------------------------

theorem code_of_isAlpha {c : Character} (letter : c.isAlpha = true)
    : 65 ≤ c.toNat ∧ c.toNat ≤ 122 := by
  rw [Character.isAlpha_iff, Character.isUpper_iff, Character.isLower_iff] at letter
  omega

/-- A class lies within another on ASCII if it does so code point by code point. -/
theorem imp_of_ascii {holds other : Character → Bool}
    (all : ((List.range 128).all fun code =>
      !holds (Character.ofNat code) || other (Character.ofNat code)) = true)
    {c : Character} (ascii : c.toNat < 128) (held : holds c = true)
    : other c = true := by
  have here := List.all_eq_true.mp all c.toNat (List.mem_range.mpr ascii)
  rw [Character.ofNat_toNat] at here
  simpa [held] using here

/-- Classes are disjoint on ASCII if they are so code point by code point. -/
theorem not_isAlpha_of_isDigit {c : Character} (digit : c.isDigit = true)
    : c.isAlpha = false := by
  have code := Character.isDigit_iff.mp digit
  by_contra letter
  have := code_of_isAlpha (Bool.of_not_eq_false letter)
  omega

/-- From the exclamation mark on, no character of ASCII is blank. -/
theorem isBlank_eq_false {c : Character} (above : 32 < c.toNat) (below : c.toNat < 128)
    : Text.isBlank c = false := by
  simp [Text.isBlank, CharSet.contains, Text.blankRanges]
  omega

-----------------------------------------------------------------------------------------
-- Capitals of ASCII
-----------------------------------------------------------------------------------------

theorem toUpper_of_not_isAlpha {c : Character} (other : c.isAlpha = false)
    : c.toUpper = c := by
  apply Character.toUpper_eq_of_not_isLower
  intro lower
  simp [Character.isAlpha, lower] at other

/-- What holds of no letter holds of a character just when it holds of its capital. -/
theorem apply_toUpper {holds : Character → Bool}
    (noLetter : ∀ c, c.isAlpha = true → holds c = false) (c : Character)
    : holds c.toUpper = holds c := by
  cases letter : c.isAlpha with
  | true =>
      have capital : c.toUpper.isAlpha = true := by
        rw [Character.isAlpha_toUpper_eq_isAlpha, letter]
      rw [noLetter c letter, noLetter c.toUpper capital]
  | false => rw [toUpper_of_not_isAlpha letter]

theorem beq_toUpper {d : Character} (other : d.isAlpha = false) (c : Character)
    : (c.toUpper == d) = (c == d) := by
  refine @apply_toUpper (· == d) (fun e letter => beq_eq_false_iff_ne.mpr ?_) c
  rintro rfl
  rw [other] at letter
  cases letter

theorem toUpper_eq_iff {d : Character} (other : d.isAlpha = false) (c : Character)
    : c.toUpper = d ↔ c = d := by
  rw [← beq_iff_eq, beq_toUpper other, beq_iff_eq]

-----------------------------------------------------------------------------------------
-- Runs
-----------------------------------------------------------------------------------------

/-- A list is what is left of it without its longest ending of a class, and that ending. -/
theorem exists_ending {α : Type} (holds : α → Bool) (list : List α)
    : ∃ ending,
        list = list.rdropWhile holds ++ ending
        ∧ (∀ a ∈ ending, holds a = true)
        ∧ ∀ a ∈ (list.rdropWhile holds).getLast?, holds a = false := by
  refine ⟨list.rtakeWhile holds, ?_, fun a => List.mem_rtakeWhile_imp, fun a last => ?_⟩
  · rw [List.rdropWhile, List.rtakeWhile, ← List.reverse_append, List.takeWhile_append_dropWhile,
      List.reverse_reverse]
  · obtain ⟨full, rfl⟩ := List.mem_getLast?_eq_getLast last
    simpa using List.rdropWhile_last_not holds list full

theorem exists_copies_ending (c : Character) (text : Text)
    : ∃ front count, text = front ++ List.replicate count c ∧ ∀ d ∈ front.getLast?, d ≠ c := by
  obtain ⟨ending, whole, copies, stays⟩ := exists_ending (· == c) text
  have count : ending = List.replicate ending.length c :=
    List.eq_replicate_of_mem fun d member => beq_iff_eq.mp (copies d member)
  refine ⟨text.rdropWhile (· == c), ending.length, ?_, fun d last => ?_⟩
  · rwa [← count]
  · exact beq_eq_false_iff_ne.mp (stays d last)

/-- Characters of a class with none of it right after them. -/
structure IsRun (holds : Character → Bool) (run rest : Text) : Prop where
  all : ∀ c ∈ run, holds c = true
  stops : ∀ c ∈ rest.head?, holds c = false

namespace IsRun

variable {holds : Character → Bool} {run rest : Text}

theorem takeWhile_append (isRun : IsRun holds run rest)
    : (run ++ rest).takeWhile holds = run := by
  rw [List.takeWhile_append_of_pos isRun.all]
  cases rest with
  | nil => simp
  | cons c more =>
      have stop : holds c = false := isRun.stops c rfl
      simp [stop]

theorem dropWhile_append (isRun : IsRun holds run rest)
    : (run ++ rest).dropWhile holds = rest := by
  rw [List.dropWhile_append_of_pos isRun.all]
  cases rest with
  | nil => rfl
  | cons c more =>
      have stop : holds c = false := isRun.stops c rfl
      simp [stop]

theorem span_append (isRun : IsRun holds run rest)
    : (run ++ rest).span holds = (run, rest) := by
  rw [List.span_eq_takeWhile_dropWhile, isRun.takeWhile_append, isRun.dropWhile_append]

/-- Every text begins with a run, which may be empty. -/
theorem takeWhile_dropWhile (holds : Character → Bool) (text : Text)
    : IsRun holds (text.takeWhile holds) (text.dropWhile holds) := by
  refine ⟨fun c member => List.mem_takeWhile_imp member, fun c first => ?_⟩
  have stops := List.head?_dropWhile_not holds text
  rw [Option.mem_def.mp first] at stops
  simpa using stops

theorem exists_eq_append (holds : Character → Bool) (text : Text)
    : ∃ run rest, text = run ++ rest ∧ IsRun holds run rest :=
  ⟨_, _, List.takeWhile_append_dropWhile.symm, takeWhile_dropWhile holds text⟩

/-- A run that reads on behind some of its class is longer than they are. -/
theorem length_lt {left right : Text} {c : Character} (isRun : IsRun holds run rest)
    (same : run ++ rest = left ++ c :: right)
    (all : ∀ d ∈ left, holds d = true) (here : holds c = true)
    : left.length < run.length := by
  by_contra short
  have inLeft : run <+: left :=
    List.prefix_of_prefix_length_le ⟨rest, same⟩ (List.prefix_append left _) (by omega)
  obtain ⟨more, rfl⟩ := inLeft
  rw [List.append_assoc, List.append_cancel_left_eq] at same
  have stop := isRun.stops
  rw [same] at stop
  cases more with
  | nil => simp [here] at stop
  | cons d more => simp [all d (by simp)] at stop

end IsRun

end LatheGloss
