import Mathlib
import LatheGloss.Text.Newline

/-! Texts as lines. A line feed parts a text into the lines before it and those after it, unless a
carriage return stands right before it, which would be taken into the pair. Where there are no
carriage returns, writing one before every line feed makes no difference.
-/

namespace LatheGloss.Text

/-- The text with a carriage return before every line feed. -/
def withReturns (text : Text) : Text :=
  text.flatMap fun (c : Character) => if c = '\n' then ['\r', '\n'] else [c]

theorem foldReturnPairs_cons {c : Character} (plain : c ≠ '\r') (rest : Text)
    : foldReturnPairs (c :: rest) = c :: foldReturnPairs rest := by
  rw [foldReturnPairs]
  intro tail same
  exact absurd same plain

/-- A pair lies on one side of a line feed, by induction over the pairs before it. -/
theorem foldReturnPairs_append_lineFeed {first : Text}
    (unreturned : first.getLast? ≠ some ('\r' : Character)) (second : Text)
    : foldReturnPairs (first ++ ↑ '\n' :: second)
      = foldReturnPairs first ++ ↑ '\n' :: foldReturnPairs second := by
  fun_induction foldReturnPairs first with
  | case1 rest ih =>
      have later : rest.getLast? ≠ some ('\r' : Character) := by
        intro last
        apply unreturned
        simp [List.getLast?_cons, last]
      exact congrArg (↑ '\n' :: ·) (ih later)
  | case2 c rest unpaired ih =>
      cases rest with
      | nil =>
          have plain : c ≠ '\r' := by simpa using unreturned
          rw [List.cons_append, foldReturnPairs_cons plain]
          exact congrArg (c :: ·) (foldReturnPairs_cons (by decide) second)
      | cons d more =>
          have later : (d :: more).getLast? ≠ some ('\r' : Character) := by simpa using unreturned
          rw [List.cons_append, foldReturnPairs, ih later]
          · rfl
          · intro tail isReturn lineFeed
            obtain ⟨rfl, -⟩ := List.cons.inj lineFeed
            exact unpaired more isReturn rfl
  | case3 => exact foldReturnPairs_cons (by decide) second

theorem foldReturnPairs_withReturns {text : Text} (noReturn : ↑ '\r' ∉ text)
    : foldReturnPairs text.withReturns = foldReturnPairs text := by
  induction text with
  | nil => rfl
  | cons c rest ih =>
      obtain ⟨here, later⟩ := List.ne_and_not_mem_of_not_mem_cons noReturn
      rw [foldReturnPairs_cons here.symm, ← ih later]
      by_cases lineFeed : c = '\n'
      · subst lineFeed
        rfl
      · have kept : withReturns (c :: rest) = c :: withReturns rest := by
          simp [withReturns, lineFeed]
        rw [kept, foldReturnPairs_cons here.symm]

theorem lines_append_lineFeed (first second : Text)
    : lines (first ++ ↑ '\n' :: second) = lines first ++ lines second :=
  List.splitOn_append_cons_self first second

theorem intercalate_lines (text : Text)
    : [↑ '\n'].intercalate text.lines = text :=
  List.intercalate_splitOn _

end LatheGloss.Text
