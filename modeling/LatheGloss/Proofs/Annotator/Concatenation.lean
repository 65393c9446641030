import Mathlib
import LatheGloss.Proofs.Annotator.Issues
import LatheGloss.Proofs.Text.Newline

/-! Programs one after the other. A line is glossed by itself, so the lines and issues of two
programs joined by a line feed are those of the first one and, with their numbers moved on by its
lines, those of the second one.
-/

namespace LatheGloss

open Program

/-- The line where so many others come before its program. -/
def Program.AnnotatedLine.movedBy (line : AnnotatedLine) (count : Nat) : AnnotatedLine :=
  { line with number := line.number + count }

/-- The issue where so many lines come before its program. -/
def Issue.movedBy (issue : Issue) (count : Nat) : Issue :=
  { issue with line := issue.line + count }

-----------------------------------------------------------------------------------------
-- Lines of joined programs
-----------------------------------------------------------------------------------------

theorem sourceLines_append {first : Text} (unreturned : first.getLast? ≠ some ('\r' : Character))
    (second : Text)
    : sourceLines (first ++ ↑ '\n' :: second) = sourceLines first ++ sourceLines second := by
  rw [sourceLines, Text.foldReturnPairs_append_lineFeed unreturned, Text.lines_append_lineFeed]
  rfl

theorem length_annotate (describe : Text → Option Text) (program : Text)
    : (Program.annotate describe program).length = (sourceLines program).length := by
  rw [Program.annotate, List.length_map, List.length_zipIdx]

theorem map_source_annotate (describe : Text → Option Text) (program : Text)
    : (Program.annotate describe program).map (·.source) = sourceLines program := by
  rw [Program.annotate, List.map_map]
  exact List.zipIdx_map_fst 1 (sourceLines program)

theorem annotate_append (describe : Text → Option Text) {first : Text}
    (unreturned : first.getLast? ≠ some ('\r' : Character)) (second : Text)
    : Program.annotate describe (first ++ ↑ '\n' :: second)
      = Program.annotate describe first
        ++ (Program.annotate describe second).map
            (·.movedBy (Program.annotate describe first).length) := by
  have moved
      : (sourceLines second).zipIdx (1 + (sourceLines first).length)
        = ((sourceLines second).zipIdx 1).map
            (Prod.map id (· + (sourceLines first).length)) := by
    rw [List.map_snd_add_zipIdx_eq_zipIdx, Nat.add_comm]
  rw [length_annotate]
  unfold Program.annotate
  rw [sourceLines_append unreturned, List.zipIdx_append, List.map_append, moved, List.map_map,
    List.map_map]
  rfl

-----------------------------------------------------------------------------------------
-- Issues of joined programs
-----------------------------------------------------------------------------------------

theorem unknownWordIssue_movedBy (line : AnnotatedLine) (count : Nat) (word : Text)
    : unknownWordIssue (line.movedBy count) word = (unknownWordIssue line word).movedBy count := by
  unfold unknownWordIssue
  dsimp only
  split <;> rfl

theorem issuesOf_append (first second : List AnnotatedLine)
    : (issuesOf (first ++ second)).issues
      = (issuesOf first).issues ++ (issuesOf second).issues :=
  List.flatMap_append

theorem issuesOf_map_movedBy (lines : List AnnotatedLine) (count : Nat)
    : (issuesOf (lines.map (·.movedBy count))).issues
      = (issuesOf lines).issues.map (·.movedBy count) := by
  unfold issuesOf
  rw [List.flatMap_map, List.map_flatMap]
  refine List.flatMap_congr fun line _ => ?_
  rw [List.map_map]
  exact List.map_congr_left fun word _ => unknownWordIssue_movedBy line count word

/-- Lines and issues of joined programs are those of the one and then those of the other, unless the
first one ends in a carriage return, which would become part of the line feed between them. The
sources of the lines are those of the program, numbered from one; and how the lines of a program
without carriage returns are ended makes no difference.
-/
theorem annotate_concatenates (annotator : Annotator) (model : Option Text)
    : let lines := Program.annotate (annotator.book.describe model)
      let issues := fun program => (annotator.annotate program model).1.issues.issues
      (∀ first second : Text,
        first.getLast? ≠ some ('\r' : Character)
        → lines (first ++ ↑ '\n' :: second)
            = lines first ++ (lines second).map (·.movedBy (lines first).length)
          ∧ issues (first ++ ↑ '\n' :: second)
            = issues first ++ (issues second).map (·.movedBy (lines first).length))
      ∧ (∀ program : Text,
          [↑ '\n'].intercalate ((lines program).map (·.source)) = program.foldReturnPairs
          ∧ (lines program).map (·.number) = List.range' 1 (lines program).length)
      ∧ ∀ program : Text,
          ↑ '\r' ∉ program
          → lines program.withReturns = lines program
            ∧ issues program.withReturns = issues program := by
  intro lines issues
  refine ⟨?_, ?_, ?_⟩
  · intro first second unreturned
    have joined
        : lines (first ++ ↑ '\n' :: second)
          = lines first ++ (lines second).map (·.movedBy (lines first).length) :=
      annotate_append (annotator.book.describe model) unreturned second
    refine ⟨joined, ?_⟩
    change (issuesOf (lines (first ++ ↑ '\n' :: second))).issues = _
    rw [joined, issuesOf_append, issuesOf_map_movedBy]
    rfl
  · intro program
    refine ⟨?_, numbers_annotate _ program⟩
    rw [map_source_annotate]
    exact Text.intercalate_lines program.foldReturnPairs
  · intro program noReturn
    have same : lines program.withReturns = lines program := by
      simp only [lines, Program.annotate, sourceLines,
        Text.foldReturnPairs_withReturns noReturn]
    refine ⟨same, ?_⟩
    change (issuesOf (lines program.withReturns)).issues = (issuesOf (lines program)).issues
    rw [same]

/-- Of two carriage returns before a line feed only the second one belongs to it. -/
theorem annotate_concatenates_returnTwice
    : let first : Text := "X1 g7\r\r\n"
      let second : Text := "\n(G8) %"
      let annotator := Annotator.ofCodeBook .empty
      let lines := Program.annotate (annotator.book.describe none)
      let issues := fun program => (annotator.annotate program none).1.issues.issues
      first.getLast? ≠ some ('\r' : Character)
      ∧ (lines first).map (·.source) = (["X1 g7\r", []] : List Text)
      ∧ lines (first ++ ↑ '\n' :: second) = lines first ++ (lines second).map (·.movedBy 2)
      ∧ issues (first ++ ↑ '\n' :: second) = issues first ++ (issues second).map (·.movedBy 2)
      ∧ ↑ '\r' ∉ second
      ∧ second.withReturns = "\r\n(G8) %"
      ∧ issues second.withReturns = issues second := by
  intro first second annotator lines issues
  obtain ⟨joins, -, ends⟩ := annotate_concatenates annotator none
  have unreturned : first.getLast? ≠ some ('\r' : Character) := by decide +kernel
  have noReturn : ↑ '\r' ∉ second := by decide +kernel
  have sources : (lines first).map (·.source) = (["X1 g7\r", []] : List Text) := by decide +kernel
  have count : (lines first).length = 2 := by
    rw [← List.length_map (f := fun line : AnnotatedLine => line.source), sources]
    rfl
  obtain ⟨joinedLines, joinedIssues⟩ := joins first second unreturned
  change lines _ = lines first ++ (lines second).map (·.movedBy (lines first).length)
    at joinedLines
  change issues _ = issues first ++ (issues second).map (·.movedBy (lines first).length)
    at joinedIssues
  rw [count] at joinedLines joinedIssues
  exact ⟨unreturned, sources, joinedLines, joinedIssues, noReturn, by decide +kernel,
    (ends second noReturn).2⟩

/-- A carriage return at the end of the first program becomes part of the line end. -/
example
    : sourceLines (['1', '\r'] ++ ↑ '\n' :: ['2'])
      ≠ sourceLines ['1', '\r'] ++ sourceLines ['2'] := by
  decide +kernel

end LatheGloss
