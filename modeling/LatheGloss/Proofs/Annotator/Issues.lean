import Mathlib
import LatheGloss.Annotator
import LatheGloss.Proofs.Program.Gloss

/-! Issues of annotated lines. Each unknown word of a line gives one issue, a warning on that line,
whose kind follows from the shape of the word; so the issues of a line can be read off its gloss.
-/

namespace LatheGloss

open Program

theorem numbers_annotate (describe : Text → Option Text) (program : Text)
    : (Program.annotate describe program).map (·.number)
      = List.range' 1 (Program.annotate describe program).length := by
  unfold Program.annotate
  rw [List.map_map, List.length_map, List.length_zipIdx]
  exact List.zipIdx_map_snd 1 (Program.sourceLines program)

theorem gloss_of_mem_annotate {describe : Text → Option Text} {program : Text}
    {line : AnnotatedLine} (member : line ∈ Program.annotate describe program)
    : line.gloss = Gloss.ofLine describe line.source := by
  obtain ⟨_, -, rfl⟩ := List.mem_map.mp member
  rfl

/-- An empty description describes nothing. -/
theorem CodeBook.describe_ne_nil (book : CodeBook) (model : Option Text) (code : Text)
    : book.describe model code ≠ some [] := by
  intro described
  simpa using (Option.filter_eq_some_iff.mp described).2

/-- A code in uppercase is not described if it is not found or its text is empty. -/
theorem CodeBook.describe_eq_none_iff {book : CodeBook} {model : Option Text} {code : Text}
    (upper : Text.upper code = code)
    : book.describe model code = none
      ↔ book.lookup code model = none ∨ book.lookup code model = some [] := by
  rw [describe, lookup, upper, Option.filter_eq_none_iff]
  cases (book.effective model).get? code <;> simp

-----------------------------------------------------------------------------------------
-- The issue of a word
-----------------------------------------------------------------------------------------

/-- What an issue says of an unknown word on a line of a number. -/
structure Reports (issue : Issue) (number : Nat) (word : Text) : Prop where
  line : issue.line = number
  severity : issue.severity = .warning
  code : issue.kind = .unregisteredCode ↔ IsCode (Text.upper word)
  other : issue.kind = .unknownToken ↔ ¬IsCode (Text.upper word)

theorem reports_unknownWordIssue (line : AnnotatedLine) (word : Text)
    : Reports (unknownWordIssue line word) line.number word := by
  by_cases shape : IsCode (Text.upper word)
  · have kind := classify_eq_command_iff.mpr ⟨rfl, shape⟩
    simp only [unknownWordIssue, kind]
    exact ⟨rfl, rfl, by simp [shape], by simp [shape]⟩
  · unfold unknownWordIssue
    dsimp only
    split
    · next code kind => exact absurd (classify_eq_command_iff.mp kind).2 shape
    · exact ⟨rfl, rfl, by simp [shape], by simp [shape]⟩

theorem columns_unknownWordIssue (line : AnnotatedLine) (word : Text)
    : (unknownWordIssue line word).start = (wordColumns line.source word).1
      ∧ (unknownWordIssue line word).stop = (wordColumns line.source word).2 := by
  unfold unknownWordIssue
  dsimp only
  split <;> exact ⟨rfl, rfl⟩

-----------------------------------------------------------------------------------------
-- The issues of all lines
-----------------------------------------------------------------------------------------

theorem mem_issuesOf {lines : List AnnotatedLine} {issue : Issue}
    : issue ∈ (issuesOf lines).issues
      ↔ ∃ line ∈ lines, ∃ word ∈ line.gloss.unknowns, unknownWordIssue line word = issue := by
  simp [issuesOf]

/-- A line has issues just when it has unknown words. -/
theorem onLine_issuesOf_ne_nil_iff {lines : List AnnotatedLine} {number : Int}
    : (issuesOf lines).onLine number ≠ []
      ↔ ∃ line ∈ lines, line.gloss.hasUnknown = true ∧ (line.number : Int) = number := by
  constructor
  · intro some
    obtain ⟨issue, member⟩ := List.exists_mem_of_ne_nil _ some
    obtain ⟨found, here⟩ := List.mem_filter.mp member
    obtain ⟨line, known, word, unknown, rfl⟩ := mem_issuesOf.mp found
    refine ⟨line, known, ?_, ?_⟩
    · simpa [Gloss.hasUnknown] using List.ne_nil_of_mem unknown
    · rw [← (reports_unknownWordIssue line word).line]
      exact of_decide_eq_true here
  · rintro ⟨line, known, unknown, rfl⟩
    have some : line.gloss.unknowns ≠ [] := by simpa [Gloss.hasUnknown] using unknown
    obtain ⟨word, member⟩ := List.exists_mem_of_ne_nil _ some
    have found : unknownWordIssue line word ∈ (issuesOf lines).issues :=
      mem_issuesOf.mpr ⟨line, known, word, member, rfl⟩
    have here := decide_eq_true (reports_unknownWordIssue line word).line
    exact List.ne_nil_of_mem (List.mem_filter.mpr ⟨found, here⟩)

/-- The issues of one line are all on that line. -/
theorem filter_issues_of_line (line : AnnotatedLine) (number : Nat)
    : (line.gloss.unknowns.map (unknownWordIssue line)).filter (·.line = (number : Int))
      = if line.number = number then line.gloss.unknowns.map (unknownWordIssue line) else [] := by
  have place (word : Text) : (unknownWordIssue line word).line = line.number :=
    (reports_unknownWordIssue line word).line
  split
  · next same => simp [place, same]
  · next apart => simp [place, apart]

/-- The issues on a line are those of its own unknown words if no other line has its number, by
induction over the lines.
-/
theorem onLine_issuesOf {lines : List AnnotatedLine} (distinct : (lines.map (·.number)).Nodup)
    {line : AnnotatedLine} (member : line ∈ lines)
    : (issuesOf lines).onLine line.number = line.gloss.unknowns.map (unknownWordIssue line) := by
  simp only [IssueLog.onLine, issuesOf, List.filter_flatMap, filter_issues_of_line]
  induction lines with
  | nil => cases member
  | cons first rest ih =>
      obtain ⟨absent, restDistinct⟩ := List.nodup_cons.mp distinct
      rw [List.flatMap_cons]
      rcases List.mem_cons.mp member with rfl | later
      · have others
            : (rest.flatMap fun other =>
                if other.number = line.number then other.gloss.unknowns.map (unknownWordIssue other)
                else [])
              = [] := by
          refine List.flatMap_eq_nil_iff.mpr fun other known => if_neg fun same => absent ?_
          exact List.mem_map.mpr ⟨other, known, same⟩
        rw [if_pos rfl, others, List.append_nil]
      · have apart : first.number ≠ line.number := fun same =>
          absent (List.mem_map.mpr ⟨line, later, same.symm⟩)
        rw [if_neg apart, List.nil_append]
        exact ih restDistinct later

end LatheGloss
