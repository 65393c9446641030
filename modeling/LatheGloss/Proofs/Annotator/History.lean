import Mathlib
import LatheGloss.Proofs.Annotator.Issues

/-! Histories of an annotator. Whatever else it is asked for, it keeps the lines and issues of the
program that it was last given, until it is reset; and all its answers about that program follow
from the glosses of the lines.
-/

namespace LatheGloss.Annotator

open Program

inductive Call where
  | annotate (program : Text) (model : Option Text)
  | importFile (disk : Disk) (path : Text)
  | importText (text : Text)
  | exportFile (disk : Disk) (path : Text)
  | reset

/-- A program for a model, with the code book that it is glossed by. -/
structure Assignment where
  book : CodeBook
  program : Text
  model : Option Text

def Assignment.lines (assignment : Assignment) : List AnnotatedLine :=
  Program.annotate (assignment.book.describe assignment.model) assignment.program

/-- An export concerns the disk, and leaves the annotator as it is. -/
def perform (annotator : Annotator) : Call → Except Fault Annotator
  | .annotate program model => .ok (annotator.annotate program model).1
  | .importFile disk path => (annotator.importFile disk path).map Prod.fst
  | .importText text => (annotator.importText text).map Prod.fst
  | .exportFile disk path => (annotator.book.save disk path).2.map fun _ => annotator
  | .reset => .ok annotator.reset

/-- The annotator after a call; one that fails leaves it as it was. -/
def after (annotator : Annotator) (call : Call) : Annotator :=
  (annotator.perform call).toOption.getD annotator

def run (annotator : Annotator) (calls : List Call) : Annotator :=
  calls.foldl after annotator

/-- What is assigned after a call, given what was assigned before. -/
def assigned (annotator : Annotator) (earlier : Option Assignment) : Call → Option Assignment
  | .annotate program model => some ⟨annotator.book, program, model⟩
  | .reset => none
  | .importFile _ _ | .importText _ | .exportFile _ _ => earlier

/-- The last assignment in a run, unless the annotator was reset after it. -/
def lastAssignment (annotator : Annotator) (earlier : Option Assignment)
    : List Call → Option Assignment
  | [] => earlier
  | call :: rest => (annotator.after call).lastAssignment (annotator.assigned earlier call) rest

/-- An annotator keeps what an assignment came to, or nothing without one. -/
structure Keeps (annotator : Annotator) (assignment : Option Assignment) : Prop where
  lines : annotator.lines = (assignment.map Assignment.lines).getD []
  issues : annotator.issues = issuesOf annotator.lines
  model : annotator.model = assignment.bind (·.model)

-----------------------------------------------------------------------------------------
-- What a call preserves
-----------------------------------------------------------------------------------------

theorem keeps_ofCodeBook (book : CodeBook)
    : (ofCodeBook book).Keeps none :=
  ⟨rfl, rfl, rfl⟩

/-- Another code book changes nothing of what is kept. -/
theorem Keeps.withBook {annotator : Annotator} {assignment : Option Assignment}
    (keeps : annotator.Keeps assignment) (change : CodeBook.Change)
    : (((change.map annotator.withBook).map Prod.fst).toOption.getD annotator).Keeps
        assignment := by
  cases change with
  | error fault => exact keeps
  | ok change => exact ⟨keeps.lines, keeps.issues, keeps.model⟩

/-- One call, by its cases. -/
theorem Keeps.after {annotator : Annotator} {assignment : Option Assignment}
    (keeps : annotator.Keeps assignment) (call : Call)
    : (annotator.after call).Keeps (annotator.assigned assignment call) := by
  cases call with
  | annotate program model => exact ⟨rfl, rfl, rfl⟩
  | importFile disk path => exact keeps.withBook (annotator.book.load disk path)
  | importText text => exact keeps.withBook (annotator.book.importJson text none)
  | exportFile disk path =>
      rw [Annotator.after, perform]
      cases (annotator.book.save disk path).2 with
      | error fault => exact keeps
      | ok saved => exact keeps
  | reset => exact keeps_ofCodeBook annotator.book

/-- Any calls, by induction over them. -/
theorem Keeps.run {annotator : Annotator} {assignment : Option Assignment}
    (keeps : annotator.Keeps assignment) (calls : List Call)
    : (annotator.run calls).Keeps (annotator.lastAssignment assignment calls) := by
  induction calls generalizing annotator assignment with
  | nil => exact keeps
  | cons call rest ih => exact ih (keeps.after call)

-----------------------------------------------------------------------------------------
-- What the kept lines say
-----------------------------------------------------------------------------------------

/-- Unknown words of lines, with the numbers of their lines. -/
def unknownWords (lines : List AnnotatedLine) : List (Nat × Text) :=
  lines.flatMap fun line => line.gloss.unknowns.map (line.number, ·)

theorem forall₂_reports (lines : List AnnotatedLine)
    : List.Forall₂ (fun issue found => Reports issue found.1 found.2) (issuesOf lines).issues
        (unknownWords lines) := by
  induction lines with
  | nil => exact .nil
  | cons line rest ih =>
      refine List.rel_append ?_ ih
      refine List.forall₂_map_left_iff.mpr (List.forall₂_map_right_iff.mpr ?_)
      exact List.forall₂_same.mpr fun word _ => reports_unknownWordIssue line word

/-- An issue tells of a code just when it comes from a command that the model has no text for. -/
theorem isCode_iff_undescribed {assignment : Assignment} {line : AnnotatedLine} {word : Text}
    (known : line ∈ assignment.lines) (unknown : word ∈ line.gloss.unknowns)
    : IsCode (Text.upper word)
      ↔ (∃ original ∈ words line.source, classify original = .command word)
        ∧ (assignment.book.lookup word assignment.model = none
          ∨ assignment.book.lookup word assignment.model = some []) := by
  rw [gloss_of_mem_annotate known, Gloss.ofLine, unknowns_ofWords] at unknown
  obtain ⟨original, member, rfl⟩ := List.mem_map.mp unknown
  obtain ⟨inLine, reported⟩ := List.mem_filter.mp member
  have settled := Text.upper_upper original
  rw [settled, ← CodeBook.describe_eq_none_iff settled]
  constructor
  · intro shape
    refine ⟨⟨original, inLine, classify_eq_command_iff.mpr ⟨rfl, shape⟩⟩, ?_⟩
    rw [isUnknownWord_of_isCode shape] at reported
    exact Option.isNone_iff_eq_none.mp reported
  · rintro ⟨⟨other, -, kind⟩, -⟩
    obtain ⟨same, shape⟩ := classify_eq_command_iff.mp kind
    rwa [same]

theorem hasProblems_issuesOf_iff {lines : List AnnotatedLine}
    : (issuesOf lines).hasProblems = true ↔ ∃ line ∈ lines, line.gloss.hasUnknown = true := by
  rw [IssueLog.hasProblems, List.any_eq_true]
  constructor
  · rintro ⟨issue, member, -⟩
    obtain ⟨line, known, word, unknown, -⟩ := mem_issuesOf.mp member
    refine ⟨line, known, ?_⟩
    simpa [Gloss.hasUnknown] using List.ne_nil_of_mem unknown
  · rintro ⟨line, known, unknown⟩
    have some : line.gloss.unknowns ≠ [] := by simpa [Gloss.hasUnknown] using unknown
    obtain ⟨word, member⟩ := List.exists_mem_of_ne_nil _ some
    refine ⟨_, mem_issuesOf.mpr ⟨line, known, word, member, rfl⟩, ?_⟩
    simp [Issue.isProblem, (reports_unknownWordIssue line word).severity]

theorem length_issuesOf (lines : List AnnotatedLine)
    : (issuesOf lines).issues.length = (lines.map (·.gloss.unknowns.length)).sum := by
  simp [issuesOf, List.length_flatMap]

/-- Every issue is a warning. -/
theorem count_warning_issuesOf (lines : List AnnotatedLine)
    : (issuesOf lines).count .warning = (issuesOf lines).issues.length := by
  refine List.countP_eq_length.mpr fun issue member => decide_eq_true ?_
  obtain ⟨line, -, word, -, rfl⟩ := mem_issuesOf.mp member
  exact (reports_unknownWordIssue line word).severity

theorem countP_empty (assignment : Assignment)
    : assignment.lines.countP (·.gloss.text.isEmpty)
      = assignment.lines.countP fun line => (words line.source).isEmpty := by
  refine List.countP_congr fun line member => ?_
  rw [gloss_of_mem_annotate member, List.isEmpty_iff, List.isEmpty_iff]
  exact text_ofLine_eq_nil_iff (assignment.book.describe_ne_nil assignment.model) line.source

theorem Keeps.mem_unknownLines_iff {annotator : Annotator} {assignment : Option Assignment}
    (keeps : annotator.Keeps assignment) (number : Int)
    : number ∈ annotator.unknownLines.map Int.ofNat ↔ annotator.issues.onLine number ≠ [] := by
  rw [keeps.issues, onLine_issuesOf_ne_nil_iff]
  simp [Annotator.unknownLines, and_assoc]

/-- What the counts of an annotator come to, from its lines. -/
structure Counts (statistics : Statistics) (lines : List AnnotatedLine) : Prop where
  total : statistics.total = lines.length
  parts : statistics.total = statistics.glossed + statistics.empty
  empty : statistics.empty = lines.countP fun line => (words line.source).isEmpty
  unknown : statistics.unknown = lines.countP (·.gloss.hasUnknown)
  issues : statistics.issues = (lines.map (·.gloss.unknowns.length)).sum
  warnings : statistics.warnings = statistics.issues

theorem Keeps.counts {annotator : Annotator} {assignment : Option Assignment}
    (keeps : annotator.Keeps assignment)
    : Counts annotator.statistics annotator.lines := by
  refine ⟨rfl, ?_, ?_, ?_, ?_, ?_⟩
  · exact (Nat.sub_add_cancel List.countP_le_length).symm
  · change annotator.lines.countP _ = _
    rw [keeps.lines]
    cases assignment with
    | none => rfl
    | some assignment => exact countP_empty assignment
  · change (annotator.unknownLines).length = _
    rw [Annotator.unknownLines, List.length_map, List.countP_eq_length_filter]
  · change annotator.issues.issues.length = _
    rw [keeps.issues, length_issuesOf]
  · change annotator.issues.count .warning = annotator.issues.issues.length
    rw [keeps.issues, count_warning_issuesOf]

/-- After any calls, with imports that fail among the others, an annotator reports the program that
it was last given and not reset after: one warning for each unknown word, in the order of the
program, as an unregistered code just for commands that the model had no text for at that time.
A line has issues just when it is listed as unknown, and the counts are those of its lines.
-/
theorem run_diagnoses (book : CodeBook) (calls : List Call)
    : let reached := (ofCodeBook book).run calls
      let last := (ofCodeBook book).lastAssignment none calls
      let lines := (last.map Assignment.lines).getD []
      reached.lines = lines
      ∧ List.Forall₂ (fun issue found => Reports issue found.1 found.2) reached.issues.issues
          (unknownWords lines)
      ∧ (∀ assignment ∈ last, ∀ line ∈ lines, ∀ word ∈ line.gloss.unknowns,
          IsCode (Text.upper word)
          ↔ (∃ original ∈ words line.source, classify original = .command word)
            ∧ (assignment.book.lookup word assignment.model = none
              ∨ assignment.book.lookup word assignment.model = some []))
      ∧ (∀ number : Int,
          number ∈ reached.unknownLines.map Int.ofNat ↔ reached.issues.onLine number ≠ [])
      ∧ (reached.issues.hasProblems = true ↔ ∃ line ∈ lines, line.gloss.hasUnknown = true)
      ∧ Counts reached.statistics lines
      ∧ reached.statistics.model = last.bind (·.model) := by
  intro reached last lines
  have keeps : reached.Keeps last := (keeps_ofCodeBook book).run calls
  have same : reached.lines = lines := keeps.lines
  have issues : reached.issues = issuesOf lines := keeps.issues.trans (congrArg issuesOf same)
  refine ⟨same, ?_, ?_, keeps.mem_unknownLines_iff, ?_, ?_, keeps.model⟩
  · rw [issues]
    exact forall₂_reports lines
  · intro assignment found line known word unknown
    have own : lines = assignment.lines := by simp [lines, Option.mem_def.mp found]
    exact isCode_iff_undescribed (own ▸ known) unknown
  · rw [issues]
    exact hasProblems_issuesOf_iff
  · rw [← same]
    exact keeps.counts

/-- A broken text merges nothing, and a code that is described later stays reported. -/
theorem run_diagnoses_importsAfter
    : let program : Text := "g7 X1\n(G8) %"
      let calls : List Call :=
        [.annotate program none, .importText "[",
          .importText "\x7b\"baseDict\": \x7b\"G7\": \"a\"\x7d\x7d"]
      let reached := (ofCodeBook .empty).run calls
      let last := (ofCodeBook .empty).lastAssignment none calls
      let assignment : Assignment := ⟨.empty, program, none⟩
      last = some assignment
      ∧ reached.book.lookup "G7" none = some (['a'] : Text)
      ∧ ∃ line ∈ assignment.lines,
          ↑ "G7" ∈ line.gloss.unknowns
          ∧ IsCode (Text.upper "G7")
          ∧ Counts reached.statistics assignment.lines
          ∧ reached.issues.onLine 1 ≠ [] := by
  intro program calls reached last assignment
  have found : last = some assignment := rfl
  obtain ⟨-, -, undescribed, listed, -, counts, -⟩ := run_diagnoses .empty calls
  let line : AnnotatedLine :=
    ⟨1, "g7 X1", Gloss.ofLine (CodeBook.empty.describe none) "g7 X1"⟩
  have known : line ∈ assignment.lines := by decide +kernel
  have unknown : ↑ "G7" ∈ line.gloss.unknowns := by decide +kernel
  have command : ∃ original ∈ words line.source, classify original = .command "G7" := by
    exact ⟨"g7", by decide +kernel, by decide +kernel⟩
  have shape := (undescribed assignment found line known _ unknown).mpr ⟨command, .inl rfl⟩
  exact ⟨found, by decide +kernel, line, known, unknown, shape, counts,
    (listed 1).mp (by decide +kernel)⟩

end LatheGloss.Annotator
