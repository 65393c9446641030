import Mathlib
import LatheGloss.Proofs.Annotator.Issues
import LatheGloss.Proofs.Workbench.Freshness

/-! The table, the marks of the editor, the status and the annotator always tell of the same
program. A refresh sets all four together and so does clearing; nothing else touches any of them.
-/

namespace LatheGloss.Workbench

/-- The numbers of the rows with a warning, counted from one. -/
def tintedRows (bench : Workbench) : List Nat :=
  ((bench.rows.zipIdx 1).filter fun (row, _) => row.warning.isSome).map Prod.snd

/-- Whether the last event that filled or emptied the table was to clear it. -/
def clearedLast (turns : List Turn) : Bool :=
  (turns.reverse.find? fun turn => turn.event.clears || turn.reply.glosses).any (·.event.clears)

/-- What the workbench shows belongs together; after clearing, it shows nothing. -/
structure Agrees (bench : Workbench) (cleared : Bool) : Prop where
  rows : bench.rows = bench.annotator.lines.map Row.ofLine
  numbers : bench.annotator.lines.map (·.number) = List.range' 1 bench.annotator.lines.length
  marks : bench.editor.unknownLines
    = Editor.ascending (bench.annotator.unknownLines.map Int.ofNat)
  status : bench.status
    = if cleared then .ready
      else if bench.annotator.unknownLines.isEmpty then .complete
      else .unknown bench.annotator.unknownLines.length
  bare : cleared = true → bench.rows = []

-----------------------------------------------------------------------------------------
-- What an event preserves
-----------------------------------------------------------------------------------------

theorem agrees_refresh (bench : Workbench)
    : bench.refresh.1.Agrees false :=
  ⟨rfl, numbers_annotate _ _, rfl, rfl, fun cleared => nomatch cleared⟩

theorem agrees_clear (bench : Workbench)
    : bench.clear.Agrees true :=
  ⟨rfl, rfl, rfl, rfl, fun _ => rfl⟩

/-- Text that is replaced keeps its marks until the next refresh. -/
theorem setText_unknownLines (editor : Editor) (text : Text)
    : (editor.setText text).unknownLines = editor.unknownLines := by
  unfold Editor.setText Editor.moveTo Editor.remark
  dsimp only
  split_ifs <;> rfl

theorem Agrees.setText {bench : Workbench} {cleared : Bool} (agrees : bench.Agrees cleared)
    (text : Text)
    : (bench.setText text).Agrees cleared :=
  ⟨agrees.rows, agrees.numbers, (setText_unknownLines bench.editor text).trans agrees.marks,
    agrees.status, agrees.bare⟩

theorem Agrees.sameView {before after : Workbench} {cleared : Bool}
    (agrees : before.Agrees cleared) (same : SameView before after)
    (marks : after.editor.unknownLines = before.editor.unknownLines)
    : after.Agrees cleared := by
  refine ⟨?_, ?_, ?_, ?_, ?_⟩
  · rw [same.rows, same.annotator, agrees.rows]
  · rw [same.annotator, agrees.numbers]
  · rw [marks, same.annotator, agrees.marks]
  · rw [same.status, same.annotator, agrees.status]
  · rw [same.rows]
    exact agrees.bare

/-- Whether the table was emptied last, after one more turn. -/
theorem clearedLast_append (turns : List Turn) (turn : Turn)
    : clearedLast (turns ++ [turn])
      = if turn.event.clears || turn.reply.glosses then turn.event.clears
        else clearedLast turns := by
  unfold clearedLast
  rw [List.reverse_append, List.reverse_singleton, List.singleton_append, List.find?_cons]
  split <;> simp_all

/-- One event of the user, by the ways in which it can end. -/
theorem agrees_reply {bench : Workbench} {turns : List Turn}
    (agrees : bench.Agrees (clearedLast turns)) {moment : Moment}
    (user : moment.event.fromUser = true)
    : (bench.reply moment).bench.Agrees
        (clearedLast (turns ++ [⟨moment.event, bench.reply moment⟩])) := by
  rw [clearedLast_append]
  rcases outcome_reply bench moment with
    ⟨before, ends, noted, other⟩ | ⟨asked, ends⟩ | ⟨text, ends, silent, other⟩
      | ⟨same, marks, silent, other⟩
  · simp only [ends, noted, other, Bool.or_true, if_true]
    exact agrees_refresh before
  · simp only [ends, asked, Bool.true_or, if_true]
    exact agrees_clear bench
  · simp only [ends, silent, other, Bool.or_false, Bool.false_eq_true, if_false]
    exact agrees.setText text
  · simp only [silent, other, Bool.or_false, Bool.false_eq_true, if_false]
    exact agrees.sameView same (marks user)

/-- Any events of the user, by induction over them from the last one. -/
theorem agrees_run {bench : Workbench} (agrees : bench.Agrees false) (moments : List Moment)
    (user : ∀ moment ∈ moments, moment.event.fromUser = true)
    : (bench.run moments).Agrees (clearedLast (bench.turns moments)) := by
  induction moments using List.reverseRecOn with
  | nil => exact agrees
  | append_singleton earlier moment ih =>
      obtain ⟨before, last⟩ := List.forall_mem_append.mp user
      rw [run_append, turns_append]
      exact agrees_reply (ih before) (last moment List.mem_cons_self)

-----------------------------------------------------------------------------------------
-- What agreement says of the rows
-----------------------------------------------------------------------------------------

theorem tinted_of_numbers {lines : List Program.AnnotatedLine} {first : Nat}
    (numbers : lines.map (·.number) = List.range' first lines.length)
    : ((((lines.map Row.ofLine).zipIdx first).filter fun (row, _) => row.warning.isSome).map
        Prod.snd)
      = (lines.filter (·.gloss.hasUnknown)).map (·.number) := by
  induction lines generalizing first with
  | nil => rfl
  | cons line rest ih =>
      rw [List.map_cons, List.length_cons, List.range'_succ] at numbers
      obtain ⟨here, later⟩ := List.cons.inj numbers
      have tail := ih later
      by_cases unknown : line.gloss.hasUnknown = true
      · simp [Row.ofLine, unknown, here, tail]
      · simp [Row.ofLine, unknown, tail]

theorem Agrees.unknownLines_eq {bench : Workbench} {cleared : Bool}
    (agrees : bench.Agrees cleared)
    : bench.annotator.unknownLines = bench.tintedRows := by
  rw [tintedRows, agrees.rows, tinted_of_numbers agrees.numbers, Annotator.unknownLines]

theorem mem_ascending {lines : List Int} {line : Int}
    : line ∈ Editor.ascending lines ↔ line ∈ lines := by
  rw [Editor.ascending, List.mem_eraseDups, List.mem_mergeSort]

theorem Agrees.message {bench : Workbench} {cleared : Bool} (agrees : bench.Agrees cleared)
    : bench.status.message
      = if cleared then ↑ "Ready"
        else if bench.tintedRows.length = 0 then ↑ "Translation complete"
        else "未登録/不明: " ++ Text.ofNat bench.tintedRows.length ++ " 行" := by
  rw [agrees.status, agrees.unknownLines_eq]
  cases cleared with
  | true => rfl
  | false =>
      cases bench.tintedRows with
      | nil => rfl
      | cons row rest => rfl

/-- After any events of the user, whatever files they come upon and whether or not they end in a
fault, the table has one row for each line of the annotator with its source and gloss and a
warning that joins its unknown words, the annotator and the editor name the numbers of the rows
with warnings as unknown lines, and the status counts them unless the table was emptied last.
-/
theorem run_agrees (annotator : Annotator) (settings : Settings)
    (valid : Settings.validGeometry settings.windowGeometry = true)
    : ∃ bench notices,
        start annotator settings = .ok (bench, notices)
        ∧ ∀ moments : List Moment,
            (∀ moment ∈ moments, moment.event.fromUser = true)
            → let reached := bench.run moments
              let lines := reached.annotator.lines
              let cleared := clearedLast (bench.turns moments)
              reached.rows.map (fun row => (row.source, row.gloss))
                = lines.map (fun line => (line.source, line.gloss.text))
              ∧ reached.rows.map (·.warning)
                = lines.map (fun line =>
                    if line.gloss.hasUnknown
                    then some (([',', ' '] : Text).intercalate line.gloss.unknowns)
                    else none)
              ∧ reached.annotator.unknownLines = reached.tintedRows
              ∧ (∀ number,
                  number ∈ reached.editor.unknownLines
                  ↔ number ∈ reached.tintedRows.map Int.ofNat)
              ∧ reached.status.message
                = (if cleared then ↑ "Ready"
                  else if reached.tintedRows.length = 0 then ↑ "Translation complete"
                  else
                    "未登録/不明: " ++ Text.ofNat reached.tintedRows.length
                      ++ " 行")
              ∧ (cleared = true → reached.rows = []) := by
  obtain ⟨before, started⟩ := start_eq_refresh annotator valid
  refine ⟨before.refresh.1, before.refresh.2, started, ?_⟩
  intro moments user reached lines cleared
  have agrees : reached.Agrees cleared := agrees_run (agrees_refresh before) moments user
  have rows : reached.rows = lines.map Row.ofLine := agrees.rows
  refine ⟨?_, ?_, agrees.unknownLines_eq, ?_, agrees.message, agrees.bare⟩
  · rw [rows, List.map_map]
    rfl
  · rw [rows, List.map_map]
    rfl
  · intro number
    rw [agrees.marks, mem_ascending, agrees.unknownLines_eq]

theorem run_agrees_editThenClear
    : let moments : List Moment :=
        [⟨⟨"h", "t", none⟩, .empty, .edit "G"⟩, ⟨⟨"h", "t", none⟩, .empty, .clear⟩]
      ∃ bench notices,
        Settings.validGeometry Settings.default.windowGeometry = true
        ∧ start (.ofCodeBook .empty) .default = .ok (bench, notices)
        ∧ (∀ moment ∈ moments, moment.event.fromUser = true)
        ∧ clearedLast (bench.turns moments) = true
        ∧ (bench.run moments).status.message = "Ready"
        ∧ (bench.run moments).rows = [] := by
  intro moments
  have valid : Settings.validGeometry Settings.default.windowGeometry = true := rfl
  obtain ⟨bench, notices, started, agreement⟩ := run_agrees (.ofCodeBook .empty) .default valid
  have user : ∀ moment ∈ moments, moment.event.fromUser = true := by
    simp [moments, Event.fromUser]
  have cleared : clearedLast (bench.turns moments) = true := rfl
  obtain ⟨-, -, -, -, message, bare⟩ := agreement moments user
  rw [cleared, if_pos rfl] at message
  exact ⟨bench, notices, valid, started, user, cleared, message, bare cleared⟩

end LatheGloss.Workbench
