import Mathlib
import LatheGloss.Proofs.Workbench.Run

/-! The table of an idle workbench is up to date. Whatever changes the text, the selected model or
the code book either fills the table anew or leaves a refresh due.
-/

namespace LatheGloss.Workbench

/-- The rows that a refresh would make now. -/
def currentRows (bench : Workbench) : List Row :=
  (Program.annotate (bench.annotator.book.describe bench.model?) bench.editor.text).map Row.ofLine

/-- The table shows the glosses of the text as it is, or the editor and the table are empty. -/
def UpToDate (bench : Workbench) : Prop :=
  bench.rows = bench.currentRows ∨ (bench.editor.text = [] ∧ bench.rows = [])

/-- What holds between any two events: the table is up to date unless a refresh is due. -/
def Fresh (bench : Workbench) : Prop :=
  bench.refreshDue = false → bench.UpToDate

/-- A refresh keeps the code book, the selection and the text that it makes the rows of. -/
theorem upToDate_refresh (bench : Workbench)
    : bench.refresh.1.UpToDate :=
  .inl rfl

theorem upToDate_clear (bench : Workbench)
    : bench.clear.UpToDate := by
  have text : bench.clear.editor.text = [] := by
    unfold clear setText Editor.setText Editor.moveTo
    dsimp only
    split <;> rfl
  exact .inr ⟨text, rfl⟩

theorem SameView.upToDate {before after : Workbench} (same : SameView before after)
    (current : before.UpToDate)
    : after.UpToDate := by
  have model : after.model? = before.model? := by
    rw [model?, model?, same.selector]
  have rows : after.currentRows = before.currentRows := by
    rw [currentRows, currentRows, same.annotator, model, same.text]
  rwa [UpToDate, same.rows, rows, same.text]

/-- One event, by the ways in which it can end. -/
theorem fresh_reply {bench : Workbench} (fresh : bench.Fresh) (moment : Moment)
    : (bench.reply moment).bench.Fresh := by
  intro idle
  rcases outcome_reply bench moment with
    ⟨before, ends, -, -⟩ | ⟨-, ends⟩ | ⟨text, ends, -, -⟩ | ⟨same, -, -, -⟩
  · rw [ends]
    exact upToDate_refresh before
  · rw [ends]
    exact upToDate_clear bench
  · rw [ends] at idle
    cases idle
  · exact same.upToDate (fresh (same.refreshDue.symm.trans idle))

theorem fresh_run {bench : Workbench} (fresh : bench.Fresh) (moments : List Moment)
    : (bench.run moments).Fresh := by
  induction moments generalizing bench with
  | nil => exact fresh
  | cons moment rest ih => exact ih (fresh_reply fresh moment)

/-- Four integers are as good a geometry as the window needs. -/
theorem geometryOf_of_valid {geometry : Json} (valid : Settings.validGeometry geometry = true)
    : ∃ numbers, geometryOf geometry = .ok numbers := by
  unfold Settings.validGeometry at valid
  split at valid
  · next items =>
      have four : items.length = 4 := by simpa using (Bool.and_eq_true_iff.mp valid).1
      exact ⟨items, by simp [geometryOf, four]⟩
  · cases valid

/-- A new workbench ends its start with a refresh. -/
theorem start_eq_refresh (annotator : Annotator) {settings : Settings}
    (valid : Settings.validGeometry settings.windowGeometry = true)
    : ∃ bench : Workbench, start annotator settings = .ok bench.refresh := by
  obtain ⟨numbers, found⟩ := geometryOf_of_valid valid
  rw [start, found]
  exact ⟨_, rfl⟩

/-- When the timer has run out no refresh is due, whether or not one was due before. -/
theorem refreshDue_timeout (bench : Workbench) (surroundings : Surroundings) (disk : Disk)
    : (bench.reply ⟨surroundings, disk, .timeout⟩).bench.refreshDue = false := by
  cases due : bench.refreshDue with
  | true => simp [reply, step, due, thenRefresh, refresh]
  | false => simp [reply, step, due, quietly]

/-- A new workbench comes up for every annotator and every valid geometry, and after any events,
whatever files they come upon and whether or not they end in a fault, the table is up to date if
no refresh is due; and none is due when the timer has run out.
-/
theorem run_upToDate_of_idle (annotator : Annotator) (settings : Settings)
    (valid : Settings.validGeometry settings.windowGeometry = true)
    : ∃ bench notices,
        start annotator settings = .ok (bench, notices)
        ∧ (∀ moments, (bench.run moments).refreshDue = false → (bench.run moments).UpToDate)
        ∧ ∀ moments surroundings disk,
            (bench.run (moments ++ [⟨surroundings, disk, .timeout⟩])).refreshDue = false := by
  obtain ⟨before, started⟩ := start_eq_refresh annotator valid
  refine ⟨before.refresh.1, before.refresh.2, started, ?_, ?_⟩
  · exact fresh_run fun _ => upToDate_refresh before
  · intro moments surroundings disk
    rw [run_append]
    exact refreshDue_timeout _ surroundings disk

theorem run_upToDate_of_idle_editThenTimeout
    : let typed : Moment := ⟨⟨"h", "t", none⟩, .empty, .edit ['G', '0', '\n', '(']⟩
      let ended : Moment := ⟨⟨"h", "t", none⟩, .empty, .timeout⟩
      ∃ bench notices,
        start (.ofCodeBook .empty) .default = .ok (bench, notices)
        ∧ Settings.validGeometry Settings.default.windowGeometry = true
        ∧ (bench.run [typed, ended]).refreshDue = false
        ∧ (bench.run [typed, ended]).UpToDate := by
  intro typed ended
  have valid : Settings.validGeometry Settings.default.windowGeometry = true := rfl
  obtain ⟨bench, notices, started, current, timeout⟩ :=
    run_upToDate_of_idle (.ofCodeBook .empty) .default valid
  have idle : (bench.run [typed, ended]).refreshDue = false := timeout [typed] _ _
  exact ⟨bench, notices, started, valid, idle, current [typed, ended] idle⟩

end LatheGloss.Workbench
