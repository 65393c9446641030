import Mathlib
import LatheGloss.Proofs.CodeBook.Exchange
import LatheGloss.Workbench.Event

/-! Runs of the workbench. Whatever files and surroundings an event comes upon, it ends in one of
four ways: the table is made anew, or it is emptied, or the text is replaced and a refresh is due,
or all that is shown is left as it was.
-/

namespace LatheGloss

/-- An event, with the disk and the surroundings that it comes upon. -/
structure Moment where
  surroundings : Surroundings
  disk : Disk
  event : Event

/-- An event and what it brought about. -/
structure Turn where
  event : Event
  reply : Reply

namespace Event

def clears : Event → Bool
  | clear => true
  | _ => false

/-- All events but one come from the user; lines are marked by other parts of the program. -/
def fromUser : Event → Bool
  | markLines _ => false
  | _ => true

end Event

/-- Whether a program was glossed, which is always noted. -/
def Reply.glosses (reply : Reply) : Bool :=
  reply.notices.any fun notice =>
    match notice with
    | .annotated _ _ => true
    | _ => false

namespace Workbench

def reply (bench : Workbench) (moment : Moment) : Reply :=
  bench.step moment.surroundings moment.disk moment.event

/-- The workbench after one moment after the other, also where an event ends in a fault. -/
def run (bench : Workbench) (moments : List Moment) : Workbench :=
  moments.foldl (fun bench moment => (bench.reply moment).bench) bench

def turns (bench : Workbench) : List Moment → List Turn
  | [] => []
  | moment :: rest =>
      let reply := bench.reply moment
      ⟨moment.event, reply⟩ :: turns reply.bench rest

theorem run_append (bench : Workbench) (earlier later : List Moment)
    : bench.run (earlier ++ later) = (bench.run earlier).run later :=
  List.foldl_append

theorem turns_append (bench : Workbench) (earlier later : List Moment)
    : bench.turns (earlier ++ later) = bench.turns earlier ++ (bench.run earlier).turns later := by
  induction earlier generalizing bench with
  | nil => rfl
  | cons moment rest ih => exact congrArg _ (ih (bench.reply moment).bench)

-----------------------------------------------------------------------------------------
-- Ends of an event
-----------------------------------------------------------------------------------------

/-- The table, the status and all that decides on them are as they were. -/
structure SameView (before after : Workbench) : Prop where
  annotator : after.annotator = before.annotator
  selector : after.selector = before.selector
  text : after.editor.text = before.editor.text
  rows : after.rows = before.rows
  status : after.status = before.status
  refreshDue : after.refreshDue = before.refreshDue

theorem SameView.refl (bench : Workbench)
    : SameView bench bench :=
  ⟨rfl, rfl, rfl, rfl, rfl, rfl⟩

/-- How an event can end. Only foreign marks change what is shown beside the table. -/
inductive Outcome (bench : Workbench) (event : Event) (reply : Reply) : Prop where
  | refreshed (before : Workbench) (ends : reply.bench = before.refresh.1)
      (noted : reply.glosses = true) (other : event.clears = false)
  | cleared (asked : event.clears = true) (ends : reply.bench = bench.clear)
  | edited (text : Text) (ends : reply.bench = bench.setText text)
      (silent : reply.glosses = false) (other : event.clears = false)
  | kept (same : SameView bench reply.bench)
      (marks : event.fromUser = true
        → reply.bench.editor.unknownLines = bench.editor.unknownLines)
      (silent : reply.glosses = false) (other : event.clears = false)

theorem glosses_thenRefresh (bench : Workbench) (disk : Disk) (notices : List Notice)
    (dialogs : List Dialog)
    : (bench.thenRefresh disk notices dialogs).glosses = true := by
  simp [Reply.glosses, thenRefresh, refresh, Annotator.annotate]

/-- The workbench is refreshed whatever was changed before. -/
theorem Outcome.thenRefresh {bench : Workbench} {event : Event} (other : event.clears = false)
    (before : Workbench) (disk : Disk) (notices : List Notice) (dialogs : List Dialog)
    : Outcome bench event (before.thenRefresh disk notices dialogs) :=
  .refreshed before rfl (glosses_thenRefresh before disk notices dialogs) other

/-- Nothing that is shown changes and no program is glossed. -/
theorem Outcome.same {bench : Workbench} {event : Event} {reply : Reply}
    (other : event.clears = false) (same : SameView bench reply.bench)
    (marks : reply.bench.editor.unknownLines = bench.editor.unknownLines)
    (silent : reply.glosses = false)
    : Outcome bench event reply :=
  .kept same (fun _ => marks) silent other

theorem goto_text (editor : Editor) (line : Int)
    : (editor.goto line).text = editor.text := by
  unfold Editor.goto Editor.moveTo Editor.remark
  split_ifs <;> rfl

theorem goto_unknownLines (editor : Editor) (line : Int)
    : (editor.goto line).unknownLines = editor.unknownLines := by
  unfold Editor.goto Editor.moveTo Editor.remark
  split_ifs <;> rfl

/-- Moving the cursor leaves everything else as it is. -/
theorem Outcome.goto {bench : Workbench} {event : Event} (other : event.clears = false)
    (disk : Disk) (line : Int)
    : Outcome bench event ({ bench with editor := bench.editor.goto line }.quietly disk) :=
  .same other ⟨rfl, rfl, goto_text bench.editor line, rfl, rfl, rfl⟩
    (goto_unknownLines bench.editor line) rfl

theorem outcome_loadProgram (bench : Workbench) (disk : Disk) (path : Text)
    : Outcome bench (.loadProgram path) (bench.loadProgram disk path) := by
  unfold loadProgram
  dsimp only
  split
  · exact .same rfl (.refl bench) rfl rfl
  · split
    · exact .thenRefresh rfl _ disk [] _
    · split
      · exact .same rfl (.refl bench) rfl rfl
      · exact .same rfl (.refl bench) rfl rfl

theorem outcome_selectModel (bench : Workbench) (disk : Disk) (model : Text)
    : Outcome bench (.selectModel model) (bench.selectModel disk model) := by
  unfold selectModel
  dsimp only
  split
  · exact .same rfl (.refl bench) rfl rfl
  · exact .thenRefresh rfl _ disk [] []

/-- An import that fails leaves the code book and the selector as they were. -/
theorem outcome_importBook (bench : Workbench) (disk : Disk) (path : Text)
    : Outcome bench (.importBook path) (bench.importBook disk path) := by
  unfold importBook
  dsimp only
  split
  · exact .same rfl (.refl bench) rfl rfl
  · split
    · split
      · exact .same rfl (.refl bench) rfl rfl
      · exact .same rfl (.refl bench) rfl rfl
    · exact .thenRefresh rfl _ disk _ _

theorem outcome_exportBook (bench : Workbench) (disk : Disk) (path : Text)
    : Outcome bench (.exportBook path) (bench.exportBook disk path) := by
  unfold exportBook
  split
  · dsimp only
    split
    · exact .same rfl (.refl bench) rfl rfl
    · split
      · next done =>
          obtain rfl := (CodeBook.save_eq_ok_iff.mp done).2
          exact .same rfl ⟨rfl, rfl, rfl, rfl, rfl, rfl⟩ rfl rfl
      · split
        · exact .same rfl (.refl bench) rfl rfl
        · exact .same rfl (.refl bench) rfl rfl
  · exact .same rfl (.refl bench) rfl rfl

theorem outcome_close (bench : Workbench) (surroundings : Surroundings) (disk : Disk)
    : Outcome bench .close (bench.close surroundings disk) := by
  unfold close
  dsimp only
  split
  · exact .same rfl ⟨rfl, rfl, rfl, rfl, rfl, rfl⟩ rfl rfl
  · exact .same rfl ⟨rfl, rfl, rfl, rfl, rfl, rfl⟩ rfl rfl
  · exact .same rfl ⟨rfl, rfl, rfl, rfl, rfl, rfl⟩ rfl rfl

/-- Every event ends in one of the four ways, by cases of the event. -/
theorem outcome_reply (bench : Workbench) (moment : Moment)
    : Outcome bench moment.event (bench.reply moment) := by
  obtain ⟨surroundings, disk, event⟩ := moment
  cases event with
  | loadProgram path => exact outcome_loadProgram bench disk path
  | refresh => exact .thenRefresh rfl bench disk [] []
  | clear => exact .cleared rfl rfl
  | importBook path => exact outcome_importBook bench disk path
  | exportBook path => exact outcome_exportBook bench disk path
  | selectModel model => exact outcome_selectModel bench disk model
  | edit text => exact .edited text rfl rfl rfl
  | timeout =>
      unfold reply step
      dsimp only
      split
      · exact .thenRefresh rfl _ disk [] []
      · exact .same rfl (.refl bench) rfl rfl
  | activateRow row => exact .goto rfl disk (row + 1)
  | gotoLine line => exact .goto rfl disk line
  | markLines lines =>
      exact .kept ⟨rfl, rfl, rfl, rfl, rfl, rfl⟩ (fun own => nomatch own) rfl rfl
  | move geometry => exact .same rfl ⟨rfl, rfl, rfl, rfl, rfl, rfl⟩ rfl rfl
  | close => exact outcome_close bench surroundings disk

end Workbench

end LatheGloss
