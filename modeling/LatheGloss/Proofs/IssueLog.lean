import Mathlib
import LatheGloss.Issue
import LatheGloss.Proofs.StableSort

/-! Histories of an issue log. A log holds what was added since it was last cleared, in the order in
which it was added, whatever it was asked in between. All its issues by line and column are the
issues of one line after the other, each by column.
-/

namespace LatheGloss

/-- Where an issue stands: on which line, and from which column on. -/
def Issue.place (issue : Issue) : ℤ ×ₗ ℤ :=
  toLex (issue.line, issue.start)

theorem Issue.le_iff (left right : Issue)
    : left.le right = true ↔ left.place ≤ right.place := by
  simp [le, place, Prod.Lex.toLex_le_toLex]

namespace IssueLog

/-- What a log is there for: it can be changed, and it can be asked what it holds. -/
inductive Call where
  | add (issue : Issue)
  | clear
  | askAll
  | askLine (line : Int)
  | askProblems
  deriving DecidableEq

/-- What a log answers: issues that it holds, or whether there are problems among them. -/
inductive Answer where
  | issues (found : List Issue)
  | verdict (hasProblems : Bool)

namespace Call

def changes : Call → Bool
  | add _ | clear => true
  | askAll | askLine _ | askProblems => false

def issue? : Call → Option Issue
  | add issue => some issue
  | clear | askAll | askLine _ | askProblems => none

end Call

/-- The log after a call, and the answer to it if it asks for one. -/
def perform (log : IssueLog) : Call → IssueLog × Option Answer
  | .add issue => (log.add issue, none)
  | .clear => (.empty, none)
  | .askAll => (log, some (.issues log.sorted))
  | .askLine line => (log, some (.issues (log.onLine line)))
  | .askProblems => (log, some (.verdict log.hasProblems))

def run (log : IssueLog) (calls : List Call) : IssueLog :=
  calls.foldl (fun log call => (log.perform call).1) log

/-- The answers to calls that are made one after the other. -/
def answers (log : IssueLog) : List Call → List Answer
  | [] => []
  | call :: rest => (log.perform call).2.toList ++ (log.perform call).1.answers rest

/-- The issues that were added since the last clearing. -/
def added (calls : List Call) : List Issue :=
  (calls.rtakeWhile (· ≠ .clear)).filterMap Call.issue?

-----------------------------------------------------------------------------------------
-- What is in a log
-----------------------------------------------------------------------------------------

/-- One more call, by its cases. -/
theorem issues_perform {log : IssueLog} {earlier : List Call} (holds : log.issues = added earlier)
    (call : Call)
    : (log.perform call).1.issues = added (earlier ++ [call]) := by
  cases call with
  | clear => simp [perform, empty, added]
  | add issue => simp [perform, add, holds, added, Call.issue?]
  | askAll | askLine _ | askProblems => simp [perform, holds, added, Call.issue?]

/-- Any calls, by induction from the last one back. -/
theorem issues_run (calls : List Call)
    : (empty.run calls).issues = added calls := by
  induction calls using List.reverseRecOn with
  | nil => rfl
  | append_singleton earlier call ih =>
      rw [run, List.foldl_append]
      exact issues_perform ih call

theorem perform_of_asks {call : Call} (asks : call.changes = false) (log : IssueLog)
    : (log.perform call).1 = log := by
  cases call with
  | add _ | clear => cases asks
  | askAll | askLine _ | askProblems => rfl

/-- Only changes matter to the log after calls, by induction over the calls. -/
theorem run_filter_changes (log : IssueLog) (calls : List Call)
    : log.run (calls.filter Call.changes) = log.run calls := by
  induction calls generalizing log with
  | nil => rfl
  | cons call rest ih =>
      cases kind : call.changes with
      | true =>
          rw [List.filter_cons_of_pos kind]
          exact ih (log.perform call).1
      | false =>
          rw [List.filter_cons_of_neg (by simp [kind]), ih, run, run, List.foldl_cons,
            perform_of_asks kind]

-----------------------------------------------------------------------------------------
-- The views of a log
-----------------------------------------------------------------------------------------

theorem stablySorted_sorted (log : IssueLog)
    : StablySorted Issue.place log.issues log.sorted :=
  stablySorted_mergeSort Issue.le_iff log.issues

/-- The issues of a line stand among all issues as they do when they alone are sorted. -/
theorem filter_sorted (log : IssueLog) (line : Int)
    : log.sorted.filter (·.line = line)
      = (log.onLine line).mergeSort fun left right => left.start ≤ right.start :=
  (log.stablySorted_sorted.part line).eq
    (stablySorted_mergeSort (fun _ _ => decide_eq_true_iff) (log.onLine line))

theorem sorted_eq_partsBy (log : IssueLog) {lines : List Int} (ascending : lines.Pairwise (· < ·))
    (known : ∀ issue ∈ log.issues, issue.line ∈ lines)
    : log.sorted = partsBy Issue.line lines log.sorted := by
  refine eq_partsBy ?_ ascending fun issue member => ?_
  · refine log.stablySorted_sorted.ordered.imp fun {left right} inOrder => ?_
    rcases Prod.Lex.toLex_le_toLex.mp inOrder with before | ⟨same, -⟩
    · exact before.le
    · exact same.le
  · exact known issue (log.stablySorted_sorted.perm.mem_iff.mp member)

/-- After any calls a log tells of the issues added since it was last cleared. All of them stand by
line and column, and those at one place as they were added; among them the issues of a line stand as
if they alone were sorted by column, and the lines follow one another. To ask changes no later
answer, and the verdict is the same in whatever order those issues were added.
-/
theorem run_viewsAgree (calls : List Call)
    : let log := empty.run calls
      StablySorted Issue.place (added calls) log.sorted
      ∧ (∀ line,
          log.sorted.filter (·.line = line)
          = (log.onLine line).mergeSort fun left right => left.start ≤ right.start)
      ∧ (∀ lines : List Int,
          lines.Pairwise (· < ·)
          → (∀ issue ∈ added calls, issue.line ∈ lines)
          → log.sorted = partsBy Issue.line lines log.sorted)
      ∧ (∀ later, log.answers later = (empty.run (calls.filter Call.changes)).answers later)
      ∧ ∀ other : List Call,
          (added other).Perm (added calls) → (empty.run other).hasProblems = log.hasProblems := by
  intro log
  have holds : log.issues = added calls := issues_run calls
  refine ⟨?_, log.filter_sorted, ?_, ?_, ?_⟩
  · rw [← holds]
    exact log.stablySorted_sorted
  · intro lines ascending known
    exact log.sorted_eq_partsBy ascending (holds ▸ known)
  · intro later
    rw [run_filter_changes]
  · intro other reordered
    rw [hasProblems, hasProblems, issues_run, holds]
    exact reordered.any_eq

/-- Issues on a line before the first, and at one place, added in another order. -/
theorem run_viewsAgree_reordered
    : let forgotten : Issue := ⟨5, 0, 1, [], .unknownToken, .error⟩
      let first : Issue := ⟨2, 4, 5, ['a'], .unknownToken, .info⟩
      let second : Issue := ⟨-1, 7, 9, ['b'], .unregisteredCode, .warning⟩
      let third : Issue := ⟨2, -3, 0, ['c'], .unknownToken, .info⟩
      let fourth : Issue := ⟨2, 4, 4, ['d'], .unregisteredCode, .info⟩
      let calls : List Call :=
        [.add forgotten, .clear, .add first, .add second, .askAll, .add third, .add fourth]
      let other : List Call :=
        [.add fourth, .askProblems, .add third, .askLine 2, .add second, .add first]
      added calls = [first, second, third, fourth]
      ∧ (empty.run calls).sorted = [second, third, first, fourth]
      ∧ (empty.run calls).sorted = partsBy Issue.line [-1, 2] (empty.run calls).sorted
      ∧ (empty.run calls).hasProblems = true
      ∧ (added other).Perm (added calls)
      ∧ (empty.run other).hasProblems = (empty.run calls).hasProblems := by
  intro forgotten first second third fourth calls other
  obtain ⟨-, -, lines, -, verdict⟩ := run_viewsAgree calls
  have reordered : (added other).Perm (added calls) := by decide
  refine ⟨by decide, by cbv, ?_, by decide, reordered, verdict other reordered⟩
  exact lines [-1, 2] (by decide) (by decide)

end IssueLog

end LatheGloss
