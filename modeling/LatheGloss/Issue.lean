import LatheGloss.Text.Basic

/-! Issues point at places in a program that something is wrong with. An issue log keeps them in
the order in which they were found.
-/

namespace LatheGloss

inductive IssueKind where
  | unknownToken
  | unregisteredCode
  deriving DecidableEq

inductive Severity where
  | info
  | warning
  | error
  deriving DecidableEq

namespace IssueKind

def name : IssueKind → Text
  | unknownToken => "unknown_token"
  | unregisteredCode => "unregistered_code"

def all : List IssueKind :=
  [unknownToken, unregisteredCode]

/-- The kind of a name. -/
def ofName? (name : Text) : Option IssueKind :=
  all.find? (·.name == name)

end IssueKind

namespace Severity

def name : Severity → Text
  | info => "info"
  | warning => "warning"
  | error => "error"

def all : List Severity :=
  [info, warning, error]

/-- The severity of a name. -/
def ofName? (name : Text) : Option Severity :=
  all.find? (·.name == name)

end Severity

/-- An issue concerns the columns of a line from start on and before stop. -/
structure Issue where
  line : Int
  start : Int
  stop : Int
  message : Text
  kind : IssueKind
  severity : Severity
  deriving DecidableEq

namespace Issue

def describe (issue : Issue) : Text :=
  "Line " ++ Text.ofInt issue.line ++ ": " ++ issue.message

/-- Issues are ordered by line, and those of one line by where they start. -/
def le (left right : Issue) : Bool :=
  left.line < right.line || (left.line = right.line && left.start ≤ right.start)

/-- Whether an issue is more than an information. -/
def isProblem (issue : Issue) : Bool :=
  issue.severity ≠ .info

end Issue

structure IssueLog where
  issues : List Issue
  deriving DecidableEq

namespace IssueLog

def empty : IssueLog :=
  ⟨[]⟩

def add (log : IssueLog) (issue : Issue) : IssueLog :=
  ⟨log.issues ++ [issue]⟩

/-- The issues of a line in the order in which they were found. -/
def onLine (log : IssueLog) (line : Int) : List Issue :=
  log.issues.filter (·.line = line)

/-- All issues by line and column; those at one place stay in the order in which they were
found. -/
def sorted (log : IssueLog) : List Issue :=
  log.issues.mergeSort Issue.le

def hasProblems (log : IssueLog) : Bool :=
  log.issues.any Issue.isProblem

/-- How many issues have a severity. -/
def count (log : IssueLog) (severity : Severity) : Nat :=
  log.issues.countP (·.severity = severity)

end IssueLog

end LatheGloss
