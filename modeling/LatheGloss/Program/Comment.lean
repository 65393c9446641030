import LatheGloss.Text.Basic

/-! Comments of a program line. A comment runs from an opening parenthesis to the first closing
one after it with no line feed between; comments do not nest, and a parenthesis that is not
closed is code.
-/

namespace LatheGloss.Program

/-- A line is code with comments between. -/
inductive Piece where
  | code (c : Character)
  | comment (body : Text)
  deriving DecidableEq

/-- The text of a piece, for a comment with its parentheses. -/
def Piece.source : Piece → Text
  | .code c => [c]
  | .comment body => ↑ '(' :: body ++ ([')'] : Text)

/-- What stands before the closing parenthesis of an open comment, and what follows it. -/
def closeComment? : Text → Option (Text × Text)
  | [] => none
  | ')' :: rest => some ([], rest)
  | '\n' :: _ => none
  | c :: rest => (closeComment? rest).map fun (body, after) => (c :: body, after)

/-- A comment closes at the first closing parenthesis unless a line feed comes before it. -/
theorem closeComment?_eq_some_iff {text body after : Text}
    : closeComment? text = some (body, after)
      ↔ text = body ++ ↑ ')' :: after ∧ ↑ ')' ∉ body ∧ ↑ '\n' ∉ body := by
  fun_induction closeComment? text generalizing body after with
  | case1 => simp
  | case2 rest =>
      constructor
      · intro found
        cases found
        simp
      · rintro ⟨same, closed, _⟩
        cases body with
        | nil => simpa [eq_comm] using same
        | cons c tail =>
            cases same
            simp at closed
  | case3 rest =>
      constructor
      · intro found
        cases found
      · rintro ⟨same, _, unbroken⟩
        cases body with
        | nil => cases same
        | cons c tail =>
            cases same
            simp at unbroken
  | case4 c rest notClosed notEnded ih =>
      constructor
      · intro found
        obtain ⟨⟨inner, more⟩, found, same⟩ := Option.map_eq_some_iff.mp found
        cases same
        obtain ⟨rfl, closed, unbroken⟩ := ih.mp found
        refine ⟨rfl, ?_, ?_⟩
        · simp [closed, Ne.symm notClosed]
        · simp [unbroken, Ne.symm notEnded]
      · rintro ⟨same, closed, unbroken⟩
        cases body with
        | nil =>
            cases same
            exact absurd rfl notClosed
        | cons first tail =>
            obtain ⟨rfl, rfl⟩ := List.cons.inj same
            simp only [List.mem_cons, not_or] at closed unbroken
            exact Option.map_eq_some_iff.mpr
              ⟨_, ih.mpr ⟨rfl, closed.2, unbroken.2⟩, rfl⟩

/-- A line is taken apart from the left, each comment as soon as it opens. -/
def pieces : Text → List Piece
  | [] => []
  | c :: rest =>
      if c = '(' then
        match _h : closeComment? rest with
        | some (body, after) => .comment body :: pieces after
        | none => .code c :: pieces rest
      else
        .code c :: pieces rest
  termination_by text => text.length
  decreasing_by
    all_goals simp
    have same := (closeComment?_eq_some_iff.mp _h).1
    simp [same]
    omega

/-- The line without its comments. -/
def withoutComments (line : Text) : Text :=
  (pieces line).flatMap fun
    | .code c => [c]
    | .comment _ => []

/-- The line with a space in every column of a comment. -/
def maskComments (line : Text) : Text :=
  (pieces line).flatMap fun
    | .code c => [c]
    | .comment body => List.replicate (body.length + 2) ' '

/-- First column and length of each comment among pieces that begin at a column. -/
def commentColumnsFrom (column : Nat) : List Piece → List (Nat × Nat)
  | [] => []
  | .code _ :: rest => commentColumnsFrom (column + 1) rest
  | .comment body :: rest =>
      (column, body.length + 2) :: commentColumnsFrom (column + body.length + 2) rest

/-- First column and length of each comment of a line. -/
def commentColumns (line : Text) : List (Nat × Nat) :=
  commentColumnsFrom 0 (pieces line)

end LatheGloss.Program
