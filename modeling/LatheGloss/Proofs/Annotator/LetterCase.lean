import Mathlib
import LatheGloss.Proofs.Annotator.Issues
import LatheGloss.Proofs.Program.Comments
import LatheGloss.Proofs.Text.Classes

/-! Letters in either case. Nothing that a line is taken apart by is a letter, and every word is
judged in uppercase; so a line can be written with small letters as well as with capitals.
-/

namespace LatheGloss

open Program

namespace Text

/-- The text with capitals for its small letters of ASCII. -/
def capitals (text : Text) : Text :=
  text.map Character.toUpper

/-- Texts that differ at most in the case of letters of ASCII. -/
def SameLetters (left right : Text) : Prop :=
  left.capitals = right.capitals

end Text

-----------------------------------------------------------------------------------------
-- Characters
-----------------------------------------------------------------------------------------

theorem isBlank_toUpper (c : Character)
    : Text.isBlank c.toUpper = Text.isBlank c := by
  refine apply_toUpper (fun d letter => ?_) c
  have := code_of_isAlpha letter
  simp [Text.isBlank, CharSet.contains, Text.blankRanges]
  omega

theorem adheres_toUpper (left right : Character)
    : adheres left.toUpper right.toUpper = adheres left right := by
  rw [adheres, adheres, Character.isAlpha_toUpper_eq_isAlpha, Character.isAlpha_toUpper_eq_isAlpha]

namespace Text

theorem upperChar_of_toUpper (c : Character)
    : upperChar c.toUpper = upperChar c := by
  cases letter : c.isAlpha with
  | true =>
      have ascii : c.toNat < 128 := by
        have := code_of_isAlpha letter
        omega
      rw [upperChar_toUpper ascii, upperChar_of_ascii ascii]
  | false => rw [toUpper_of_not_isAlpha letter]

theorem upper_capitals (text : Text)
    : upper text.capitals = upper text := by
  rw [upper, capitals, List.flatMap_map]
  exact List.flatMap_congr fun c _ => upperChar_of_toUpper c

theorem trimEnd_capitals {drop : Character → Bool} (caseless : ∀ c, drop c.toUpper = drop c)
    (text : Text)
    : text.capitals.trimEnd drop = (text.trimEnd drop).capitals := by
  have same : drop ∘ Character.toUpper = drop := funext caseless
  exact (rdropWhile_map Character.toUpper drop text).trans (by rw [same]; rfl)

theorem trim_capitals {drop : Character → Bool} (caseless : ∀ c, drop c.toUpper = drop c)
    (text : Text)
    : text.capitals.trim drop = (text.trim drop).capitals := by
  have same : drop ∘ Character.toUpper = drop := funext caseless
  have begun : text.capitals.dropWhile drop = capitals (text.dropWhile drop) := by
    rw [capitals, List.dropWhile_map, same]
    rfl
  rw [trim, begun, trimEnd_capitals caseless]
  rfl

end Text

-----------------------------------------------------------------------------------------
-- Pieces and words of a line
-----------------------------------------------------------------------------------------

namespace Program

def Piece.capitals : Piece → Piece
  | .code c => .code c.toUpper
  | .comment body => .comment body.capitals

/-- A comment ends where it ended, by induction over the text. -/
theorem closeComment?_capitals (text : Text)
    : closeComment? text.capitals
      = (closeComment? text).map fun (body, after) => (body.capitals, after.capitals) := by
  fun_induction closeComment? text with
  | case1 => rfl
  | case2 rest => rfl
  | case3 rest => rfl
  | case4 c rest notClosing notLineFeed ih =>
      change closeComment? (c.toUpper :: Text.capitals rest) = _
      rw [closeComment?, ih, Option.map_map, Option.map_map]
      · rfl
      · exact mt (toUpper_eq_iff (by decide) c).mp notClosing
      · exact mt (toUpper_eq_iff (by decide) c).mp notLineFeed

theorem pieces_capitals (line : Text)
    : pieces line.capitals = (pieces line).map Piece.capitals := by
  fun_induction pieces line with
  | case1 => rw [Text.capitals, List.map_nil, pieces]; rfl
  | case2 rest body after closed ih =>
      have capitalsClosed := closeComment?_capitals rest
      rw [closed] at capitalsClosed
      exact (pieces_closed capitalsClosed).trans (congrArg _ ih)
  | case3 rest unclosed ih =>
      have capitalsUnclosed := closeComment?_capitals rest
      rw [unclosed] at capitalsUnclosed
      exact (pieces_unclosed capitalsUnclosed).trans (congrArg _ ih)
  | case4 c rest notOpening ih =>
      have other : c.toUpper ≠ '(' := mt (toUpper_eq_iff (by decide) c).mp notOpening
      exact (pieces_code other _).trans (congrArg _ ih)

theorem flatMap_draw_capitals {instead : Text} (caseless : instead.capitals = instead)
    (line : Text)
    : (pieces line.capitals).flatMap (Piece.draw instead)
      = Text.capitals ((pieces line).flatMap (Piece.draw instead)) := by
  rw [pieces_capitals, List.flatMap_map, Text.capitals, List.map_flatMap]
  refine List.flatMap_congr fun part _ => ?_
  cases part with
  | code c => rfl
  | comment body =>
      change List.map Character.toUpper instead = instead at caseless
      rw [Piece.capitals, Piece.draw, Piece.draw, Text.capitals, List.length_map,
        List.map_flatten, List.map_replicate, caseless]

theorem maskComments_capitals (line : Text)
    : maskComments line.capitals = (maskComments line).capitals := by
  rw [maskComments_eq_draw, maskComments_eq_draw, flatMap_draw_capitals rfl]

theorem clean_capitals (line : Text)
    : clean line.capitals = (clean line).capitals := by
  rw [clean, clean, withoutComments_eq_draw, withoutComments_eq_draw,
    flatMap_draw_capitals rfl, Text.trim_capitals isBlank_toUpper,
    Text.trimEnd_capitals (beq_toUpper (by decide))]

theorem words_capitals (line : Text)
    : words line.capitals = (words line).map Text.capitals := by
  have space : (· == ↑ ' ') ∘ Character.toUpper = (· == ↑ ' ') := funext (beq_toUpper (by decide))
  have bounds : (fun left right : Character => adheres left.toUpper right.toUpper) = adheres :=
    funext fun left => funext (adheres_toUpper left)
  rw [words, words, clean_capitals, List.splitOn_eq_splitOnP, List.splitOn_eq_splitOnP,
    Text.capitals, splitOnP_map, space, List.flatMap_map, List.map_flatMap]
  refine List.flatMap_congr fun segment _ => ?_
  rw [unglue, splitBy_map, bounds]
  rfl

theorem ofLine_capitals (describe : Text → Option Text) (line : Text)
    : Gloss.ofLine describe line.capitals = Gloss.ofLine describe line := by
  have tokens : ((words line).map Text.capitals).map classify = (words line).map classify := by
    rw [List.map_map]
    refine List.map_congr_left fun word _ => ?_
    rw [Function.comp_apply, classify, classify, Text.upper_capitals]
  rw [Gloss.ofLine, Gloss.ofLine, words_capitals, Gloss.ofWords, Gloss.ofWords, tokens]

def AnnotatedLine.capitals (line : AnnotatedLine) : AnnotatedLine :=
  { line with source := line.source.capitals }

theorem map_capitals_annotate (describe : Text → Option Text) (program : Text)
    : (annotate describe program).map (·.capitals)
      = (((sourceLines program).map Text.capitals).zipIdx 1).map fun (source, number) =>
          { number, source, gloss := Gloss.ofLine describe source } := by
  rw [annotate, List.map_map, List.zipIdx_map, List.map_map]
  refine List.map_congr_left fun placed _ => ?_
  have gloss := ofLine_capitals describe placed.1
  simp only [Function.comp_apply, AnnotatedLine.capitals, Prod.map, gloss, id_eq]

end Program

-----------------------------------------------------------------------------------------
-- Issues of a program
-----------------------------------------------------------------------------------------

theorem unknownWordIssue_capitals (line : AnnotatedLine) (word : Text)
    : unknownWordIssue line.capitals word = unknownWordIssue line word := by
  have columns : wordColumns line.source.capitals word = wordColumns line.source word := by
    rw [wordColumns, wordColumns, maskComments_capitals, Text.upper_capitals, Text.capitals,
      List.length_map]
  unfold unknownWordIssue AnnotatedLine.capitals
  rw [columns]

theorem issuesOf_capitals (lines : List AnnotatedLine)
    : issuesOf (lines.map (·.capitals)) = issuesOf lines := by
  rw [issuesOf, issuesOf, List.flatMap_map]
  refine congrArg IssueLog.mk (List.flatMap_congr fun line _ => ?_)
  exact List.map_congr_left fun word _ => unknownWordIssue_capitals line word

/-- Lines with the same letters have the same gloss, and programs whose lines have the same letters
have the same issues.
-/
theorem annotate_caseless (annotator : Annotator) (model : Option Text)
    : (∀ line other : Text,
        line.SameLetters other
        → Gloss.ofLine (annotator.book.describe model) line
          = Gloss.ofLine (annotator.book.describe model) other)
      ∧ ∀ program other : Text,
          List.Forall₂ Text.SameLetters (sourceLines program) (sourceLines other)
          → (annotator.annotate program model).1.issues
            = (annotator.annotate other model).1.issues := by
  refine ⟨?_, ?_⟩
  · intro line other same
    rw [← ofLine_capitals _ line, ← ofLine_capitals _ other, same]
  · intro program other same
    have sources
        : (sourceLines program).map Text.capitals = (sourceLines other).map Text.capitals :=
      List.forall₂_eq_eq_eq ▸ List.forall₂_map_left_iff.mpr (List.forall₂_map_right_iff.mpr same)
    change issuesOf (Program.annotate _ program) = issuesOf (Program.annotate _ other)
    rw [← issuesOf_capitals, ← issuesOf_capitals (Program.annotate _ other),
      map_capitals_annotate, map_capitals_annotate, sources]

/-- Programs with the same letters may end their lines in different ways. -/
theorem annotate_caseless_mixed
    : let annotator := Annotator.ofCodeBook .empty
      let line : Text := "gOtO1x (a) m8ü;"
      let other : Text := "GoTo1X (A) M8ü;"
      let program : Text := "g7(x)\r\n#1é"
      let otherProgram : Text := "G7(X)\n#1é"
      line.SameLetters other
      ∧ Gloss.ofLine (annotator.book.describe none) line
        = Gloss.ofLine (annotator.book.describe none) other
      ∧ List.Forall₂ Text.SameLetters (sourceLines program) (sourceLines otherProgram)
      ∧ (annotator.annotate program none).1.issues.issues.length = 2
      ∧ (annotator.annotate program none).1.issues
        = (annotator.annotate otherProgram none).1.issues := by
  intro annotator line other program otherProgram
  obtain ⟨glosses, issues⟩ := annotate_caseless annotator none
  have sameLine : line.SameLetters other := by
    change line.capitals = other.capitals
    decide +kernel
  have programLines : sourceLines program = (["g7(x)", "#1é"] : List Text) := by decide +kernel
  have otherLines : sourceLines otherProgram = (["G7(X)", "#1é"] : List Text) := by decide +kernel
  have sameLines
      : List.Forall₂ Text.SameLetters (sourceLines program) (sourceLines otherProgram) := by
    rw [programLines, otherLines]
    refine .cons ?_ (.cons rfl .nil)
    change Text.capitals "g7(x)" = Text.capitals "G7(X)"
    decide +kernel
  exact ⟨sameLine, glosses line other sameLine, sameLines, by decide +kernel,
    issues program otherProgram sameLines⟩

end LatheGloss
