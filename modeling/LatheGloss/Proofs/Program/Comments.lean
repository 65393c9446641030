import Mathlib
import LatheGloss.Program.Highlight
import LatheGloss.Proofs.Program.Columns
import LatheGloss.Proofs.Program.WrittenLine

/-! Comments of a line, wherever they are looked for. The columns that are marked as comments are
those that masking puts spaces into and those that cleaning takes away; and what masking or cleaning
leaves of a line holds no comment, not even one that was not there before.
-/

namespace LatheGloss.Program

/-- First column and length of every mark for a comment. -/
def commentMarks (line : Text) : List (Nat × Nat) :=
  ((highlight line).filter (·.style = .comment)).map fun span => (span.start, span.length)

/-- Whether a column lies within one of the marks. -/
def covers (marks : List (Nat × Nat)) (column : Nat) : Bool :=
  marks.any fun (start, length) => start ≤ column && column < start + length

/-- The line with something else in every column that is covered; with nothing there, it is the line
without these columns.
-/
def replaceCovered (instead : Text) (marks : List (Nat × Nat)) (line : Text) : Text :=
  line.zipIdx.flatMap fun (c, column) => if covers marks column then instead else [c]

/-- From the mark's first column on stands an opening parenthesis, and at its end the first closing
one after it, with no line feed between.
-/
def IsCommentAt (line : Text) (mark : Nat × Nat) : Prop :=
  ∃ body : Text, ↑ ')' ∉ body
    ∧ ↑ '\n' ∉ body
    ∧ mark.2 = body.length + 2
    ∧ Text.OccursAt (↑ '(' :: body ++ ([')'] : Text)) line mark.1

/-- No opening parenthesis is followed by a closing one without a line feed between. -/
def IsCommentFree (text : Text) : Prop :=
  ∀ before between after : Text,
    text = before ++ ↑ '(' :: between ++ ↑ ')' :: after → ↑ '\n' ∈ between

/-- The code of a piece, and for every column of a comment something else. -/
def Piece.draw (instead : Text) : Piece → Text
  | .code c => [c]
  | .comment body => (List.replicate (body.length + 2) instead).flatten

-----------------------------------------------------------------------------------------
-- Pieces of a line
-----------------------------------------------------------------------------------------

theorem pieces_unclosed {rest : Text} (unclosed : closeComment? rest = none)
    : pieces ('(' :: rest) = .code '(' :: pieces rest := by
  rw [pieces, if_pos rfl]
  split
  · next closed =>
      rw [unclosed] at closed
      cases closed
  · rfl

/-- A character is code unless it opens a comment that closes. -/
theorem pieces_code_of_open {c : Character} {rest : Text}
    (stays : c = '(' → closeComment? rest = none)
    : pieces (c :: rest) = .code c :: pieces rest := by
  by_cases opening : c = '('
  · subst opening
    exact pieces_unclosed (stays rfl)
  · exact pieces_code opening rest

/-- Comments hold no closing parenthesis and no line feed. -/
theorem isCommentOr_of_mem_pieces (line : Text)
    : ∀ part ∈ pieces line, part.IsCommentOr fun _ => True := by
  fun_induction pieces line with
  | case1 => simp
  | case2 rest body after closed ih =>
      exact List.forall_mem_cons.mpr ⟨(closeComment?_eq_some_iff.mp closed).2, ih⟩
  | case3 rest unclosed ih => exact List.forall_mem_cons.mpr ⟨trivial, ih⟩
  | case4 c rest notOpening ih => exact List.forall_mem_cons.mpr ⟨trivial, ih⟩

theorem withoutComments_eq_draw (line : Text)
    : withoutComments line = (pieces line).flatMap (Piece.draw []) := by
  refine List.flatMap_congr fun part _ => ?_
  cases part with
  | code c => rfl
  | comment body => exact List.flatten_replicate_nil.symm

theorem maskComments_eq_draw (line : Text)
    : maskComments line = (pieces line).flatMap (Piece.draw [' ']) := by
  refine List.flatMap_congr fun part _ => ?_
  cases part with
  | code c => rfl
  | comment body => exact List.flatten_replicate_singleton.symm

-----------------------------------------------------------------------------------------
-- Marks of a line
-----------------------------------------------------------------------------------------

theorem style_of_mem_wordSpansFrom {column : Nat} {previous : Option Character} {left : Nat}
    {text : Text} {span : Span} (member : span ∈ wordSpansFrom column previous left text)
    : span.style ∈ wordStyles := by
  fun_induction wordSpansFrom column previous left text with
  | case1 => cases member
  | case2 column previous c rest left ih => exact ih member
  | case3 column previous c rest style length found ih =>
      rcases List.mem_cons.mp member with rfl | later
      · obtain ⟨known, listed, here⟩ := List.exists_of_findSome?_eq_some found
        obtain ⟨width, -, same⟩ := Option.map_eq_some_iff.mp here
        obtain rfl : known = style := (Prod.mk.inj same).1
        exact listed
      · exact ih later
  | case4 column previous c rest none ih => exact ih member

/-- The marks for comments are those of the comments; words and terminators are marked otherwise. -/
theorem commentMarks_eq (line : Text)
    : commentMarks line = commentColumns line := by
  have words : (wordSpans line).filter (·.style = .comment) = [] := by
    refine List.filter_eq_nil_iff.mpr fun span member comment => ?_
    have listed := style_of_mem_wordSpansFrom member
    rw [of_decide_eq_true comment] at listed
    exact absurd listed (by decide)
  have comments : (commentSpans line).filter (·.style = .comment) = commentSpans line := by
    refine List.filter_eq_self.mpr fun span member => ?_
    obtain ⟨mark, -, rfl⟩ := List.mem_map.mp member
    rfl
  have terminators : (terminatorSpans line).filter (·.style = .comment) = [] := by
    unfold terminatorSpans
    dsimp only
    split <;> rfl
  rw [commentMarks, highlight, List.filter_append, List.filter_append, words, comments,
    terminators, List.nil_append, List.append_nil, commentSpans, List.map_map]
  exact List.map_id _

theorem le_of_mem_commentColumnsFrom {column : Nat} {parts : List Piece} {mark : Nat × Nat}
    (member : mark ∈ commentColumnsFrom column parts)
    : column ≤ mark.1 := by
  induction parts generalizing column with
  | nil => cases member
  | cons part rest ih =>
      cases part with
      | code c => exact (Nat.le_succ column).trans (ih member)
      | comment body =>
          rcases List.mem_cons.mp member with rfl | later
          · exact Nat.le_refl column
          · have := ih later
            omega

/-- Each comment ends before the next one begins. -/
theorem pairwise_commentColumnsFrom (column : Nat) (parts : List Piece)
    : (commentColumnsFrom column parts).Pairwise fun left right => left.1 + left.2 ≤ right.1 := by
  induction parts generalizing column with
  | nil => exact List.Pairwise.nil
  | cons part rest ih =>
      cases part with
      | code c => exact ih (column + 1)
      | comment body =>
          exact List.pairwise_cons.mpr
            ⟨fun mark later => le_of_mem_commentColumnsFrom later, ih _⟩

/-- A comment stands where its mark is, after what comes before the pieces. -/
theorem isCommentAt_of_mem {before : Text} {parts : List Piece}
    (plain : ∀ part ∈ parts, part.IsCommentOr fun _ => True) {mark : Nat × Nat}
    (member : mark ∈ commentColumnsFrom before.length parts)
    : IsCommentAt (before ++ parts.flatMap Piece.source) mark := by
  induction parts generalizing before with
  | nil => cases member
  | cons part rest ih =>
      obtain ⟨first, others⟩ := List.forall_mem_cons.mp plain
      have later (inRest : mark ∈ commentColumnsFrom (before ++ part.source).length rest)
          : IsCommentAt (before ++ (part :: rest).flatMap Piece.source) mark := by
        rw [List.flatMap_cons, ← List.append_assoc]
        exact ih others inRest
      cases part with
      | code c =>
          apply later
          rwa [List.length_append]
      | comment body =>
          rcases List.mem_cons.mp member with rfl | inRest
          · refine ⟨body, first.1, first.2, rfl, ?_⟩
            rw [Text.OccursAt, List.drop_left, List.flatMap_cons]
            exact List.prefix_append _ _
          · apply later
            have width : (Piece.comment body).source.length = body.length + 2 := by
              simp [Piece.source]
            rwa [List.length_append, width, ← Nat.add_assoc]

/-- A comment of a text is that of a piece or lies within one, by induction over the pieces: what
opens at a piece of code closes behind it, and what opens within a comment closes with it.
-/
theorem exists_around_of_pieces {text front body after : Text} (column : Nat)
    (same : text = front ++ ↑ '(' :: body ++ ↑ ')' :: after) (closed : ↑ ')' ∉ body)
    (unbroken : ↑ '\n' ∉ body)
    : ∃ mark ∈ commentColumnsFrom column (pieces text),
        mark.1 ≤ column + front.length
        ∧ column + front.length + (body.length + 2) ≤ mark.1 + mark.2 := by
  have closing : closeComment? (body ++ ↑ ')' :: after) = some (body, after) :=
    closeComment?_eq_some_iff.mpr ⟨rfl, closed, unbroken⟩
  fun_induction pieces text generalizing column front with
  | case1 => simp at same
  | case2 rest around behind found ih =>
      cases front with
      | nil =>
          obtain rfl : rest = body ++ ↑ ')' :: after := by simpa using same
          obtain ⟨rfl, rfl⟩ := Prod.mk.inj (Option.some.inj (found.symm.trans closing))
          exact ⟨_, List.mem_cons_self, by simp, by simp⟩
      | cons c front =>
          obtain ⟨parts, free, whole⟩ := closeComment?_eq_some_iff.mp found
          have split : front ++ ↑ '(' :: (body ++ ↑ ')' :: after) = around ++ ↑ ')' :: behind := by
            rw [← parts]
            simpa using (List.cons.inj same).2.symm
          rcases List.append_eq_append_iff.mp split with ⟨inner, rfl, later⟩ | ⟨skipped, rfl, later⟩
          · cases inner with
            | nil => simp at later
            | cons d inner =>
                obtain ⟨rfl, tails⟩ := List.cons.inj later
                have ends : closeComment? (body ++ ↑ ')' :: after) = some (inner, behind) := by
                  refine closeComment?_eq_some_iff.mpr ⟨tails, ?_, ?_⟩
                  · exact fun member => free (by simp [member])
                  · exact fun member => whole (by simp [member])
                obtain ⟨rfl, -⟩ := Prod.mk.inj (Option.some.inj (ends.symm.trans closing))
                refine ⟨_, List.mem_cons_self, Nat.le_add_right _ _, ?_⟩
                simp only [List.length_append, List.length_cons]
                omega
          · cases skipped with
            | nil => simp at later
            | cons d skipped =>
                obtain ⟨rfl, tails⟩ := List.cons.inj later
                obtain ⟨mark, member, starts, stops⟩ :=
                  ih (column + around.length + 2) (by simpa using tails)
                refine ⟨mark, List.mem_cons_of_mem _ member, ?_, ?_⟩ <;>
                  simp only [List.length_append, List.length_cons] <;>
                  omega
  | case3 rest unclosed ih =>
      cases front with
      | nil =>
          obtain rfl : rest = body ++ ↑ ')' :: after := by simpa using same
          rw [closing] at unclosed
          cases unclosed
      | cons c front =>
          obtain ⟨mark, member, starts, stops⟩ :=
            ih (column + 1) (List.cons.inj same).2
          exact ⟨mark, member, by simp; omega, by simp; omega⟩
  | case4 c rest notOpening ih =>
      cases front with
      | nil => exact absurd (List.cons.inj same).1 notOpening
      | cons d front =>
          obtain ⟨mark, member, starts, stops⟩ :=
            ih (column + 1) (List.cons.inj same).2
          exact ⟨mark, member, by simp; omega, by simp; omega⟩

theorem exists_around_of_isCommentAt {line : Text} {mark : Nat × Nat}
    (comment : IsCommentAt line mark)
    : ∃ around ∈ commentColumns line,
        around.1 ≤ mark.1 ∧ mark.1 + mark.2 ≤ around.1 + around.2 := by
  obtain ⟨body, closed, unbroken, width, after, rest⟩ := comment
  have reached : mark.1 ≤ line.length := by
    by_contra beyond
    simp [List.drop_eq_nil_of_le (Nat.le_of_not_le beyond)] at rest
  have same : line = line.take mark.1 ++ ↑ '(' :: body ++ ↑ ')' :: after := by
    conv_lhs => rw [← List.take_append_drop mark.1 line, ← rest]
    simp
  obtain ⟨around, member, starts, stops⟩ := exists_around_of_pieces 0 same closed unbroken
  rw [List.length_take_of_le reached, Nat.zero_add] at starts stops
  exact ⟨around, member, starts, by rwa [width]⟩

-----------------------------------------------------------------------------------------
-- Columns that are replaced
-----------------------------------------------------------------------------------------

theorem covers_of_lt {column first : Nat} {parts : List Piece} (before : column < first)
    : covers (commentColumnsFrom first parts) column = false := by
  refine List.any_eq_false.mpr fun mark member => ?_
  have := le_of_mem_commentColumnsFrom member
  simp
  omega

theorem covers_within {column place : Nat} {body : Text} (reached : column ≤ place)
    (inside : place < column + (body.length + 2)) (rest : List Piece)
    : covers (commentColumnsFrom column (.comment body :: rest)) place = true :=
  List.any_eq_true.mpr ⟨_, List.mem_cons_self, by simp [reached, inside]⟩

theorem covers_beyond {column place : Nat} {body : Text}
    (beyond : column + (body.length + 2) ≤ place) (rest : List Piece)
    : covers (commentColumnsFrom column (.comment body :: rest)) place
      = covers (commentColumnsFrom (column + body.length + 2) rest) place := by
  have outside : ¬place < column + (body.length + 2) := by omega
  simp [covers, commentColumnsFrom, outside]

/-- Drawing the pieces of a text is replacing what the marks of its comments cover, by induction
over the pieces.
-/
theorem flatMap_draw (instead : Text) (column : Nat) (parts : List Piece)
    : parts.flatMap (Piece.draw instead)
      = ((parts.flatMap Piece.source).zipIdx column).flatMap fun (c, place) =>
          if covers (commentColumnsFrom column parts) place then instead else [c] := by
  induction parts generalizing column with
  | nil => rfl
  | cons part rest ih =>
      rw [List.flatMap_cons, List.flatMap_cons, List.zipIdx_append, List.flatMap_append]
      cases part with
      | code c =>
          have uncovered : covers (commentColumnsFrom (column + 1) rest) column = false :=
            covers_of_lt (Nat.lt_succ_self column)
          refine congrArg₂ _ ?_ (ih (column + 1))
          simp [Piece.source, Piece.draw, commentColumnsFrom, uncovered]
      | comment body =>
          have width : (Piece.comment body).source.length = body.length + 2 := by
            simp [Piece.source]
          refine congrArg₂ _ ?_ ?_
          · have same : Piece.draw instead (.comment body)
                = ((Piece.comment body).source.zipIdx column).flatMap fun _ => instead := by
              rw [List.flatMap_def, List.map_const', List.length_zipIdx, width]
              rfl
            rw [same]
            refine List.flatMap_congr fun placed member => ?_
            have inside := List.snd_lt_add_of_mem_zipIdx member
            rw [width] at inside
            dsimp only
            rw [covers_within (List.le_snd_of_mem_zipIdx member) inside, if_pos rfl]
          · rw [ih, width]
            refine List.flatMap_congr fun placed member => ?_
            dsimp only
            rw [covers_beyond (List.le_snd_of_mem_zipIdx member)]
            rfl

theorem flatMap_draw_pieces (instead line : Text)
    : (pieces line).flatMap (Piece.draw instead)
      = replaceCovered instead (commentMarks line) line := by
  rw [flatMap_draw instead 0, flatMap_source_pieces, commentMarks_eq]
  rfl

/-- With one character in place of another every column stays where it is. -/
theorem getElem?_replaceCovered {source : Text} {column : Nat} {c : Character}
    (here : source[column]? = some c) (instead : Character) (marks : List (Nat × Nat))
    : (replaceCovered [instead] marks source)[column]?
      = some (if covers marks column then instead else c) := by
  have single : replaceCovered [instead] marks source
      = source.zipIdx.map fun (d, place) => if covers marks place then instead else d := by
    rw [replaceCovered, List.map_eq_flatMap]
    refine List.flatMap_congr fun placed _ => ?_
    exact (apply_ite (fun d => [d]) _ instead placed.1).symm
  rw [single, List.getElem?_map, List.getElem?_zipIdx, here, Nat.zero_add]
  rfl

-----------------------------------------------------------------------------------------
-- What is left holds no comment
-----------------------------------------------------------------------------------------

theorem closeComment?_cons_eq_none_iff {c : Character} {rest : Text}
    : closeComment? (c :: rest) = none ↔ c ≠ ')' ∧ (c = '\n' ∨ closeComment? rest = none) := by
  by_cases closing : c = ')'
  · subst closing
    simp [closeComment?]
  by_cases lineFeed : c = '\n'
  · subst lineFeed
    simp [closeComment?]
  rw [closeComment?, Option.map_eq_none_iff]
  · simp [closing, lineFeed]
  · exact closing
  · exact lineFeed

/-- A comment stays open if a line feed comes before every closing parenthesis, by induction over
what comes before one.
-/
theorem closeComment?_eq_none_iff {text : Text}
    : closeComment? text = none
      ↔ ∀ between after : Text, text = between ++ ↑ ')' :: after → ↑ '\n' ∈ between := by
  constructor
  · intro unclosed between after same
    induction between generalizing text with
    | nil =>
        rw [same, List.nil_append, closeComment?_cons_eq_none_iff] at unclosed
        exact absurd rfl unclosed.1
    | cons c more ih =>
        rw [same, List.cons_append, closeComment?_cons_eq_none_iff] at unclosed
        rcases unclosed.2 with rfl | later
        · exact List.mem_cons_self
        · exact List.mem_cons_of_mem c (ih later rfl)
  · intro broken
    cases closed : closeComment? text with
    | none => rfl
    | some found =>
        obtain ⟨same, -, unbroken⟩ := closeComment?_eq_some_iff.mp closed
        exact absurd (broken found.1 found.2 same) unbroken

theorem isCommentFree_cons_iff {c : Character} {rest : Text}
    : IsCommentFree (c :: rest) ↔ (c = '(' → closeComment? rest = none) ∧ IsCommentFree rest := by
  constructor
  · intro free
    refine ⟨?_, ?_⟩
    · rintro rfl
      refine closeComment?_eq_none_iff.mpr fun between after same => free [] between after ?_
      rw [same]
      rfl
    · intro before between after same
      exact free (c :: before) between after (congrArg (c :: ·) same)
  · rintro ⟨unclosed, free⟩ before between after same
    cases before with
    | nil =>
        obtain ⟨opening, rest⟩ := List.cons.inj same
        exact closeComment?_eq_none_iff.mp (unclosed opening) between after rest
    | cons d more => exact free more between after (List.cons.inj same).2

theorem isCommentFree_nil
    : IsCommentFree [] := by
  intro before between after same
  simp at same

theorem IsCommentFree.append {left right : Text} (plain : ↑ '(' ∉ left)
    (free : IsCommentFree right)
    : IsCommentFree (left ++ right) := by
  induction left with
  | nil => exact free
  | cons c rest ih =>
      obtain ⟨notOpening, later⟩ := List.ne_and_not_mem_of_not_mem_cons plain
      exact isCommentFree_cons_iff.mpr ⟨fun opening => absurd opening.symm notOpening, ih later⟩

/-- A parenthesis that is not closed stays so, since up to the next line feed nothing is taken for a
comment; by induction over what comes after it.
-/
theorem closeComment?_draw {text : Text} (unclosed : closeComment? text = none) (instead : Text)
    : closeComment? ((pieces text).flatMap (Piece.draw instead)) = none := by
  induction text with
  | nil => rw [pieces]; rfl
  | cons c rest ih =>
      obtain ⟨notClosing, ends⟩ := closeComment?_cons_eq_none_iff.mp unclosed
      have stays : c = '(' → closeComment? rest = none := by
        rintro rfl
        exact ends.resolve_left (by decide)
      rw [pieces_code_of_open stays]
      exact closeComment?_cons_eq_none_iff.mpr ⟨notClosing, ends.imp_right ih⟩

/-- What is put into the columns of comments leaves no comment as long as it opens none, by
induction over the pieces of the line.
-/
theorem isCommentFree_draw {instead : Text} (plain : ↑ '(' ∉ instead) (line : Text)
    : IsCommentFree ((pieces line).flatMap (Piece.draw instead)) := by
  fun_induction pieces line with
  | case1 => exact isCommentFree_nil
  | case2 rest body after closed ih =>
      refine IsCommentFree.append ?_ ih
      intro member
      obtain ⟨drawn, copy, inside⟩ := List.mem_flatten.mp member
      rw [List.eq_of_mem_replicate copy] at inside
      exact plain inside
  | case3 rest unclosed ih =>
      exact isCommentFree_cons_iff.mpr ⟨fun _ => closeComment?_draw unclosed instead, ih⟩
  | case4 c rest notOpening ih =>
      exact isCommentFree_cons_iff.mpr ⟨fun opening => absurd opening notOpening, ih⟩

/-- In a text without comments every character is code. -/
theorem IsCommentFree.draw_eq {text : Text} (free : IsCommentFree text) (instead : Text)
    : (pieces text).flatMap (Piece.draw instead) = text := by
  have code : pieces text = text.map Piece.code := by
    induction text with
    | nil => rw [pieces]; rfl
    | cons c rest ih =>
        obtain ⟨unclosed, later⟩ := isCommentFree_cons_iff.mp free
        rw [List.map_cons, ← ih later]
        exact pieces_code_of_open unclosed
  rw [code, List.flatMap_map]
  exact List.flatMap_singleton' text

/-- The marks for comments lie one after the other, each on a comment of the line. Masking puts
spaces into the columns that they cover and leaves all others as they are; cleaning takes these
columns away before it trims the line. Neither leaves a comment, so that masking again or taking
comments away again changes nothing.
-/
theorem comments_agree (source : Text)
    : let marks := commentMarks source
      let code := replaceCovered [] marks source
      marks.Pairwise (fun left right => left.1 + left.2 ≤ right.1)
      ∧ (∀ mark ∈ marks, IsCommentAt source mark)
      ∧ (maskComments source).length = source.length
      ∧ (∀ column (c : Character),
          source[column]? = some c
          → (maskComments source)[column]? = some (if covers marks column then ↑ ' ' else c))
      ∧ withoutComments source = code
      ∧ clean source = (Text.trim Text.isBlank code).trimEnd (· == ';')
      ∧ IsCommentFree (maskComments source)
      ∧ IsCommentFree code
      ∧ maskComments (maskComments source) = maskComments source
      ∧ withoutComments code = code := by
  intro marks code
  have masked : maskComments source = replaceCovered [' '] marks source := by
    rw [maskComments_eq_draw, flatMap_draw_pieces]
  have deleted : withoutComments source = code := by
    rw [withoutComments_eq_draw, flatMap_draw_pieces]
  have maskedFree : IsCommentFree (maskComments source) := by
    rw [maskComments_eq_draw]
    exact isCommentFree_draw (by decide) source
  have deletedFree : IsCommentFree code := by
    rw [← deleted, withoutComments_eq_draw]
    exact isCommentFree_draw List.not_mem_nil source
  refine ⟨?_, ?_, length_maskComments source, ?_, deleted, ?_, maskedFree, deletedFree, ?_, ?_⟩
  · change (commentMarks source).Pairwise _
    rw [commentMarks_eq]
    exact pairwise_commentColumnsFrom 0 (pieces source)
  · intro mark member
    change mark ∈ commentMarks source at member
    rw [commentMarks_eq] at member
    have stands : IsCommentAt ([] ++ (pieces source).flatMap Piece.source) mark :=
      isCommentAt_of_mem (isCommentOr_of_mem_pieces source) member
    rwa [List.nil_append, flatMap_source_pieces] at stands
  · intro column c here
    rw [masked]
    exact getElem?_replaceCovered here ' ' marks
  · rw [← deleted]
    rfl
  · rw [maskComments_eq_draw (maskComments source), maskedFree.draw_eq]
  · rw [withoutComments_eq_draw, deletedFree.draw_eq]

/-- A parenthesis that the line feed leaves open is code, and one inside a comment is not. -/
theorem comments_agree_nested
    : let source : Text := "(\n((a)N(b)1 );"
      let marks := commentMarks source
      marks = [(2, 4), (7, 3)]
      ∧ IsCommentAt source (2, 4)
      ∧ source[5]? = some (')' : Character)
      ∧ (maskComments source)[5]? = some (' ' : Character)
      ∧ clean source = "(\nN1 )"
      ∧ IsCommentFree (maskComments source) := by
  intro source marks
  obtain ⟨-, comments, -, columns, -, -, free, -⟩ := comments_agree source
  have found : marks = [(2, 4), (7, 3)] := by decide +kernel
  have member : (2, 4) ∈ marks := by simp [found]
  have closing : source[5]? = some (')' : Character) := by decide +kernel
  have covered : covers marks 5 = true := by simp [found, covers]
  have masked := columns 5 ')' closing
  rw [if_pos covered] at masked
  exact ⟨found, comments (2, 4) member, closing, masked, by decide +kernel, free⟩

end LatheGloss.Program
