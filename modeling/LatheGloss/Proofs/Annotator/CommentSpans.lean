import Mathlib
import LatheGloss.Proofs.Annotator.Columns
import LatheGloss.Proofs.Program.Comments
import LatheGloss.Proofs.Program.Surroundings

/-! Issues and comments. Taking a comment away can join what stands before and after it to one word,
while masking keeps both in their columns. So an issue shows its word in the code of the line or, if
a comment interrupts the word and the characters stand nowhere else, covers the line.
-/

namespace LatheGloss

open Program

namespace Program

/-- A comment stands between two characters of a word. -/
def Placed.InterruptedBy (word : Placed) (mark : Nat × Nat) : Prop :=
  (∃ column ∈ word.columns, column < mark.1)
  ∧ ∃ column ∈ word.columns, mark.1 + mark.2 ≤ column

-----------------------------------------------------------------------------------------
-- Words that a comment interrupts
-----------------------------------------------------------------------------------------

/-- Columns before the first code are those of a comment. -/
theorem exists_comment_before {column : Nat} {parts : List Piece} {placed : Character × Nat}
    {more : Placed} (begins : placedFrom column parts = placed :: more) (later : column < placed.2)
    : ∃ mark ∈ commentColumnsFrom column parts, mark.1 + mark.2 ≤ placed.2 := by
  cases parts with
  | nil => cases begins
  | cons part rest =>
      cases part with
      | code c =>
          obtain ⟨rfl, -⟩ := List.cons.inj begins
          exact absurd later (Nat.lt_irrefl column)
      | comment body =>
          have member : placed ∈ placedFrom (column + body.length + 2) rest := by
            rw [show placedFrom (column + body.length + 2) rest = placed :: more from begins]
            exact List.mem_cons_self
          have := forall_le_placedFrom (column + body.length + 2) rest placed member
          exact ⟨(column, body.length + 2), List.mem_cons_self, by dsimp only; omega⟩

/-- What stands together in the code of a line fills its columns unless a comment is in between, by
induction over the pieces of the line.
-/
theorem fillsFrom_or_interrupted {column : Nat} {parts : List Piece} {before word after : Placed}
    (whole : placedFrom column parts = before ++ word ++ after)
    : (∃ first, word.FillsFrom first)
      ∨ ∃ mark ∈ commentColumnsFrom column parts, word.InterruptedBy mark := by
  induction parts generalizing column before word with
  | nil =>
      obtain ⟨-, rfl, -⟩ : before = [] ∧ word = [] ∧ after = [] := by
        simpa [placedFrom] using whole.symm
      exact .inl ⟨0, rfl⟩
  | cons part rest ih =>
      cases part with
      | comment body =>
          refine (ih whole).imp_right ?_
          rintro ⟨mark, member, interrupts⟩
          exact ⟨mark, List.mem_cons_of_mem _ member, interrupts⟩
      | code c =>
          cases before with
          | cons first before => exact ih (List.cons.inj whole).2
          | nil =>
              cases word with
              | nil => exact .inl ⟨0, rfl⟩
              | cons first word =>
                  obtain ⟨rfl, others⟩ := List.cons.inj whole
                  cases word with
                  | nil => exact .inl ⟨column, rfl⟩
                  | cons next more =>
                      have reached : column + 1 ≤ next.2 :=
                        forall_le_placedFrom (column + 1) rest next (others ▸ List.mem_cons_self)
                      by_cases adjoins : next.2 = column + 1
                      · have later : placedFrom (column + 1) rest = [] ++ (next :: more) ++ after :=
                          others
                        rcases ih later with ⟨start, fills⟩ | ⟨mark, member, left, right⟩
                        · obtain rfl : next.2 = start := (List.cons.inj fills).1
                          rw [adjoins] at fills
                          exact .inl ⟨column, congrArg (column :: ·) fills⟩
                        · obtain ⟨lower, inWord, below⟩ := left
                          obtain ⟨upper, alsoInWord, above⟩ := right
                          exact .inr ⟨mark, member, ⟨lower, List.mem_cons_of_mem _ inWord, below⟩,
                            upper, List.mem_cons_of_mem _ alsoInWord, above⟩
                      · obtain ⟨mark, member, ends⟩ :=
                          exists_comment_before others (by omega)
                        have begins := le_of_mem_commentColumnsFrom member
                        exact .inr ⟨mark, member, ⟨column, by simp [Placed.columns], begins⟩,
                          next.2, by simp [Placed.columns], ends⟩

/-- A word fills its columns unless a comment was taken out of its middle. -/
theorem fillsFrom_or_interrupted_of_mem {source : Text} {word : Placed}
    (member : word ∈ placedWords source)
    : (∃ first, word.FillsFrom first) ∨ ∃ mark ∈ commentMarks source, word.InterruptedBy mark := by
  obtain ⟨before, after, whole, -, -⟩ := exists_surroundings member
  rw [commentMarks_eq]
  exact fillsFrom_or_interrupted whole

end Program

-----------------------------------------------------------------------------------------
-- Issues apart from comments
-----------------------------------------------------------------------------------------

namespace Issue

/-- The columns of an issue that shows no space in the masked line are none of a comment. -/
theorem not_covers_of_visible {issue : Issue} {source : Text} (within : issue.Within source)
    (visible : ↑ ' ' ∉ issue.excerpt (maskComments source))
    : ∀ column : Nat,
        issue.start ≤ column
        → column < issue.stop
        → covers (commentMarks source) column = false := by
  intro column reached inside
  by_contra covered
  rw [Bool.not_eq_false] at covered
  have bound := within.stop
  have here : source[column]? = some source[column] := List.getElem?_eq_getElem (by omega)
  have space : (maskComments source)[column]? = some (' ' : Character) := by
    rw [maskComments_eq_draw, flatMap_draw_pieces, getElem?_replaceCovered here, if_pos covered]
  have start := within.start
  refine visible (@List.mem_of_getElem? _ _ (column - issue.start.toNat) _ ?_)
  rw [excerpt, List.getElem?_drop, List.getElem?_take, if_pos (by omega), ← space]
  congr 1
  omega

end Issue

/-- On a line in which no character has a longer uppercase, the issue of an unknown word shows the
word outside of all comments if the characters stand anywhere there. Otherwise it covers the line,
and then a comment was taken out of the middle of the word.
-/
theorem annotate_issue_outsideComments (annotator : Annotator) (program : Text)
    (model : Option Text)
    : let annotated := (annotator.annotate program model).1
      let reported := fun word : Placed => isUnknownWord (annotator.book.describe model) word.text
      ∀ line ∈ annotated.lines,
        (∀ c ∈ line.source, (Text.upperChar c).length = 1)
        → ∀ before word after,
            placedWords line.source = before ++ word :: after
            → reported word = true
            → ∃ issue : Issue,
                (annotated.issues.onLine line.number)[before.countP reported]? = some issue
                ∧ let token := Text.upper word.text
                  let shown := Text.upper (maskComments line.source)
                  let marks := commentMarks line.source
                  ((∃ start, Text.OccursAt token shown start)
                    → issue.Within line.source
                      ∧ Text.upper (issue.excerpt line.source) = token
                      ∧ ∀ column : Nat,
                          issue.start ≤ column → column < issue.stop → covers marks column = false)
                  ∧ ((∀ start, ¬Text.OccursAt token shown start)
                    → issue.Covers line.source
                      ∧ (∀ first, ¬word.FillsFrom first)
                      ∧ ∃ mark ∈ marks, word.InterruptedBy mark) := by
  intro annotated reported line member single before word after split unknown
  refine ⟨_, getElem?_onLine_annotate member split unknown, ?_⟩
  intro token shown marks
  have placed : word ∈ placedWords line.source := by simp [split]
  have inLine : word.text ∈ words line.source :=
    map_text_placedWords line.source ▸ List.mem_map_of_mem placed
  have isWord := isWord_of_mem_words inLine
  have located := located_unknownWordIssue line token
  generalize unknownWordIssue line token = issue at located ⊢
  cases located with
  | found start starts stops occurs first =>
      have singleMasked : ∀ c ∈ (maskComments line.source).take issue.stop.toNat,
          (Text.upperChar c).length = 1 := fun c known =>
        single_maskComments_of_single single c (List.mem_of_mem_take known)
      obtain ⟨within, masked, visible⟩ := Issue.shows_masked_of_occursAt_upper starts stops occurs
        isWord.upper_ne_nil isWord.space_notMem_upper singleMasked
      rw [excerpt_maskComments visible] at masked
      exact ⟨fun _ => ⟨within, masked, issue.not_covers_of_visible within visible⟩,
        fun nowhere => absurd occurs (nowhere start)⟩
  | missing covers nowhere =>
      have unfilled : ∀ first, ¬word.FillsFrom first := fun first fills =>
        nowhere first (occursAt_upper_maskComments_of_single single placed fills)
      have interrupted := (fillsFrom_or_interrupted_of_mem placed).resolve_left
        fun ⟨first, fills⟩ => unfilled first fills
      exact ⟨fun ⟨start, occurs⟩ => absurd occurs (nowhere start),
        fun _ => ⟨covers, unfilled, interrupted⟩⟩

/-- A comment before a word does not count, and one in a word leaves it nowhere. -/
theorem annotate_issue_outsideComments_between
    : let source : Text := "(É7)é7 A(x)9"
      let annotated := ((Annotator.ofCodeBook .empty).annotate source none).1
      let whole : Placed := [('é', 4), ('7', 5)]
      let parted : Placed := [('A', 7), ('9', 11)]
      ∃ line ∈ annotated.lines,
        (∀ c ∈ line.source, (Text.upperChar c).length = 1)
        ∧ placedWords line.source = [whole, parted]
        ∧ isUnknownWord (CodeBook.empty.describe none) whole.text = true
        ∧ isUnknownWord (CodeBook.empty.describe none) parted.text = true
        ∧ (∃ issue : Issue,
            (annotated.issues.onLine line.number)[0]? = some issue
            ∧ Text.upper (issue.excerpt line.source) = "É7"
            ∧ ∀ column : Nat,
                issue.start ≤ column
                → column < issue.stop
                → covers (commentMarks line.source) column = false)
        ∧ ∃ issue : Issue,
            (annotated.issues.onLine line.number)[1]? = some issue
            ∧ issue.Covers line.source
            ∧ ∃ mark ∈ commentMarks line.source, parted.InterruptedBy mark := by
  intro source annotated whole parted
  let line : AnnotatedLine := ⟨1, source, Gloss.ofLine (CodeBook.empty.describe none) source⟩
  have member : line ∈ annotated.lines :=
    List.mem_map.mpr ⟨(source, 1), by decide +kernel, rfl⟩
  have single : ∀ c ∈ line.source, (Text.upperChar c).length = 1 :=
    List.all_iff_forall_prop.mp (by decide +kernel)
  have split : placedWords line.source = [whole, parted] := by decide +kernel
  have unknown : isUnknownWord (CodeBook.empty.describe none) whole.text = true := by
    decide +kernel
  have alsoUnknown : isUnknownWord (CodeBook.empty.describe none) parted.text = true := by
    decide +kernel
  have found : Text.find? (Text.upper whole.text) (Text.upper (maskComments source)) = some 4 := by
    decide +kernel
  have missed : Text.find? (Text.upper parted.text) (Text.upper (maskComments source)) = none := by
    decide +kernel
  obtain ⟨issue, recorded, shown, -⟩ :=
    annotate_issue_outsideComments (.ofCodeBook .empty) source none line member single
      [] whole [parted] split unknown
  obtain ⟨other, alsoRecorded, -, covers⟩ :=
    annotate_issue_outsideComments (.ofCodeBook .empty) source none line member single
      [whole] parted [] split alsoUnknown
  obtain ⟨-, shows, apart⟩ := shown ⟨4, (Text.occursAt_of_find? found).1⟩
  obtain ⟨covered, -, interrupted⟩ := covers (Text.not_occursAt_of_find? missed)
  have spelled : Text.upper whole.text = "É7" := by decide +kernel
  have place : [whole].countP (fun word => isUnknownWord (CodeBook.empty.describe none) word.text)
      = 1 := by
    rw [List.countP_singleton, unknown]
    rfl
  refine ⟨line, member, single, split, unknown, alsoUnknown,
    ⟨issue, recorded, shows.trans spelled, apart⟩, other, ?_, covered, interrupted⟩
  rw [← place]
  exact alsoRecorded

end LatheGloss
