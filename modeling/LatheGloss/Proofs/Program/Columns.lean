import Mathlib
import LatheGloss.Proofs.Program.Layout
import LatheGloss.Proofs.Text.Search

/-! Columns of words. Taking a line apart can be followed with each character in its column: the
same words come out, each with the columns that it was taken from, in the order of the line. Masking
keeps every column, so that a word without a comment inside stands there in the masked line.
-/

namespace LatheGloss.Program

/-- Characters of a line, each with its column. -/
abbrev Placed := List (Character × Nat)

namespace Placed

def text (placed : Placed) : Text :=
  placed.map Prod.fst

def columns (placed : Placed) : List Nat :=
  placed.map Prod.snd

/-- The characters fill the columns from one on, without a gap. -/
def FillsFrom (placed : Placed) (first : Nat) : Prop :=
  placed.columns = List.range' first placed.length

end Placed

/-- The code among pieces that begin at a column. -/
def placedFrom (column : Nat) : List Piece → Placed
  | [] => []
  | .code c :: rest => (c, column) :: placedFrom (column + 1) rest
  | .comment body :: rest => placedFrom (column + body.length + 2) rest

/-- The code of a line without blanks around it, and then without the terminators at its end. -/
def placedClean (line : Text) : Placed :=
  let trimmed :=
    ((placedFrom 0 (pieces line)).dropWhile (Text.isBlank ·.1)).rdropWhile (Text.isBlank ·.1)
  trimmed.rdropWhile (·.1 == ↑ ';')

/-- The words of a line with the columns that they were taken from. -/
def placedWords (line : Text) : List Placed :=
  ((placedClean line).splitOnP (·.1 == ↑ ' ')).flatMap
    (List.splitBy fun left right => adheres left.1 right.1)

-----------------------------------------------------------------------------------------
-- Columns make no difference to the words
-----------------------------------------------------------------------------------------

section Map

variable {α β : Type} (f : α → β)

theorem rdropWhile_map (p : β → Bool) (list : List α)
    : (list.map f).rdropWhile p = (list.rdropWhile (p ∘ f)).map f := by
  simp [List.rdropWhile, ← List.map_reverse, List.dropWhile_map]

theorem splitOnP_map (p : β → Bool) (list : List α)
    : (list.map f).splitOnP p = (list.splitOnP (p ∘ f)).map (List.map f) := by
  induction list with
  | nil => simp [List.splitOnP_nil]
  | cons a rest ih =>
      rw [List.map_cons, List.splitOnP_cons_eq_if_modifyHead, List.splitOnP_cons_eq_if_modifyHead,
        ih]
      by_cases parts : p (f a)
      · simp [parts]
      · obtain ⟨first, others, split⟩ :=
          List.exists_cons_of_ne_nil (List.splitOnP_ne_nil (p ∘ f) rest)
        simp [parts, split]

theorem splitBy_map (r : β → β → Bool) (list : List α)
    : (list.map f).splitBy r
      = (list.splitBy fun left right => r (f left) (f right)).map (List.map f) := by
  rw [List.splitBy_eq_iff]
  refine ⟨?_, ?_, ?_, ?_⟩
  · rw [← List.map_flatten, List.flatten_splitBy]
  · simp [List.nil_notMem_splitBy]
  · intro group member
    obtain ⟨group, known, rfl⟩ := List.mem_map.mp member
    exact (List.isChain_map f).mpr (List.isChain_of_mem_splitBy known)
  · rw [List.isChain_map]
    refine (List.isChain_getLast_head_splitBy _ list).imp ?_
    rintro left right ⟨leftFull, rightFull, apart⟩
    exact ⟨by simpa using leftFull, by simpa using rightFull, by simpa using apart⟩

end Map

theorem text_placedFrom (column : Nat) (parts : List Piece)
    : (placedFrom column parts).text
      = parts.flatMap fun
          | .code c => [c]
          | .comment _ => [] := by
  induction parts generalizing column with
  | nil => rfl
  | cons piece rest ih =>
      cases piece with
      | code c => exact congrArg (c :: ·) (ih (column + 1))
      | comment body => exact ih (column + body.length + 2)

theorem text_placedClean (line : Text)
    : (placedClean line).text = clean line := by
  have code : withoutComments line = (placedFrom 0 (pieces line)).map Prod.fst :=
    (text_placedFrom 0 (pieces line)).symm
  change _
    = (((withoutComments line).dropWhile Text.isBlank).rdropWhile Text.isBlank).rdropWhile
        (· == ↑ ';')
  rw [code, Placed.text, List.dropWhile_map, rdropWhile_map, rdropWhile_map]
  rfl

/-- The words of a line are the same with their columns. -/
theorem map_text_placedWords (line : Text)
    : (placedWords line).map Placed.text = words line := by
  rw [words, ← text_placedClean, Placed.text, List.splitOn_eq_splitOnP, splitOnP_map,
    List.flatMap_map, placedWords, List.map_flatMap]
  exact List.flatMap_congr fun segment _ => (splitBy_map Prod.fst adheres segment).symm

-----------------------------------------------------------------------------------------
-- Where the words stand
-----------------------------------------------------------------------------------------

theorem flatten_splitOnP_sublist {α : Type} (p : α → Bool) (list : List α)
    : (list.splitOnP p).flatten.Sublist list := by
  induction list with
  | nil => simp [List.splitOnP_nil]
  | cons a rest ih =>
      rw [List.splitOnP_cons_eq_if_modifyHead]
      split
      · exact ih.cons a
      · obtain ⟨first, others, split⟩ :=
          List.exists_cons_of_ne_nil (List.splitOnP_ne_nil p rest)
        rw [split] at ih ⊢
        exact ih.cons_cons a

/-- The words of a line lie in it one after the other. -/
theorem flatten_placedWords_sublist (line : Text)
    : (placedWords line).flatten.Sublist (placedFrom 0 (pieces line)) := by
  have clean : (placedClean line).Sublist (placedFrom 0 (pieces line)) :=
    ((List.rdropWhile_prefix _ _).sublist.trans (List.rdropWhile_prefix _ _).sublist).trans
      (List.dropWhile_sublist _)
  have words
      : (placedWords line).flatten
        = ((placedClean line).splitOnP (·.1 == ↑ ' ')).flatten := by
    rw [placedWords, List.flatMap, List.flatten_flatten, List.map_map]
    refine congrArg List.flatten ((List.map_congr_left fun segment _ => ?_).trans (List.map_id _))
    exact List.flatten_splitBy _ segment
  rw [words]
  exact (flatten_splitOnP_sublist _ _).trans clean

theorem forall_le_placedFrom (column : Nat) (parts : List Piece)
    : ∀ placed ∈ placedFrom column parts, column ≤ placed.2 := by
  induction parts generalizing column with
  | nil => simp [placedFrom]
  | cons piece rest ih =>
      intro placed member
      cases piece with
      | code c =>
          rcases List.mem_cons.mp member with rfl | later
          · exact Nat.le_refl column
          · exact (Nat.le_succ column).trans (ih (column + 1) placed later)
      | comment body =>
          have := ih (column + body.length + 2) placed member
          omega

/-- Columns only grow. -/
theorem pairwise_placedFrom (column : Nat) (parts : List Piece)
    : (placedFrom column parts).columns.Pairwise (· < ·) := by
  induction parts generalizing column with
  | nil => exact List.Pairwise.nil
  | cons piece rest ih =>
      cases piece with
      | code c =>
          refine List.pairwise_cons.mpr ⟨?_, ih (column + 1)⟩
          exact List.forall_mem_map.mpr (forall_le_placedFrom (column + 1) rest)
      | comment body => exact ih (column + body.length + 2)

/-- Different words have no column in common. -/
theorem columns_apart {line : Text} {before after : List Placed} {word : Placed}
    (split : placedWords line = before ++ word :: after)
    : ∀ other ∈ before ++ after, ∀ column ∈ other.columns, column ∉ word.columns := by
  have ordered := (pairwise_placedFrom 0 (pieces line)).sublist
    ((flatten_placedWords_sublist line).map Prod.snd)
  rw [split, List.flatten_append, List.flatten_cons, List.map_append, List.map_append,
    List.pairwise_append] at ordered
  obtain ⟨-, fromWord, fromBefore⟩ := ordered
  have toAfter := (List.pairwise_append.mp fromWord).2.2
  intro other member column known shared
  obtain ⟨placed, inside, rfl⟩ := List.mem_map.mp known
  refine Nat.lt_irrefl placed.2 ?_
  rcases List.mem_append.mp member with earlier | later
  · exact fromBefore _ (List.mem_map_of_mem (List.mem_flatten_of_mem earlier inside)) _
      (List.mem_append_left _ shared)
  · exact toAfter _ shared _ (List.mem_map_of_mem (List.mem_flatten_of_mem later inside))

-----------------------------------------------------------------------------------------
-- What stands in a column
-----------------------------------------------------------------------------------------

/-- However comments are drawn, as long as they keep their width the code stands in its columns. -/
theorem getElem?_of_mem_placedFrom {draw : Piece → Text} (code : ∀ c, draw (.code c) = [c])
    (comment : ∀ body, (draw (.comment body)).length = body.length + 2) {column : Nat}
    {parts : List Piece} {placed : Character × Nat} (member : placed ∈ placedFrom column parts)
    : (parts.flatMap draw)[placed.2 - column]? = some placed.1 := by
  induction parts generalizing column with
  | nil => simp [placedFrom] at member
  | cons piece rest ih =>
      rw [List.flatMap_cons]
      cases piece with
      | code c =>
          rw [code]
          rcases List.mem_cons.mp member with rfl | later
          · simp
          · have bound := forall_le_placedFrom (column + 1) rest placed later
            have index : placed.2 - column = placed.2 - (column + 1) + 1 := by omega
            rw [index]
            exact ih later
      | comment body =>
          have bound := forall_le_placedFrom (column + body.length + 2) rest placed member
          rw [List.getElem?_append_right (by rw [comment]; omega), comment]
          have index : placed.2 - column - (body.length + 2)
              = placed.2 - (column + body.length + 2) := by omega
          rw [index]
          exact ih member

/-- A line is made up of its pieces. -/
theorem flatMap_source_pieces (line : Text)
    : (pieces line).flatMap Piece.source = line := by
  fun_induction pieces line with
  | case1 => rfl
  | case2 rest body after closed ih =>
      have same := (closeComment?_eq_some_iff.mp closed).1
      simp [Piece.source, ih, same]
  | case3 rest unclosed ih => simp [Piece.source, ih]
  | case4 c rest code ih => simp [Piece.source, ih]

/-- A text and the same text with spaces in some of its columns. -/
abbrev Masks (masked text : Text) : Prop :=
  List.Forall₂ (fun masked c => masked = c ∨ masked = ↑ ' ') masked text

theorem masks_spaces (text : Text)
    : Masks (List.replicate text.length (' ' : Character)) text := by
  induction text with
  | nil => exact .nil
  | cons c rest ih => exact .cons (.inr rfl) ih

/-- Masking leaves every column as it is or puts a space into it. -/
theorem masks_maskComments (line : Text)
    : Masks (maskComments line) line := by
  have drawn : Masks (maskComments line) ((pieces line).flatMap Piece.source) := by
    unfold maskComments
    induction pieces line with
    | nil => exact .nil
    | cons piece rest ih =>
        refine List.rel_append ?_ ih
        cases piece with
        | code c => exact .cons (.inl rfl) .nil
        | comment body => simpa [Piece.source] using masks_spaces (Piece.source (.comment body))
  rwa [flatMap_source_pieces] at drawn

/-- What holds of a space and of every character of a text holds where some are masked. -/
theorem Masks.forall_mem {masked text : Text} (masks : Masks masked text) {p : Character → Prop}
    (space : p ' ') (all : ∀ c ∈ text, p c)
    : ∀ c ∈ masked, p c := by
  induction masks with
  | nil => exact all
  | cons same rest ih =>
      obtain ⟨first, others⟩ := List.forall_mem_cons.mp all
      refine List.forall_mem_cons.mpr ⟨?_, ih others⟩
      rcases same with rfl | rfl
      · exact first
      · exact space

theorem length_maskComments (line : Text)
    : (maskComments line).length = line.length :=
  (masks_maskComments line).length_eq

/-- Where a masked text shows no space it shows the text, by induction over both. -/
theorem Masks.eq_of_visible {masked text : Text} (masks : Masks masked text)
    (visible : ↑ ' ' ∉ masked)
    : masked = text := by
  induction masks with
  | nil => rfl
  | cons same rest ih =>
      simp only [List.mem_cons, not_or] at visible
      rw [ih visible.2, same.resolve_right fun space => visible.1 space.symm]

theorem mem_placedFrom_of_mem_placedWords {line : Text} {word : Placed}
    (member : word ∈ placedWords line)
    : ∀ placed ∈ word, placed ∈ placedFrom 0 (pieces line) :=
  fun _ inside =>
    (flatten_placedWords_sublist line).subset (List.mem_flatten_of_mem member inside)

/-- Every character of a word stands in its column of the line. -/
theorem getElem?_source_of_mem_word {source : Text} {word : Placed}
    (member : word ∈ placedWords source)
    : ∀ placed ∈ word, source[placed.2]? = some placed.1 := by
  intro placed inside
  have found : ((pieces source).flatMap Piece.source)[placed.2 - 0]? = some placed.1 :=
    getElem?_of_mem_placedFrom (fun _ => rfl) (fun body => by simp [Piece.source])
      (mem_placedFrom_of_mem_placedWords member placed inside)
  rwa [flatMap_source_pieces] at found

/-- Every character of a word also stands there in the masked line. -/
theorem getElem?_maskComments_of_mem_word {source : Text} {word : Placed}
    (member : word ∈ placedWords source)
    : ∀ placed ∈ word, (maskComments source)[placed.2]? = some placed.1 :=
  fun placed inside =>
    getElem?_of_mem_placedFrom (fun _ => rfl) (fun body => by simp)
      (mem_placedFrom_of_mem_placedWords member placed inside)

/-- Characters that fill their columns stand together in a text that has each of them in its
column, by induction over them.
-/
theorem text_prefix_drop {placed : Placed} {first : Nat} {text : Text}
    (fills : placed.FillsFrom first) (stands : ∀ one ∈ placed, text[one.2]? = some one.1)
    : placed.text <+: text.drop first := by
  induction placed generalizing first with
  | nil => exact List.nil_prefix
  | cons one rest ih =>
      obtain ⟨c, column⟩ := one
      obtain ⟨here, later⟩ := List.cons.inj fills
      obtain ⟨found, others⟩ := List.forall_mem_cons.mp stands
      obtain rfl : column = first := here
      obtain ⟨bound, same⟩ := List.getElem?_eq_some_iff.mp found
      rw [List.drop_eq_getElem_cons bound, same]
      exact List.cons_prefix_cons.mpr ⟨rfl, ih later others⟩

/-- A word that fills its columns stands there in the masked line. -/
theorem occursAt_maskComments {source : Text} {word : Placed}
    (member : word ∈ placedWords source) {first : Nat} (fills : word.FillsFrom first)
    : Text.OccursAt word.text (maskComments source) first :=
  text_prefix_drop fills (getElem?_maskComments_of_mem_word member)

end LatheGloss.Program
