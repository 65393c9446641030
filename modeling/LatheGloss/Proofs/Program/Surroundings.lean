import Mathlib
import LatheGloss.Proofs.Program.Columns
import LatheGloss.Proofs.Program.WrittenLine
import LatheGloss.Proofs.Text.Classes

/-! Surroundings of words. The characters of a word stand next to each other in the code of its
line, and what stands before and after them is what ends a word: a blank, a terminator, or a letter
where the character before it is none.
-/

namespace LatheGloss.Program

/-- What a word begins after: nothing, a blank, or something that the word does not adhere to. -/
def BeginsAfter (before word : Text) : Prop :=
  ∀ c ∈ before.getLast?, Text.isBlank c = true ∨ ∀ d ∈ word.head?, adheres c d = false

/-- What a word ends before: nothing, a blank, a terminator, or something that does not adhere to
the word.
-/
def EndsBefore (word after : Text) : Prop :=
  ∀ d ∈ after.head?,
    Text.isBlank d = true ∨ d = ';' ∨ ∀ c ∈ word.getLast?, adheres c d = false

-----------------------------------------------------------------------------------------
-- Parts of a list
-----------------------------------------------------------------------------------------

section Parts

variable {α β : Type} {p : α → Prop}

theorem forall_mem_head?_map {f : β → α} {list : List β}
    : (∀ a ∈ (list.map f).head?, p a) ↔ ∀ b ∈ list.head?, p (f b) := by
  simp

theorem forall_mem_getLast?_map {f : β → α} {list : List β}
    : (∀ a ∈ (list.map f).getLast?, p a) ↔ ∀ b ∈ list.getLast?, p (f b) := by
  simp

theorem forall_mem_head?_append {left right : List α} (first : ∀ a ∈ left.head?, p a)
    (otherwise : left = [] → ∀ a ∈ right.head?, p a)
    : ∀ a ∈ (left ++ right).head?, p a := by
  cases left with
  | nil => exact otherwise rfl
  | cons a rest => exact first

theorem forall_mem_getLast?_append {left right : List α} (last : ∀ a ∈ right.getLast?, p a)
    (otherwise : right = [] → ∀ a ∈ left.getLast?, p a)
    : ∀ a ∈ (left ++ right).getLast?, p a := by
  by_cases none : right = []
  · simpa [none] using otherwise none
  · rwa [List.getLast?_append_of_ne_nil _ none]

/-- Splitting gives stretches between separators. The stretch is the first one just when nothing
stands before it, which carries the induction over the list.
-/
theorem exists_around_of_splitOnP {q : α → Bool} {list : List α} {earlier later : List (List α)}
    {segment : List α} (split : list.splitOnP q = earlier ++ segment :: later)
    : ∃ before after,
        list = before ++ segment ++ after
        ∧ (before = [] ↔ earlier = [])
        ∧ (∀ a ∈ before.getLast?, q a = true)
        ∧ ∀ a ∈ after.head?, q a = true := by
  induction list generalizing earlier segment with
  | nil =>
      rw [List.splitOnP_nil] at split
      cases earlier with
      | nil =>
          obtain ⟨rfl, rfl⟩ := List.cons.inj split
          exact ⟨[], [], by simp⟩
      | cons first more => simp at split
  | cons a rest ih =>
      rw [List.splitOnP_cons_eq_if_modifyHead] at split
      split at split
      · next separates =>
          cases earlier with
          | nil =>
              obtain ⟨rfl, rfl⟩ := List.cons.inj split
              exact ⟨[], a :: rest, by simp [separates]⟩
          | cons first more =>
              obtain ⟨rfl, others⟩ := List.cons.inj split
              obtain ⟨before, after, rfl, -, last, next⟩ := ih others
              refine ⟨a :: before, after, rfl, by simp, ?_, next⟩
              rw [← List.singleton_append]
              exact forall_mem_getLast?_append last fun _ => by simpa using separates
      · obtain ⟨first, others, known⟩ := List.exists_cons_of_ne_nil (List.splitOnP_ne_nil q rest)
        rw [known, List.modifyHead_cons] at split
        cases earlier with
        | nil =>
            obtain ⟨rfl, rfl⟩ := List.cons.inj split
            have begins : rest.splitOnP q = [] ++ first :: others := known
            obtain ⟨before, after, rfl, none, -, next⟩ := ih begins
            obtain rfl : before = [] := none.mpr rfl
            exact ⟨[], after, rfl, by simp, by simp, next⟩
        | cons group more =>
            obtain ⟨rfl, same⟩ := List.cons.inj split
            have continues : rest.splitOnP q = first :: more ++ segment :: later :=
              known.trans (congrArg (first :: ·) same)
            obtain ⟨before, after, rfl, some, last, next⟩ := ih continues
            refine ⟨a :: before, after, rfl, by simp, ?_, next⟩
            rw [← List.singleton_append]
            exact forall_mem_getLast?_append last fun none => absurd (some.mp none) (by simp)

/-- A group of neighbours ends where neighbours are not related. -/
theorem exists_around_of_mem_splitBy {r : α → α → Bool} {list group : List α}
    (member : group ∈ list.splitBy r)
    : ∃ before after,
        list = before ++ group ++ after
        ∧ (∀ a ∈ before.getLast?, ∀ b ∈ group.head?, r a b = false)
        ∧ ∀ b ∈ after.head?, ∀ a ∈ group.getLast?, r a b = false := by
  obtain ⟨earlier, later, split⟩ := List.append_of_mem member
  have parted := List.isChain_getLast_head_splitBy r list
  have nonempty : ∀ other ∈ list.splitBy r, other ≠ [] := fun other known =>
    List.ne_nil_of_mem_splitBy known
  have whole := List.flatten_splitBy r list
  rw [split] at parted nonempty whole
  rw [List.isChain_append] at parted
  obtain ⟨-, fromGroup, toGroup⟩ := parted
  refine ⟨earlier.flatten, later.flatten, by simp [← whole], ?_, ?_⟩
  · intro a last b first
    rcases List.eq_nil_or_concat earlier with rfl | ⟨others, neighbour, rfl⟩
    · simp at last
    · have full : neighbour ≠ [] := nonempty neighbour (by simp)
      obtain ⟨_, _, apart⟩ := toGroup neighbour (by simp) group rfl
      rw [List.concat_eq_append, List.flatten_append, List.flatten_singleton,
        List.getLast?_append_of_ne_nil _ full] at last
      rwa [List.getLast_of_mem_getLast? last, List.head_of_mem_head? first] at apart
  · intro b first a last
    cases later with
    | nil => simp at first
    | cons neighbour others =>
        have full : neighbour ≠ [] := nonempty neighbour (by simp)
        obtain ⟨⟨_, _, apart⟩, -⟩ := List.isChain_cons_cons.mp fromGroup
        rw [List.flatten_cons, List.head?_append_of_ne_nil _ full] at first
        rwa [List.getLast_of_mem_getLast? last, List.head_of_mem_head? first] at apart

end Parts

-----------------------------------------------------------------------------------------
-- Words in their line
-----------------------------------------------------------------------------------------

/-- Trimming takes blanks before the code, and terminators and then blanks after it. -/
theorem exists_around_placedClean (line : Text)
    : ∃ lead ends trail : Placed,
        placedFrom 0 (pieces line) = lead ++ placedClean line ++ ends ++ trail
        ∧ (∀ placed ∈ lead, Text.isBlank placed.1 = true)
        ∧ (∀ placed ∈ ends, placed.1 = ';')
        ∧ ∀ placed ∈ trail, Text.isBlank placed.1 = true := by
  let code := placedFrom 0 (pieces line)
  let begun := code.dropWhile (Text.isBlank ·.1)
  let trimmed := begun.rdropWhile (Text.isBlank ·.1)
  obtain ⟨trail, trailing, trailBlank, -⟩ :=
    exists_ending (fun placed : Character × Nat => Text.isBlank placed.1) begun
  obtain ⟨ends, ending, endsOnly, -⟩ :=
    exists_ending (fun placed : Character × Nat => placed.1 == ';') trimmed
  refine ⟨code.takeWhile (Text.isBlank ·.1), ends, trail, ?_, ?_, ?_, trailBlank⟩
  · calc
      code = code.takeWhile (Text.isBlank ·.1) ++ begun := List.takeWhile_append_dropWhile.symm
      _ = code.takeWhile (Text.isBlank ·.1) ++ (trimmed ++ trail) := congrArg _ trailing
      _ = code.takeWhile (Text.isBlank ·.1) ++ (placedClean line ++ ends ++ trail) :=
        congrArg (fun front => _ ++ (front ++ trail)) ending
      _ = _ := by simp
  · exact fun placed => List.mem_takeWhile_imp
  · exact fun placed member => beq_iff_eq.mp (endsOnly placed member)

/-- The characters of a word stand next to each other in the code of its line, after something that
a word begins after, and before something that a word ends before.
-/
theorem exists_surroundings {line : Text} {word : Placed} (member : word ∈ placedWords line)
    : ∃ before after : Placed,
        placedFrom 0 (pieces line) = before ++ word ++ after
        ∧ BeginsAfter before.text word.text
        ∧ EndsBefore word.text after.text := by
  obtain ⟨segment, listed, grouped⟩ := List.mem_flatMap.mp member
  obtain ⟨earlier, later, split⟩ := List.append_of_mem listed
  obtain ⟨left, right, clean, -, leftSpace, rightSpace⟩ := exists_around_of_splitOnP split
  obtain ⟨inner, outer, rfl, leftApart, rightApart⟩ := exists_around_of_mem_splitBy grouped
  obtain ⟨lead, ends, trail, whole, leadBlank, endsOnly, trailBlank⟩ :=
    exists_around_placedClean line
  refine ⟨lead ++ left ++ inner, outer ++ right ++ ends ++ trail, ?_, ?_, ?_⟩
  · simp [whole, clean]
  · refine forall_mem_getLast?_map.mpr (forall_mem_getLast?_append (fun placed last => ?_) fun _ =>
      forall_mem_getLast?_append (fun placed last => ?_) fun _ placed last => ?_)
    · exact .inr (forall_mem_head?_map.mpr (leftApart placed last))
    · exact .inl (by rw [beq_iff_eq.mp (leftSpace placed last)]; decide)
    · exact .inl (leadBlank placed (List.mem_of_getLast? last))
  · simp only [List.append_assoc]
    refine forall_mem_head?_map.mpr (forall_mem_head?_append (fun placed first => ?_) fun _ =>
      forall_mem_head?_append (fun placed first => ?_) fun _ =>
        forall_mem_head?_append (fun placed first => ?_) fun _ placed first => ?_)
    · exact .inr (.inr (forall_mem_getLast?_map.mpr fun last isLast =>
        rightApart placed first last isLast))
    · exact .inl (by rw [beq_iff_eq.mp (rightSpace placed first)]; decide)
    · exact .inr (.inl (endsOnly placed (List.mem_of_head? first)))
    · exact .inl (trailBlank placed (List.mem_of_head? first))

-----------------------------------------------------------------------------------------
-- Lines of code alone
-----------------------------------------------------------------------------------------

/-- Where nothing opens a comment, every character is code in its column. -/
theorem placedFrom_pieces_of_plain {text : Text} (plain : ↑ '(' ∉ text) (column : Nat)
    : placedFrom column (pieces text) = text.zipIdx column := by
  induction text generalizing column with
  | nil =>
      rw [pieces]
      rfl
  | cons c rest ih =>
      simp only [List.mem_cons, not_or] at plain
      rw [pieces_code (Ne.symm plain.1)]
      exact congrArg ((c, column) :: ·) (ih plain.2 (column + 1))

/-- The characters of a word fill their columns in a line without comments. -/
theorem exists_surroundings_of_plain {source : Text} {word : Placed} (plain : ↑ '(' ∉ source)
    (member : word ∈ placedWords source)
    : ∃ before after,
        source = before ++ word.text ++ after
        ∧ word.FillsFrom before.length
        ∧ BeginsAfter before word.text
        ∧ EndsBefore word.text after := by
  obtain ⟨before, after, whole, begins, ends⟩ := exists_surroundings member
  rw [placedFrom_pieces_of_plain plain] at whole
  have same : source = before.text ++ word.text ++ after.text := by
    simpa [Placed.text] using congrArg (List.map Prod.fst) whole
  rw [same, List.zipIdx_append, List.zipIdx_append] at whole
  have placed : word.text.zipIdx before.text.length = word := by
    have front := (List.append_inj whole (by simp [Placed.text])).1
    simpa using (List.append_inj front (by simp [Placed.text])).2
  refine ⟨before.text, after.text, same, ?_, begins, ends⟩
  rw [Placed.FillsFrom, Placed.columns, ← placed, List.zipIdx_map_snd, List.length_zipIdx]

end LatheGloss.Program
