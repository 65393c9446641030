import Mathlib
import LatheGloss.Program.Word

/-! Words laid out on a line. Every text can be read as words with spaces before, between and
after them, so that words without a space between can still be told apart. There is one way to
read it so, and the words of a line are those of its cleaned text.
-/

namespace LatheGloss.Program

/-- A word is some letters, and after them some characters that are none; a space is in no word.
-/
structure IsWord (word : Text) : Prop where
  nonempty : word ≠ []
  spaceless : ↑ ' ' ∉ word
  shape
    : ∃ letters others,
        word = letters ++ others
        ∧ (∀ c ∈ letters, c.isAlpha = true)
        ∧ ∀ c ∈ others, c.isAlpha = false

/-- Where two words touch, a letter follows something that is none. -/
def PartWhereTouching (left right : Text) : Prop :=
  (∃ c ∈ left.getLast?, c.isAlpha = false) ∧ ∃ c ∈ right.head?, c.isAlpha = true

/-- Some spaces, and then words in their order, each with the number of spaces after it. -/
structure Layout where
  indent : Nat
  words : List (Text × Nat)

namespace Layout

def text (layout : Layout) : Text :=
  List.replicate layout.indent (' ' : Character)
  ++ layout.words.flatMap fun (word, gap) => word ++ List.replicate gap (' ' : Character)

/-- Neighbours with no space between them can be told apart. -/
def Parted (layout : Layout) : Prop :=
  layout.words.IsChain fun left right => left.2 = 0 → PartWhereTouching left.1 right.1

end Layout

/-- The words of a text in which only words and spaces are left. -/
def splitWords (text : Text) : List Text :=
  (text.splitOn ↑ ' ').flatMap unglue

-----------------------------------------------------------------------------------------
-- Places at which a text falls apart
-----------------------------------------------------------------------------------------

theorem splitWords_of_spaceless {text : Text} (spaceless : ↑ ' ' ∉ text)
    : splitWords text = unglue text := by
  rw [splitWords, List.splitOn_eq_singleton spaceless, List.flatMap_singleton]

/-- A space belongs to no word. -/
theorem splitWords_append_space (left right : Text)
    : splitWords (left ++ ↑ ' ' :: right) = splitWords left ++ splitWords right := by
  rw [splitWords, List.splitOn_append_cons_self, List.flatMap_append]
  rfl

theorem splitWords_spaces (count : Nat) (text : Text)
    : splitWords (List.replicate count (' ' : Character) ++ text) = splitWords text := by
  induction count with
  | zero => rfl
  | succ count ih =>
      have first := splitWords_append_space [] (List.replicate count (' ' : Character) ++ text)
      rw [List.replicate_succ, List.cons_append]
      exact first.trans ih

/-- A text falls apart before a letter that follows no letter, also within a stretch without
spaces.
-/
theorem splitWords_append {left right : Text} (spaceless : ↑ ' ' ∉ left)
    (parted : ∀ c ∈ left.getLast?, ∀ d ∈ right.head?, adheres c d = false)
    : splitWords (left ++ right) = unglue left ++ splitWords right := by
  by_cases spaced : ↑ ' ' ∈ right
  · obtain ⟨segment, rest, rfl, bare⟩ := List.eq_append_cons_of_mem spaced
    have both : ↑ ' ' ∉ left ++ segment := by simp [spaceless, bare]
    have apart : ∀ c ∈ left.getLast?, ∀ d ∈ segment.head?, adheres c d = false := by
      intro c last d first
      exact parted c last d (by simp [List.head?_append, Option.mem_def.mp first])
    rw [← List.append_assoc, splitWords_append_space, splitWords_append_space,
      splitWords_of_spaceless both, splitWords_of_spaceless bare, ← List.append_assoc]
    exact congrArg (· ++ splitWords rest) (List.splitBy_append apart)
  · have both : ↑ ' ' ∉ left ++ right := by simp [spaceless, spaced]
    rw [splitWords_of_spaceless both, splitWords_of_spaceless spaced]
    exact List.splitBy_append parted

-----------------------------------------------------------------------------------------
-- A layout is read as its words
-----------------------------------------------------------------------------------------

/-- Anything may follow a letter in a word, and anything but a letter what is none, by induction
over the letters that the word begins with.
-/
theorem IsWord.isChain {word : Text} (isWord : IsWord word)
    : word.IsChain fun left right => adheres left right = true := by
  obtain ⟨letters, others, rfl, alphabetic, plain⟩ := isWord.shape
  rw [List.isChain_append]
  refine ⟨?_, ?_, ?_⟩
  · exact (List.pairwise_of_forall_mem_list fun c member _ _ => by
      simp [adheres, alphabetic c member]).isChain
  · exact (List.pairwise_of_forall_mem_list fun _ _ d member => by
      simp [adheres, plain d member]).isChain
  · intro c last d _
    simp [adheres, alphabetic c (List.mem_of_getLast? last)]

theorem IsWord.unglue_eq {word : Text} (isWord : IsWord word)
    : unglue word = [word] :=
  List.splitBy_of_isChain isWord.nonempty isWord.isChain

theorem PartWhereTouching.not_adheres {left right : Text} (parts : PartWhereTouching left right)
    (more : Text)
    : ∀ c ∈ left.getLast?, ∀ d ∈ (right ++ more).head?, adheres c d = false := by
  obtain ⟨⟨c, last, plain⟩, d, first, letter⟩ := parts
  intro other otherLast next otherFirst
  rw [List.head?_append, Option.mem_def.mp first, Option.some_or] at otherFirst
  obtain rfl : c = other := Option.mem_unique last otherLast
  obtain rfl : d = next := Option.some.inj otherFirst
  simp [adheres, plain, letter]

/-- The words of a layout are read off its text, by induction over them. -/
theorem splitWords_text {layout : Layout} (areWords : ∀ word ∈ layout.words, IsWord word.1)
    (parted : layout.Parted)
    : splitWords layout.text = layout.words.map Prod.fst := by
  obtain ⟨indent, words⟩ := layout
  rw [Layout.text, splitWords_spaces]
  unfold Layout.Parted at parted
  induction words with
  | nil => rfl
  | cons word rest ih =>
      obtain ⟨word, gap⟩ := word
      have isWord : IsWord word := areWords (word, gap) List.mem_cons_self
      have later := ih (fun other member => areWords other (List.mem_cons_of_mem _ member))
        parted.tail
      rw [List.flatMap_cons, List.map_cons, List.append_assoc]
      cases gap with
      | zero =>
          have apart
              : ∀ c ∈ word.getLast?,
                  ∀ d ∈
                    (rest.flatMap fun (word, gap) =>
                      word ++ List.replicate gap (' ' : Character)).head?,
                    adheres c d = false := by
            cases rest with
            | nil => simp
            | cons next more =>
                have parts := (List.isChain_cons_cons.mp parted).1 rfl
                rw [List.flatMap_cons, List.append_assoc]
                exact parts.not_adheres _
          rw [List.replicate_zero, List.nil_append, splitWords_append isWord.spaceless apart,
            isWord.unglue_eq, later, List.singleton_append]
      | succ gap =>
          rw [List.replicate_succ, List.cons_append, splitWords_append_space,
            splitWords_of_spaceless isWord.spaceless, isWord.unglue_eq, splitWords_spaces, later,
            List.singleton_append]

-----------------------------------------------------------------------------------------
-- Every text has a layout
-----------------------------------------------------------------------------------------

theorem IsWord.single {c : Character} (visible : c ≠ ' ')
    : IsWord [c] := by
  refine ⟨by simp, by simpa using visible.symm, ?_⟩
  cases letter : c.isAlpha with
  | true => exact ⟨[c], [], rfl, by simpa using letter, by simp⟩
  | false => exact ⟨[], [c], rfl, by simp, by simpa using letter⟩

/-- A word grows at its beginning by a character that adheres to it. -/
theorem IsWord.cons {c d : Character} {word : Text} (isWord : IsWord (d :: word))
    (visible : c ≠ ' ') (fits : adheres c d = true)
    : IsWord (c :: d :: word) := by
  obtain ⟨letters, others, same, alphabetic, plain⟩ := isWord.shape
  refine ⟨by simp, by simp [visible.symm, isWord.spaceless], ?_⟩
  cases letter : c.isAlpha with
  | true =>
      exact ⟨c :: letters, others, by simp [same], List.forall_mem_cons.mpr ⟨letter, alphabetic⟩,
        plain⟩
  | false =>
      -- Since c is no letter, neither is d, and so the word has no letters at its beginning.
      have first : d.isAlpha = false := by simpa [adheres, letter] using fits
      cases letters with
      | nil =>
          exact ⟨[], c :: others, by simp [same], by simp,
            List.forall_mem_cons.mpr ⟨letter, plain⟩⟩
      | cons e more =>
          obtain rfl : d = e := (List.cons.inj same).1
          simp [first] at alphabetic

/-- A layout grows at its beginning by a space, by a character that adheres to the first word, or
by a word of one character, by induction over the text.
-/
theorem exists_layout (text : Text)
    : ∃ layout : Layout,
        layout.text = text ∧ (∀ word ∈ layout.words, IsWord word.1) ∧ layout.Parted := by
  induction text with
  | nil => exact ⟨⟨0, []⟩, rfl, by simp, List.isChain_nil⟩
  | cons c rest ih =>
      obtain ⟨⟨indent, words⟩, rfl, areWords, parted⟩ := ih
      by_cases space : c = ' '
      · subst space
        exact ⟨⟨indent + 1, words⟩, rfl, areWords, parted⟩
      · have alone : IsWord [c] := .single space
        have begun : ∀ word ∈ ([c], indent) :: words, IsWord word.1 :=
          List.forall_mem_cons.mpr ⟨alone, areWords⟩
        match indent, words with
        | count + 1, words =>
            refine ⟨⟨0, ([c], count + 1) :: words⟩, by simp [Layout.text], begun, ?_⟩
            exact List.isChain_cons.mpr ⟨by simp, parted⟩
        | 0, [] => exact ⟨⟨0, [([c], 0)]⟩, rfl, begun, List.isChain_singleton _⟩
        | 0, ([], gap) :: more => exact absurd rfl (areWords _ List.mem_cons_self).nonempty
        | 0, (d :: word, gap) :: more =>
            obtain ⟨first, others⟩ := List.forall_mem_cons.mp areWords
            cases fits : adheres c d with
            | true =>
                refine ⟨⟨0, (c :: d :: word, gap) :: more⟩, rfl, ?_, ?_⟩
                · exact List.forall_mem_cons.mpr ⟨first.cons space fits, others⟩
                · simpa [Layout.Parted, List.isChain_cons, PartWhereTouching] using parted
            | false =>
                refine ⟨⟨0, ([c], 0) :: (d :: word, gap) :: more⟩, rfl, begun, ?_⟩
                refine List.isChain_cons_cons.mpr ⟨fun _ => ?_, parted⟩
                simpa [adheres, PartWhereTouching] using fits

theorem exists_layout_words (line : Text)
    : ∃ layout : Layout,
        layout.text = clean line
        ∧ layout.words.map Prod.fst = words line
        ∧ (∀ word ∈ words line, IsWord word)
        ∧ layout.Parted := by
  obtain ⟨layout, same, areWords, parted⟩ := exists_layout (clean line)
  have read : words line = layout.words.map Prod.fst := by
    rw [← splitWords_text areWords parted, same]
    rfl
  refine ⟨layout, same, read.symm, ?_, parted⟩
  rw [read]
  exact List.forall_mem_map.mpr areWords

theorem isWord_of_mem_words {line word : Text} (member : word ∈ words line)
    : IsWord word := by
  obtain ⟨-, -, -, areWords, -⟩ := exists_layout_words line
  exact areWords word member

/-- The words of a line are words, of which its cleaned text is a layout that keeps apart those
that touch; and they are the only words with such a layout of that text.
-/
theorem words_eq_iff_layout (line : Text) (expected : List Text)
    : words line = expected
      ↔ (∀ word ∈ expected, IsWord word)
        ∧ ∃ layout : Layout,
            layout.text = clean line ∧ layout.words.map Prod.fst = expected ∧ layout.Parted := by
  constructor
  · rintro rfl
    obtain ⟨layout, same, read, areWords, parted⟩ := exists_layout_words line
    exact ⟨areWords, layout, same, read, parted⟩
  · rintro ⟨areWords, layout, same, rfl, parted⟩
    have read := splitWords_text (List.forall_mem_map.mp areWords) parted
    rwa [same] at read

end LatheGloss.Program
