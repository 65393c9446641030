import Mathlib
import LatheGloss.Proofs.Program.KindShapes

/-! Marks of words: a word has a mark of its own unless a label or a jump is marked over it. -/

namespace LatheGloss.Program

/-- The marks for words that share a column with a word. -/
def wordMarks (source : Text) (word : Placed) : List Span :=
  (highlight source).filter fun mark =>
    decide (mark.style ∈ wordStyles) && word.columns.any (mark.Holds ·)

-----------------------------------------------------------------------------------------
-- Marks that a word shares columns with
-----------------------------------------------------------------------------------------

/-- Marks for words are those that the words were scanned for. -/
theorem filter_highlight (source : Text)
    : (highlight source).filter (·.style ∈ wordStyles) = wordSpans source := by
  have words : (wordSpans source).filter (·.style ∈ wordStyles) = wordSpans source :=
    List.filter_eq_self.mpr fun span member => decide_eq_true (style_of_mem_wordSpansFrom member)
  have comments : (commentSpans source).filter (·.style ∈ wordStyles) = [] := by
    refine List.filter_eq_nil_iff.mpr fun span member => ?_
    rw [style_of_mem_commentSpans member]
    decide
  have terminators : (terminatorSpans source).filter (·.style ∈ wordStyles) = [] := by
    unfold terminatorSpans
    dsimp only
    split <;> rfl
  rw [highlight, List.filter_append, List.filter_append, words, comments, terminators,
    List.append_nil, List.append_nil]

theorem wordMarks_eq (source : Text) (word : Placed)
    : wordMarks source word
      = (wordSpans source).filter fun mark => word.columns.any (mark.Holds ·) := by
  rw [← filter_highlight, List.filter_filter]
  exact List.filter_congr fun mark _ => Bool.and_comm _ _

/-- A mark is on a word if it begins before the word ends and ends behind where it begins. -/
theorem mem_wordMarks_iff {source : Text} {word : Placed} {first : Nat} {mark : Span}
    (fills : word.FillsFrom first) (full : word ≠ [])
    : mark ∈ wordMarks source word
      ↔ mark ∈ wordSpans source ∧ mark.start < first + word.length ∧ first < mark.stop := by
  rw [wordMarks_eq, List.mem_filter, List.any_eq_true, fills]
  constructor
  · rintro ⟨member, column, inWord, held⟩
    have place := List.mem_range'_1.mp inWord
    obtain ⟨begun, within⟩ := of_decide_eq_true held
    exact ⟨member, by omega, by omega⟩
  · rintro ⟨member, early, late⟩
    have nonempty := (areOrderly_wordSpans source).nonempty mark member
    have width := List.length_pos_of_ne_nil full
    refine ⟨member, max first mark.start, ?_, decide_eq_true ⟨Nat.le_max_right _ _, ?_⟩⟩
    · rw [List.mem_range'_1]
      omega
    · simp only [Span.stop] at late ⊢
      omega

/-- A word has a mark of its own alone if it has it at all. -/
theorem wordMarks_eq_singleton_iff {source : Text} {word : Placed} {first : Nat} {style : Style}
    (fills : word.FillsFrom first) (full : word ≠ [])
    : wordMarks source word = [⟨first, word.length, style⟩]
      ↔ ⟨first, word.length, style⟩ ∈ wordSpans source := by
  have orderly := areOrderly_wordSpans source
  have width := List.length_pos_of_ne_nil full
  constructor
  · intro alone
    have member : ⟨first, word.length, style⟩ ∈ wordMarks source word := by simp [alone]
    exact ((mem_wordMarks_iff fills full).mp member).1
  · intro marked
    have member : ⟨first, word.length, style⟩ ∈ wordMarks source word := by
      refine (mem_wordMarks_iff fills full).mpr ⟨marked, ?_, ?_⟩
      · dsimp only
        omega
      · simp only [Span.stop]
        omega
    have same : ∀ other ∈ wordMarks source word, other = ⟨first, word.length, style⟩ := by
      intro other known
      obtain ⟨isMark, early, late⟩ := (mem_wordMarks_iff fills full).mp known
      have nonempty := orderly.nonempty other isMark
      -- Both hold the first column of the word that the other mark reaches.
      refine orderly.eq_of_holds isMark marked ⟨Nat.le_max_right first _, ?_⟩
        ⟨Nat.le_max_left _ other.start, ?_⟩
      · simp only [Span.stop] at late ⊢
        omega
      · simp only [Span.stop]
        omega
    have once : (wordMarks source word).Nodup := by
      rw [wordMarks_eq]
      exact orderly.nodup.filter _
    refine List.perm_singleton.mp
      ((List.perm_ext_iff_of_nodup once (List.nodup_singleton _)).mpr fun other => ?_)
    rw [List.mem_singleton]
    exact ⟨same other, fun equal => equal ▸ member⟩

-----------------------------------------------------------------------------------------
-- Words and their marks
-----------------------------------------------------------------------------------------

/-- In a line of ASCII without comments, a word that is to be marked has its mark alone and entirely
just when no label or jump before reaches it, word characters end with it if it is a label or a
jump, and none is before it if it is a condition. Any other word is free of marks just when no label
or jump reaches it and nothing in it has the shape of a word to be marked; of the symbols, only AND
has such a part.
-/
theorem wordMarks_exact_iff (source : Text) (ascii : ∀ c ∈ source, c.toNat < 128)
    (plain : ↑ '(' ∉ source) {word : Placed} (member : word ∈ placedWords source)
    : ∃ before after,
        source = before ++ word.text ++ after
        ∧ word.FillsFrom before.length
        ∧ (∀ style,
            (classify word.text).style? = some style
            → (wordMarks source word = [⟨before.length, word.length, style⟩]
              ↔ ¬IsReached before
                ∧ (style ∈ [.label, .jump] → IsRun Text.isWordCharacter word.text after)
                ∧ (style = .conditional → isWordCharacter? before.getLast? = false)))
        ∧ ((classify word.text).style? = none
            → (wordMarks source word = []
              ↔ ¬IsReached before
                ∧ ∀ front back,
                    word.text = front ++ back
                    → back ≠ []
                    → ¬WordBegins (before ++ front).getLast? (back ++ after)))
        ∧ ∀ text,
            classify word.text = .symbol text
            → (wordMarks source word = []
              ↔ ¬IsReached before ∧ text ≠ (['A', 'N', 'D'] : Text)) := by
  obtain ⟨before, after, rfl, fills, begins, ends⟩ := exists_surroundings_of_plain plain member
  have full : word.text ≠ [] := by
    have inWords : word.text ∈ (placedWords _).map Placed.text := List.mem_map_of_mem member
    rw [map_text_placedWords] at inWords
    exact (isWord_of_mem_words inWords).nonempty
  have placedFull : word ≠ [] := by
    rintro rfl
    exact full rfl
  have asciiEnd : ∀ c ∈ word.text ++ after, c.toNat < 128 := by
    rw [List.append_assoc] at ascii
    exact (List.forall_mem_append.mp ascii).2
  have width : word.text.length = word.length := List.length_map _
  have unmarked : wordMarks (before ++ word.text ++ after) word = []
      ↔ ¬IsReached before
        ∧ ∀ front back,
            word.text = front ++ back
            → back ≠ []
            → ¬WordBegins (before ++ front).getLast? (back ++ after) := by
    rw [← forall_not_mem_wordSpans_iff full ascii begins, List.eq_nil_iff_forall_not_mem, width]
    refine forall_congr' fun span => ?_
    rw [mem_wordMarks_iff fills placedFull, not_and]
  refine ⟨before, after, rfl, fills, ?_, fun _ => unmarked, ?_⟩
  · intro style kind
    rw [wordMarks_eq_singleton_iff fills placedFull, ← width, mem_wordSpans_iff full ascii begins,
      shape_iff_of_style? full asciiEnd ends kind]
  · intro text kind
    rw [unmarked, forall_not_wordBegins_iff_of_symbol full asciiEnd ends kind]

/-- The mark of a label goes on over a jump, and ends at a space. -/
theorem wordMarks_exact_iff_gluedLabel
    : let source : Text := "N2goto5 X3;"
      let jump : Placed := [('g', 2), ('o', 3), ('t', 4), ('o', 5), ('5', 6)]
      let parameter : Placed := [('X', 8), ('3', 9)]
      (∀ c ∈ source, c.toNat < 128)
      ∧ ↑ '(' ∉ source
      ∧ jump ∈ placedWords source
      ∧ parameter ∈ placedWords source
      ∧ wordMarks source jump = [⟨0, 7, .label⟩]
      ∧ IsReached "N2"
      ∧ wordMarks source parameter = [⟨8, 2, .parameter⟩]
      ∧ ¬IsReached "N2goto5 " := by
  intro source jump parameter
  have ascii : ∀ c ∈ source, c.toNat < 128 := List.all_iff_forall_prop.mp (by decide +kernel)
  have plain : ↑ '(' ∉ source := by decide
  have isJump : jump ∈ placedWords source := by decide +kernel
  have isParameter : parameter ∈ placedWords source := by decide +kernel
  have taken : wordMarks source jump = [⟨0, 7, .label⟩] := by decide +kernel
  have marked : wordMarks source parameter = [⟨8, 2, .parameter⟩] := by decide +kernel
  refine ⟨ascii, plain, isJump, isParameter, taken, ?_, marked, ?_⟩
  · obtain ⟨before, after, parts, fills, own, -, -⟩ :=
      wordMarks_exact_iff source ascii plain isJump
    have place : before.length = 2 := (List.cons.inj fills).1.symm
    have front : source.take 2 = before := by
      rw [parts, List.append_assoc, List.take_left' place]
    have rest : source.drop 7 = after := by
      rw [parts, List.drop_left' (by rw [List.length_append, place]; rfl)]
    subst front rest
    have isRun : IsRun Text.isWordCharacter jump.text (source.drop 7) := by
      refine ⟨List.all_iff_forall_prop.mp (by decide), fun c first => ?_⟩
      obtain rfl : ' ' = c := Option.some.inj first
      rfl
    by_contra free
    have alone := (own .jump (by decide +kernel)).mpr ⟨free, fun _ => isRun, nofun⟩
    rw [taken] at alone
    cases alone
  · obtain ⟨before, after, parts, fills, own, -, -⟩ :=
      wordMarks_exact_iff source ascii plain isParameter
    have place : before.length = 8 := (List.cons.inj fills).1.symm
    have front : source.take 8 = before := by
      rw [parts, List.append_assoc, List.take_left' place]
    subst front
    exact ((own .parameter (by decide +kernel)).mp marked).1

/-- The mark of a label also lies over a command and a parameter behind it, which have none. -/
theorem exists_command_under_label
    : let source : Text := "N10G0X1"
      let word : Placed := [('G', 3), ('0', 4)]
      (∀ c ∈ source, c.toNat < 128)
      ∧ ↑ '(' ∉ source
      ∧ ↑ ')' ∉ source
      ∧ word ∈ placedWords source
      ∧ classify word.text = .command word.text
      ∧ wordMarks source word = [⟨0, 7, .label⟩]
      ∧ highlight source = [⟨0, 7, .label⟩] := by
  intro source word
  have ascii : ∀ c ∈ source, c.toNat < 128 := List.all_iff_forall_prop.mp (by decide +kernel)
  refine ⟨ascii, by decide, by decide, ?_, ?_, ?_, ?_⟩ <;> decide +kernel

end LatheGloss.Program
