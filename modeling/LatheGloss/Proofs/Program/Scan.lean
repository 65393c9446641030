import Mathlib
import LatheGloss.Proofs.Program.Spans

/-! The scan for words. The first two characters of a word tell its style, so at most one shape is
found at a place; and where a shape begins, it is marked unless a mark that begins before lies over
the place.
-/

namespace LatheGloss.Program

/-- The capital that a character counts as when case does not matter. -/
def capitalOf : Character → Character
  | 'ı' | 'İ' => 'I'
  | '\u212A' => 'K'
  | 'ſ' => 'S'
  | c => c.toUpper

/-- The capitals that words of some style are spelled with. -/
def spelledCapitals : Text :=
  Rule.jumpKeyword ++ (['I', 'F', 'M', 'N', '#'] : Text) ++ parameterLetters

/-- What can follow the letter of a parameter: a sign, a digit or a point. -/
def isNumberMark (c : Character) : Bool :=
  c == '+' || c == '-' || isDigitOrPoint c

/-- The style of the words that begin with two characters. -/
def Style.ofBeginning (first second : Character) : Option Style :=
  match capitalOf first with
  | 'G' =>
      if Text.isDecimalDigit second then some .code
      else if capitalOf second = 'O' then some .jump
      else none
  | 'M' => if Text.isDecimalDigit second then some .code else none
  | 'N' => if Text.isWordCharacter second then some .label else none
  | '#' => if Text.isDecimalDigit second then some .indexedVariable else none
  | 'I' =>
      if isNumberMark second then some .parameter
      else if capitalOf second = 'F' then some .conditional
      else none
  | capital =>
      if parameterLetters.contains capital && isNumberMark second then some .parameter else none

/-- A word of some style begins here. -/
def WordBegins (previous : Option Character) (text : Text) : Prop :=
  ∃ style word rest, text = word ++ rest ∧ Style.Shape previous style word rest

-----------------------------------------------------------------------------------------
-- The style of a beginning
-----------------------------------------------------------------------------------------

theorem apply_of_isVariantOf (holds : Character → Bool) {capital c : Character}
    (settled : (variants capital).all holds = true) (variant : isVariantOf capital c = true)
    : holds c = true :=
  List.all_eq_true.mp settled c (List.contains_iff_mem.mp variant)

theorem spelledCapitals_settled
    : (spelledCapitals.all fun capital => (variants capital).all (capitalOf · == capital))
      = true := by
  decide

theorem capitalOf_of_isVariantOf {capital c : Character} (listed : capital ∈ spelledCapitals)
    (variant : isVariantOf capital c = true)
    : capitalOf c = capital := by
  have settled : (variants capital).all (capitalOf · == capital) = true :=
    List.all_eq_true.mp spelledCapitals_settled capital listed
  exact beq_iff_eq.mp (apply_of_isVariantOf (capitalOf · == capital) settled variant)

theorem IsFullRun.exists_cons {holds : Character → Bool} {run rest : Text}
    (full : IsFullRun holds run rest)
    : ∃ c more, run = c :: more ∧ holds c = true := by
  obtain ⟨c, more, rfl⟩ := List.exists_cons_of_ne_nil full.1
  exact ⟨c, more, rfl, full.2.all c List.mem_cons_self⟩

theorem isNumberMark_of_isDecimalDigit {c : Character} (digit : Text.isDecimalDigit c = true)
    : isNumberMark c = true := by
  simp [isNumberMark, isDigitOrPoint, digit]

theorem IsSignedRun.all {run rest : Text} (signed : IsSignedRun run rest)
    : ∀ c ∈ run, isNumberMark c = true := by
  obtain ⟨sign, number, rfl, listed, full⟩ := signed
  refine List.forall_mem_append.mpr ⟨?_, fun c member => ?_⟩
  · simp only [List.mem_cons, List.not_mem_nil, or_false] at listed
    rcases listed with rfl | rfl | rfl <;> simp [isNumberMark]
  · simp [isNumberMark, full.2.all c member]

theorem IsSignedRun.exists_cons {run rest : Text} (signed : IsSignedRun run rest)
    : ∃ c more, run = c :: more ∧ isNumberMark c = true := by
  have full : run ≠ [] := by
    obtain ⟨sign, number, rfl, -, full⟩ := signed
    simp [full.1]
  obtain ⟨c, more, rfl⟩ := List.exists_cons_of_ne_nil full
  exact ⟨c, more, rfl, signed.all c List.mem_cons_self⟩

theorem Style.ofBeginning_parameter {letter c : Character}
    (known : capitalOf letter ∈ parameterLetters) (mark : isNumberMark c = true)
    : ofBeginning letter c = some .parameter := by
  unfold ofBeginning
  split
  case h_5 => rw [if_pos mark]
  case h_6 => rw [List.contains_iff_mem.mpr known, mark, Bool.and_self, if_pos rfl]
  all_goals
    next capital =>
      rw [capital] at known
      exact absurd known (by decide)

/-- Words of a style begin with two characters that tell it. -/
theorem Style.Shape.exists_beginning {style : Style} {previous : Option Character}
    {word rest : Text} (shape : style.Shape previous word rest)
    : ∃ first second more,
        word = first :: second :: more ∧ ofBeginning first second = some style := by
  have isCapital (capitals : Text) (known : capitals ⊆ spelledCapitals)
      {letter : Character} (spelled : ∃ capital ∈ capitals, isVariantOf capital letter = true)
      : capitalOf letter ∈ capitals := by
    obtain ⟨capital, listed, variant⟩ := spelled
    rwa [capitalOf_of_isVariantOf (known listed) variant]
  cases style with
  | jump =>
      obtain ⟨keyword, tail, rfl, spells, -⟩ := shape
      obtain ⟨g, _, isG, later, rfl⟩ := List.forall₂_cons_left_iff.mp spells
      obtain ⟨o, more, isO, -, rfl⟩ := List.forall₂_cons_left_iff.mp later
      have first := capitalOf_of_isVariantOf (by decide) isG
      have second := capitalOf_of_isVariantOf (by decide) isO
      refine ⟨g, o, more ++ tail, rfl, ?_⟩
      have noDigit : (!Text.isDecimalDigit o) = true :=
        apply_of_isVariantOf (!Text.isDecimalDigit ·) (by decide) isO
      rw [Bool.not_eq_true'] at noDigit
      simp [ofBeginning, first, second, noDigit]
  | conditional =>
      obtain ⟨i, _, isI, later, rfl⟩ := List.forall₂_cons_left_iff.mp shape.1
      obtain ⟨f, more, isF, -, rfl⟩ := List.forall₂_cons_left_iff.mp later
      have first := capitalOf_of_isVariantOf (by decide) isI
      have second := capitalOf_of_isVariantOf (by decide) isF
      refine ⟨i, f, more, rfl, ?_⟩
      have noMark : (!isNumberMark f) = true :=
        apply_of_isVariantOf (!isNumberMark ·) (by decide) isF
      rw [Bool.not_eq_true'] at noMark
      simp [ofBeginning, first, second, noMark]
  | code =>
      obtain ⟨letter, tail, rfl, spelled, full⟩ := shape
      obtain ⟨c, more, rfl, digit⟩ := full.exists_cons
      refine ⟨letter, c, more, rfl, ?_⟩
      have capital := isCapital _ (by decide) spelled
      simp only [List.mem_cons, List.not_mem_nil, or_false] at capital
      rcases capital with isG | isM
      · simp [ofBeginning, isG, digit]
      · simp [ofBeginning, isM, digit]
  | label =>
      obtain ⟨letter, tail, rfl, spelled, full⟩ := shape
      obtain ⟨c, more, rfl, character⟩ := full.exists_cons
      refine ⟨letter, c, more, rfl, ?_⟩
      have capital := isCapital _ (by decide) spelled
      rw [List.mem_singleton] at capital
      simp [ofBeginning, capital, character]
  | indexedVariable =>
      obtain ⟨letter, tail, rfl, spelled, full⟩ := shape
      obtain ⟨c, more, rfl, digit⟩ := full.exists_cons
      refine ⟨letter, c, more, rfl, ?_⟩
      have capital := isCapital _ (by decide) spelled
      rw [List.mem_singleton] at capital
      simp [ofBeginning, capital, digit]
  | parameter =>
      obtain ⟨letter, tail, rfl, spelled, signed⟩ := shape
      obtain ⟨c, more, rfl, mark⟩ := signed.exists_cons
      exact ⟨letter, c, more, rfl, ofBeginning_parameter (isCapital _ (by decide) spelled) mark⟩
  | comment => exact shape.elim
  | terminator => exact shape.elim

/-- At most one style has its shape at the beginning of a text. -/
theorem Style.Shape.style_eq {style other : Style} {previous : Option Character}
    {word rest otherWord otherRest : Text} (shape : style.Shape previous word rest)
    (otherShape : other.Shape previous otherWord otherRest)
    (same : word ++ rest = otherWord ++ otherRest)
    : style = other := by
  obtain ⟨c, d, more, rfl, begins⟩ := shape.exists_beginning
  obtain ⟨first, second, others, rfl, otherBegins⟩ := otherShape.exists_beginning
  simp only [List.cons_append, List.cons.injEq] at same
  obtain ⟨rfl, rfl, -⟩ := same
  exact Option.some.inj (begins.symm.trans otherBegins)

-----------------------------------------------------------------------------------------
-- Shapes are found
-----------------------------------------------------------------------------------------

theorem Style.Shape.mem_wordStyles {style : Style} {previous : Option Character} {word rest : Text}
    (shape : style.Shape previous word rest)
    : style ∈ wordStyles := by
  cases style with
  | comment => exact shape.elim
  | terminator => exact shape.elim
  | _ => decide

/-- The word at the head of a text is the one whose shape is there, whatever is tried before. -/
theorem wordAt?_of_shape {style : Style} {previous : Option Character} {word rest : Text}
    (shape : style.Shape previous word rest)
    : wordAt? previous (word ++ rest) = some (style, word.length) := by
  have read : wordLength? previous (word ++ rest) style = some word.length :=
    (reads_wordLength? previous style _ _).mpr ⟨word, rest, rfl, rfl, shape⟩
  cases found : wordAt? previous (word ++ rest) with
  | none =>
      have missed := List.findSome?_eq_none_iff.mp found style shape.mem_wordStyles
      rw [read] at missed
      cases missed
  | some mark =>
      obtain ⟨other, length⟩ := mark
      obtain ⟨-, otherWord, otherRest, same, width, otherShape⟩ := exists_shape_of_wordAt? found
      obtain rfl : style = other := shape.style_eq otherShape same
      have otherRead : wordLength? previous (word ++ rest) style = some length :=
        (reads_wordLength? previous style _ _).mpr ⟨otherWord, otherRest, same, width, otherShape⟩
      rw [Option.some.inj (read.symm.trans otherRead)]

/-- A word that begins at a place is marked, unless some columns are left of a word before or a
mark lies over the place that begins before it; by induction over what stands before the place.
-/
theorem mem_wordSpansFrom_or_covered {column left : Nat} {previous : Option Character}
    {style : Style} {front word rest : Text}
    (shape : style.Shape (front.getLast?.or previous) word rest)
    : ⟨column + front.length, word.length, style⟩
        ∈ wordSpansFrom column previous left (front ++ (word ++ rest))
      ∨ front.length < left
      ∨ ∃ span ∈ wordSpansFrom column previous left (front ++ (word ++ rest)),
          span.start < column + front.length ∧ column + front.length < span.stop := by
  induction front generalizing column left previous with
  | nil =>
      obtain ⟨c, more, rfl⟩ := List.exists_cons_of_ne_nil shape.ne_nil
      cases left with
      | zero =>
          have found := wordAt?_of_shape shape
          rw [List.getLast?_nil, Option.none_or] at found
          simp only [List.nil_append, List.cons_append] at found ⊢
          rw [wordSpansFrom, found]
          exact .inl List.mem_cons_self
      | succ left => exact .inr (.inl (Nat.succ_pos left))
  | cons c front ih =>
      have shapeLater : style.Shape (front.getLast?.or (some c)) word rest := by
        rwa [getLast?_cons_or] at shape
      have place : column + (c :: front).length = column + 1 + front.length := by
        rw [List.length_cons]
        omega
      rw [place, List.cons_append, List.length_cons]
      cases left with
      | succ left =>
          rw [wordSpansFrom]
          rcases ih shapeLater with marked | short | covered
          · exact .inl marked
          · exact .inr (.inl (Nat.succ_lt_succ short))
          · exact .inr (.inr covered)
      | zero =>
          rw [wordSpansFrom]
          split
          · next here length found =>
              rcases ih shapeLater with marked | short | ⟨span, known, covers⟩
              · exact .inl (List.mem_cons_of_mem _ marked)
              · -- The columns left are those of the word found here, which lies over the place.
                refine .inr (.inr ⟨_, List.mem_cons_self, ?_, ?_⟩)
                · dsimp only
                  omega
                · simp only [Span.stop]
                  omega
              · exact .inr (.inr ⟨span, List.mem_cons_of_mem _ known, covers⟩)
          · rcases ih shapeLater with marked | short | covered
            · exact .inl marked
            · exact absurd short (Nat.not_lt_zero _)
            · exact .inr (.inr covered)

/-- A word that begins at a place of a line is marked or lies under a mark that begins before. -/
theorem mem_wordSpans_or_covered {style : Style} {front word rest : Text}
    (shape : style.Shape front.getLast? word rest)
    : ⟨front.length, word.length, style⟩ ∈ wordSpans (front ++ (word ++ rest))
      ∨ ∃ span ∈ wordSpans (front ++ (word ++ rest)),
          span.start < front.length ∧ front.length < span.stop := by
  have shapeLater : style.Shape (front.getLast?.or none) word rest := by rwa [Option.or_none]
  have scanned := @mem_wordSpansFrom_or_covered 0 0 _ _ _ _ _ shapeLater
  rw [Nat.zero_add] at scanned
  rcases scanned with marked | short | covered
  · exact .inl marked
  · exact absurd short (Nat.not_lt_zero _)
  · exact .inr covered

end LatheGloss.Program
