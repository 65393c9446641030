import Mathlib
import LatheGloss.Proofs.Program.Reach
import LatheGloss.Proofs.Program.Rules

/-! Kinds of words and shapes of marks. A word of a kind is told from its characters alone, while
the shape of its mark also asks for what stands before and behind it.
-/

namespace LatheGloss.Program

/-- The style that words of a kind are marked with. -/
def Token.style? : Token → Option Style
  | .command _ => some .code
  | .parameter _ => some .parameter
  | .label _ => some .label
  | .conditional _ => some .conditional
  | .jump _ _ => some .jump
  | .indexedVariable _ => some .indexedVariable
  | .symbol _ | .unknown _ => none

-----------------------------------------------------------------------------------------
-- Words of a kind have the shape of its style
-----------------------------------------------------------------------------------------

/-- What follows a word goes on with no number. -/
theorem EndsBefore.not_isNumberMark {word after : Text} (ends : EndsBefore word after)
    (full : word ≠ []) (ascii : ∀ c ∈ after, c.toNat < 128)
    : ∀ d ∈ after.head?, isNumberMark d = false := by
  intro d first
  rcases ends d first with blank | rfl | apart
  · exact eq_false_of_isBlank (by decide) (ascii d (List.mem_of_head? first)) blank
  · rfl
  · have parted := apart _ (List.getLast?_eq_some_getLast full)
    simp only [adheres, Bool.or_eq_false_iff, Bool.not_eq_false'] at parted
    exact isNumberMark_of_isAlpha parted.2

/-- What follows a word that ends in a letter is no word character. -/
theorem EndsBefore.not_isWordCharacter {word after : Text} (ends : EndsBefore word after)
    {c : Character} (last : word.getLast? = some c) (letter : c.isAlpha = true)
    (ascii : ∀ c ∈ after, c.toNat < 128)
    : ∀ d ∈ after.head?, Text.isWordCharacter d = false := by
  intro d first
  rcases ends d first with blank | rfl | apart
  · exact eq_false_of_isBlank (by decide) (ascii d (List.mem_of_head? first)) blank
  · rfl
  · have parted := apart c last
    simp [adheres, letter] at parted

theorem mem_variants (capital : Character)
    : capital ∈ variants capital ∧ capital.toLower ∈ variants capital := by
  unfold variants
  split
  · decide
  · decide
  · decide
  · simp

/-- A character counts as its capital. -/
theorem isVariantOf_toUpper (c : Character)
    : isVariantOf c.toUpper c = true := by
  obtain ⟨itself, small⟩ := mem_variants c.toUpper
  rw [isVariantOf, List.contains_iff_mem]
  by_cases upper : c.isUpper
  · have capital : c.toUpper = c :=
      Character.toUpper_eq_of_not_isLower fun lower =>
        Character.not_isUpper_of_isLower lower upper
    rwa [capital] at itself ⊢
  · rwa [Character.toLower_toUpper_eq_toLower, Character.toLower_eq_of_not_isUpper upper] at small

theorem spells_map_toUpper (word : Text)
    : Spells (word.map Character.toUpper) word := by
  rw [Spells, List.forall₂_map_left_iff, List.forall₂_same]
  exact fun c _ => isVariantOf_toUpper c

/-- What has no letters in capitals has none. -/
theorem map_toUpper_of_not_isAlpha {text : Text}
    (none : ∀ c ∈ text.map Character.toUpper, c.isAlpha = false)
    : text.map Character.toUpper = text := by
  refine (List.map_congr_left fun c member => ?_).trans (List.map_id text)
  have other := none _ (List.mem_map_of_mem member)
  rw [Character.isAlpha_toUpper_eq_isAlpha] at other
  exact toUpper_of_not_isAlpha other

section Kinds

variable {previous : Option Character} {word after : Text}

/-- A word that is a letter and digits in capitals is the letter in either case and the digits. -/
theorem exists_lettered {letter : Character} {number : Text}
    (same : word.map Character.toUpper = letter :: number) (none : ∀ c ∈ number, c.isAlpha = false)
    : ∃ c, word = c :: number ∧ isVariantOf letter c = true := by
  obtain ⟨c, tail, rfl, rfl, rfl⟩ := List.map_eq_cons_iff.mp same
  rw [map_toUpper_of_not_isAlpha none]
  exact ⟨c, rfl, isVariantOf_toUpper c⟩

theorem isDecimalDigit_of_isDigit {c : Character} (digit : c.isDigit = true)
    : Text.isDecimalDigit c = true := by
  have code := Character.isDigit_iff.mp digit
  rw [Text.isDecimalDigit, if_pos (by omega), digit]

theorem isLettered_of_isDigits {capitals digits : Text} {letter : Character}
    (same : word.map Character.toUpper = letter :: digits) (listed : letter ∈ capitals)
    (areDigits : IsDigits digits) (ends : ∀ d ∈ after.head?, isNumberMark d = false)
    : IsLettered capitals (IsFullRun Text.isDecimalDigit) word after := by
  obtain ⟨full, all⟩ := areDigits
  obtain ⟨c, rfl, variant⟩ :=
    exists_lettered same fun d member => not_isAlpha_of_isDigit (all d member)
  refine ⟨c, digits, rfl, ⟨letter, listed, variant⟩, full, fun d member =>
    isDecimalDigit_of_isDigit (all d member), fun d first => ?_⟩
  by_contra digit
  have mark := isNumberMark_of_isDecimalDigit (Bool.of_not_eq_false digit)
  rw [ends d first] at mark
  cases mark

theorem isSignedRun_of_isSignedDecimal {number : Text} (signed : IsSignedDecimal number)
    (ends : ∀ d ∈ after.head?, isNumberMark d = false)
    : IsSignedRun number after := by
  obtain ⟨sign, digits, rfl, listed, plain⟩ := signed
  refine ⟨sign, digits, rfl, listed, ?_, fun d member => ?_, fun d first => ?_⟩
  · rcases plain with ⟨full, -⟩ | ⟨whole, fraction, rfl, -⟩
    · exact full
    · simp
  · rcases plain.digit_or_point d member with digit | rfl
    · simp [isDigitOrPoint, isDecimalDigit_of_isDigit digit]
    · rfl
  · have other := ends d first
    simp only [isNumberMark, Bool.or_eq_false_iff] at other
    exact other.2

theorem isLettered_of_isSignedDecimal {capitals number : Text} {letter : Character}
    (same : word.map Character.toUpper = letter :: number) (listed : letter ∈ capitals)
    (signed : IsSignedDecimal number) (ends : ∀ d ∈ after.head?, isNumberMark d = false)
    : IsLettered capitals IsSignedRun word after := by
  have noLetter : ∀ c ∈ number, c.isAlpha = false := by
    intro c member
    rcases signed.digit_or_mark c member with digit | rfl | rfl | rfl
    · exact not_isAlpha_of_isDigit digit
    · rfl
    · rfl
    · rfl
  obtain ⟨c, rfl, variant⟩ := exists_lettered same noLetter
  exact ⟨c, number, rfl, ⟨letter, listed, variant⟩, isSignedRun_of_isSignedDecimal signed ends⟩

/-- A label is marked as it is just when the word characters end with it. -/
theorem label_shape_iff {name : Text} (same : word.map Character.toUpper = ↑ 'N' :: name)
    (full : name ≠ []) (ascii : ∀ c ∈ word, c.toNat < 128)
    : Style.Shape previous .label word after ↔ IsRun Text.isWordCharacter word after := by
  obtain ⟨n, tail, rfl, isN, rfl⟩ := List.map_eq_cons_iff.mp same
  have variant : isVariantOf 'N' n = true := isN ▸ isVariantOf_toUpper n
  have letter := isAlpha_of_isVariantOf (ascii n List.mem_cons_self) rfl variant
  constructor
  · rintro ⟨first, rest, parts, -, full⟩
    obtain ⟨rfl, rfl⟩ := List.cons.inj parts
    exact ⟨List.forall_mem_cons.mpr ⟨isWordCharacter_of_isAlpha letter, full.2.all⟩, full.2.stops⟩
  · rintro ⟨all, stops⟩
    refine ⟨n, tail, rfl, ⟨'N', List.mem_singleton_self _, variant⟩, ?_, ?_, stops⟩
    · simpa using full
    · exact (List.forall_mem_cons.mp all).2

/-- And so is a jump. -/
theorem jump_shape_iff {target : Text}
    (same : word.map Character.toUpper = Rule.jumpKeyword ++ target)
    (ascii : ∀ c ∈ word, c.toNat < 128)
    : Style.Shape previous .jump word after ↔ IsRun Text.isWordCharacter word after := by
  obtain ⟨keyword, tail, rfl, isKeyword, -⟩ := List.map_eq_append_iff.mp same
  have spells : Spells Rule.jumpKeyword keyword := isKeyword ▸ spells_map_toUpper keyword
  have letters := spells.isAlpha (by decide) (List.forall_mem_append.mp ascii).1
  constructor
  · rintro ⟨otherKeyword, otherTail, parts, otherSpells, isRun⟩
    obtain ⟨rfl, rfl⟩ :=
      List.append_inj parts (spells.length_eq.symm.trans otherSpells.length_eq)
    exact ⟨List.forall_mem_append.mpr
      ⟨fun c member => isWordCharacter_of_isAlpha (letters c member), isRun.all⟩, isRun.stops⟩
  · rintro ⟨all, stops⟩
    exact ⟨keyword, tail, rfl, spells, (List.forall_mem_append.mp all).2, stops⟩

/-- A condition is marked just when it stands apart from what is before it. -/
theorem conditional_shape_iff (same : word.map Character.toUpper = (['I', 'F'] : Text))
    (ascii : ∀ c ∈ word ++ after, c.toNat < 128) (ends : EndsBefore word after)
    : Style.Shape previous .conditional word after ↔ isWordCharacter? previous = false := by
  obtain ⟨asciiWord, asciiAfter⟩ := List.forall_mem_append.mp ascii
  have spells : Spells ['I', 'F'] word := same ▸ spells_map_toUpper word
  have full : word ≠ [] := by
    rintro rfl
    cases same
  have last := List.getLast?_eq_some_getLast full
  have letter := spells.isAlpha (by decide) asciiWord _ (List.getLast_mem full)
  have stops : isWordCharacter? after.head? = false := by
    cases next : after.head? with
    | none => rfl
    | some d => exact ends.not_isWordCharacter last letter asciiAfter d next
  exact ⟨fun shape => shape.2.1, fun apart => ⟨spells, apart, stops⟩⟩

end Kinds

/-- A word has the shape of its kind's style; but labels and jumps have it only if they are made of
word characters and the next character is none, and conditions only if they stand apart.
-/
theorem shape_iff_of_style? {style : Style} {previous : Option Character} {word after : Text}
    (full : word ≠ []) (ascii : ∀ c ∈ word ++ after, c.toNat < 128)
    (ends : EndsBefore word after) (kind : (classify word).style? = some style)
    : style.Shape previous word after
      ↔ (style ∈ [.label, .jump] → IsRun Text.isWordCharacter word after)
        ∧ (style = .conditional → isWordCharacter? previous = false) := by
  obtain ⟨asciiWord, asciiAfter⟩ := List.forall_mem_append.mp ascii
  have numberEnds := ends.not_isNumberMark full asciiAfter
  have has := isTokenOf_classify word
  rw [Text.upper_of_ascii asciiWord] at has
  generalize classify word = token at kind has
  cases has with
  | unfitting none => cases kind
  | fitting rule fits decides =>
      cases rule with
      | command =>
          obtain ⟨letter, digits, same, known, areDigits⟩ := fits
          obtain rfl : Style.code = style := Option.some.inj kind
          have listed : letter ∈ (['G', 'M'] : Text) := by simpa using known
          exact iff_of_true (isLettered_of_isDigits same listed areDigits numberEnds) (by simp)
      | parameter =>
          obtain ⟨letter, number, same, known, signed⟩ := fits
          obtain rfl : Style.parameter = style := Option.some.inj kind
          exact iff_of_true (isLettered_of_isSignedDecimal same known signed numberEnds) (by simp)
      | label =>
          obtain ⟨name, same, isName⟩ := fits
          obtain rfl : Style.label = style := Option.some.inj kind
          simpa using label_shape_iff same isName.1 asciiWord
      | conditional =>
          obtain rfl : Style.conditional = style := Option.some.inj kind
          simpa using conditional_shape_iff fits ascii ends
      | jump =>
          obtain ⟨target, same, -⟩ := fits
          obtain rfl : Style.jump = style := Option.some.inj kind
          simpa using jump_shape_iff same asciiWord
      | looseJump =>
          obtain ⟨c, rest, same, -⟩ := fits
          obtain rfl : Style.jump = style := Option.some.inj kind
          simpa using jump_shape_iff same asciiWord
      | indexedVariable =>
          obtain ⟨number, same, areDigits⟩ := fits
          obtain rfl : Style.indexedVariable = style := Option.some.inj kind
          have shape := isLettered_of_isDigits same (List.mem_singleton_self _) areDigits numberEnds
          exact iff_of_true shape (by simp)
      | symbol => cases kind

-----------------------------------------------------------------------------------------
-- Shapes in symbols
-----------------------------------------------------------------------------------------

theorem capitalOf_of_ascii {c : Character} (ascii : c.toNat < 128)
    : capitalOf c = c.toUpper := by
  unfold capitalOf
  split
  case h_5 => rfl
  all_goals exact absurd ascii (by decide)

theorem isWordCharacter_toUpper (c : Character)
    : Text.isWordCharacter c.toUpper = Text.isWordCharacter c := by
  cases letter : c.isAlpha with
  | true =>
      have capital : c.toUpper.isAlpha = true := by
        rw [Character.isAlpha_toUpper_eq_isAlpha, letter]
      rw [isWordCharacter_of_isAlpha letter, isWordCharacter_of_isAlpha capital]
  | false => rw [toUpper_of_not_isAlpha letter]

/-- Beginnings tell their style in either case. -/
theorem ofBeginning_toUpper {c d : Character} (ascii : c.toNat < 128) (otherAscii : d.toNat < 128)
    : Style.ofBeginning c.toUpper d.toUpper = Style.ofBeginning c d := by
  have capital {e : Character} (ascii : e.toNat < 128) : capitalOf e.toUpper = capitalOf e := by
    have small := (Character.toNat_toUpper_le e).trans_lt ascii
    rw [capitalOf_of_ascii ascii, capitalOf_of_ascii small, Character.toUpper_toUpper_eq_toUpper]
  have digit : Text.isDecimalDigit d.toUpper = Text.isDecimalDigit d :=
    apply_toUpper (fun _ => isDecimalDigit_of_isAlpha) d
  have mark : isNumberMark d.toUpper = isNumberMark d :=
    apply_toUpper (fun _ => isNumberMark_of_isAlpha) d
  simp only [Style.ofBeginning, capital ascii, capital otherAscii, digit,
    isWordCharacter_toUpper, mark]

/-- What a symbol ends with begins no word if no number goes on behind it. -/
theorem ofBeginning_last_of_symbol {text : Text} (known : text ∈ symbols) {c d : Character}
    (last : text.getLast? = some (capitalOf c)) (mark : isNumberMark d = false)
    : Style.ofBeginning c d = none := by
  have capital : capitalOf c ∉ (['G', 'M', 'N', '#', 'I'] : Text) := by
    have checked
        : (symbols.all fun text =>
            text.getLast?.all fun capital =>
              !(['G', 'M', 'N', '#', 'I'] : Text).contains capital) = true := by
      decide
    simpa [last] using List.all_eq_true.mp checked text known
  simp only [List.mem_cons, List.not_mem_nil, or_false, not_or] at capital
  unfold Style.ofBeginning
  split <;> simp_all

/-- Other symbols are at most two characters, which begin no word to be marked. -/
theorem symbol_pair {text : Text} (known : text ∈ symbols) (noLabel : ¬Rule.label.Fits text)
    (other : text ≠ (['A', 'N', 'D'] : Text))
    : text.length ≤ 2 ∧ ∀ c d, text = [c, d] → Style.ofBeginning c d = none := by
  have notNe : text ≠ (['N', 'E'] : Text) := by
    rintro rfl
    exact noLabel ⟨['E'], rfl, by simp [IsName]⟩
  have checked : (symbols.all fun text =>
      text == (['N', 'E'] : Text)
      || text == (['A', 'N', 'D'] : Text)
      || (decide (text.length ≤ 2)
        && (text.zip text.tail).all fun pair => (Style.ofBeginning pair.1 pair.2).isNone))
      = true := by
    decide
  have here := List.all_eq_true.mp checked text known
  simp only [Bool.or_eq_true, beq_iff_eq, notNe, other, false_or, Bool.and_eq_true,
    decide_eq_true_eq] at here
  refine ⟨here.1, ?_⟩
  rintro c d rfl
  simpa using here.2

/-- A word that is a symbol has a part with the shape of a word to be marked only if it is AND. -/
theorem forall_not_wordBegins_iff_of_symbol {before word after text : Text} (full : word ≠ [])
    (ascii : ∀ c ∈ word ++ after, c.toNat < 128) (ends : EndsBefore word after)
    (kind : classify word = .symbol text)
    : (∀ front back,
        word = front ++ back
        → back ≠ []
        → ¬WordBegins (before ++ front).getLast? (back ++ after))
      ↔ text ≠ (['A', 'N', 'D'] : Text) := by
  obtain ⟨asciiWord, asciiAfter⟩ := List.forall_mem_append.mp ascii
  have numberEnds := ends.not_isNumberMark full asciiAfter
  obtain ⟨same, known, noLabel⟩ : text = word.map Character.toUpper
      ∧ text ∈ symbols
      ∧ ¬Rule.label.Fits text := by
    have has := isTokenOf_classify word
    rw [Text.upper_of_ascii asciiWord] at has
    generalize classify word = token at kind has
    cases has with
    | unfitting none => cases kind
    | fitting rule fits decides =>
        cases rule <;> cases kind
        exact ⟨rfl, fits, decides rfl⟩
  constructor
  · rintro none rfl
    -- The label begins with the second letter.
    obtain ⟨a, _, rfl, -, others⟩ := List.map_eq_cons_iff.mp same.symm
    obtain ⟨n, _, rfl, isN, others⟩ := List.map_eq_cons_iff.mp others
    obtain ⟨d, _, rfl, isD, others⟩ := List.map_eq_cons_iff.mp others
    obtain rfl := List.map_eq_nil_iff.mp others
    have variant : isVariantOf 'N' n = true := isN ▸ isVariantOf_toUpper n
    have letter : d.isAlpha = true := by
      rw [← Character.isAlpha_toUpper_eq_isAlpha, isD]
      rfl
    obtain ⟨run, ending, continued, isRun⟩ :=
      IsRun.exists_eq_append Text.isWordCharacter (d :: after)
    have width := isRun.length_lt (continued.symm.trans (List.nil_append _).symm) (by simp)
      (isWordCharacter_of_isAlpha letter)
    obtain ⟨style, shape⟩ := exists_shape_of_spells (before ++ [a]).getLast?
      (.inl (.cons variant .nil)) (List.ne_nil_of_length_pos width) isRun
    refine none [a] [n, d] rfl (by simp) ⟨style, [n] ++ run, ending, ?_, shape⟩
    rw [List.append_assoc, ← continued]
    rfl
  · rintro other front back rfl nonempty ⟨style, shaped, ending, continued, shape⟩
    obtain ⟨c, d, more, rfl, begins⟩ := shape.exists_beginning
    cases back with
    | nil => exact nonempty rfl
    | cons first rest =>
        obtain ⟨rfl, later⟩ := List.cons.inj continued
        have asciiFirst := asciiWord first (by simp)
        cases rest with
        | nil =>
            have last : text.getLast? = some (capitalOf first) := by
              simp [same, capitalOf_of_ascii asciiFirst]
            have next : d ∈ after.head? := by
              obtain rfl : after = _ := later
              rfl
            rw [ofBeginning_last_of_symbol known last (numberEnds d next)] at begins
            cases begins
        | cons second rest =>
            obtain ⟨rfl, -⟩ := List.cons.inj later
            have pair : text = [first.toUpper, second.toUpper] := by
              have short := (symbol_pair known noLabel other).1
              rw [same, List.length_map, List.length_append, List.length_cons,
                List.length_cons] at short
              obtain rfl := List.eq_nil_of_length_eq_zero (show front.length = 0 by omega)
              obtain rfl := List.eq_nil_of_length_eq_zero (show rest.length = 0 by omega)
              exact same
            have noStyle := (symbol_pair known noLabel other).2 _ _ pair
            rw [ofBeginning_toUpper asciiFirst (asciiWord second (by simp)), begins] at noStyle
            cases noStyle

end LatheGloss.Program
