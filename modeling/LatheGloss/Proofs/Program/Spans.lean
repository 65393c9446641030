import Mathlib
import LatheGloss.Proofs.Program.Comments
import LatheGloss.Proofs.Text.Classes

/-! Marks of a line. Words are marked from left to right, then comments, then the terminators at the
end. No word holds a parenthesis or a terminator, so a word lies inside a comment or apart from it,
and the mark that is seen in a column is the one that was meant for it.
-/

namespace LatheGloss.Program

namespace Span

/-- The column behind a span. -/
def stop (span : Span) : Nat :=
  span.start + span.length

def Holds (span : Span) (column : Nat) : Prop :=
  span.start ≤ column ∧ column < span.stop

instance (span : Span) (column : Nat) : Decidable (span.Holds column) :=
  inferInstanceAs (Decidable (_ ∧ _))

/-- All columns of a span are columns of the other. -/
def Inside (span other : Span) : Prop :=
  other.start ≤ span.start ∧ span.stop ≤ other.stop

/-- Spans without a column in common, wherever they lie. -/
def Apart (span other : Span) : Prop :=
  span.stop ≤ other.start ∨ other.stop ≤ span.start

end Span

/-- A keyword in either case. -/
abbrev Spells (keyword word : Text) : Prop :=
  List.Forall₂ (fun capital c => isVariantOf capital c = true) keyword word

/-- At least one character of a class, and none of it after them. -/
def IsFullRun (holds : Character → Bool) (run rest : Text) : Prop :=
  run ≠ [] ∧ IsRun holds run rest

/-- Digits and points with at most one sign before them. -/
def IsSignedRun (run rest : Text) : Prop :=
  ∃ sign number,
    run = sign ++ number
    ∧ sign ∈ ([[], ['+'], ['-']] : List Text)
    ∧ IsFullRun isDigitOrPoint number rest

/-- One of several letters in either case, and what follows it. -/
def IsLettered (capitals : Text) (Follows : Text → Text → Prop) (word rest : Text) : Prop :=
  ∃ letter tail,
    word = letter :: tail
    ∧ (∃ capital ∈ capitals, isVariantOf capital letter = true)
    ∧ Follows tail rest

/-- The shape of the words of a style between what stands before and what follows them. -/
def Style.Shape (previous : Option Character) : Style → Text → Text → Prop
  | .jump, word, rest =>
      ∃ keyword tail,
        word = keyword ++ tail
        ∧ Spells Rule.jumpKeyword keyword
        ∧ IsRun Text.isWordCharacter tail rest
  | .conditional, word, rest =>
      Spells ['I', 'F'] word
      ∧ isWordCharacter? previous = false
      ∧ isWordCharacter? rest.head? = false
  | .code, word, rest => IsLettered ['G', 'M'] (IsFullRun Text.isDecimalDigit) word rest
  | .label, word, rest => IsLettered ['N'] (IsFullRun Text.isWordCharacter) word rest
  | .indexedVariable, word, rest => IsLettered ['#'] (IsFullRun Text.isDecimalDigit) word rest
  | .parameter, word, rest => IsLettered parameterLetters IsSignedRun word rest
  | .comment, _, _ | .terminator, _, _ => False

/-- A text is read up to where a word of a shape ends. -/
def Reads (read? : Text → Option Nat) (Shape : Text → Text → Prop) : Prop :=
  ∀ text length,
    read? text = some length
    ↔ ∃ word rest, text = word ++ rest ∧ word.length = length ∧ Shape word rest

-----------------------------------------------------------------------------------------
-- Words are read by their shapes
-----------------------------------------------------------------------------------------

theorem afterKeyword?_eq_some_iff {keyword text rest : Text}
    : afterKeyword? keyword text = some rest
      ↔ ∃ word, text = word ++ rest ∧ Spells keyword word := by
  fun_induction afterKeyword? keyword text with
  | case1 text => simp [eq_comm]
  | case2 capital keyword c text spelled ih =>
      rw [ih]
      constructor
      · rintro ⟨word, rfl, spells⟩
        exact ⟨c :: word, rfl, .cons spelled spells⟩
      · rintro ⟨word, same, spells⟩
        cases spells with
        | cons here later =>
            obtain ⟨rfl, rfl⟩ := List.cons.inj same
            exact ⟨_, rfl, later⟩
  | case3 capital keyword c text other =>
      constructor
      · nofun
      · rintro ⟨word, same, spells⟩
        cases spells with
        | cons here later =>
            obtain ⟨rfl, rfl⟩ := List.cons.inj same
            exact absurd here other
  | case4 capital keyword =>
      constructor
      · nofun
      · rintro ⟨word, same, spells⟩
        cases spells with
        | cons here later => cases same

theorem runLength_append {holds : Character → Bool} {run rest : Text} (isRun : IsRun holds run rest)
    : runLength holds (run ++ rest) = run.length := by
  rw [runLength, isRun.takeWhile_append]

theorem reads_run? (holds : Character → Bool)
    : Reads (run? holds) (IsFullRun holds) := by
  intro text length
  constructor
  · intro read
    obtain ⟨run, rest, rfl, isRun⟩ := IsRun.exists_eq_append holds text
    simp only [run?, runLength_append isRun, Option.ite_none_left_eq_some,
      List.length_eq_zero_iff, Option.some.injEq] at read
    exact ⟨run, rest, rfl, read.2, read.1, isRun⟩
  · rintro ⟨run, rest, rfl, rfl, full, isRun⟩
    simp [run?, runLength_append isRun, full]

theorem reads_signedRun?
    : Reads signedRun? IsSignedRun := by
  intro text length
  constructor
  · intro read
    unfold signedRun? at read
    split at read
    · obtain ⟨width, found, rfl⟩ := Option.map_eq_some_iff.mp read
      obtain ⟨number, rest, rfl, rfl, full⟩ := (reads_run? _ _ _).mp found
      exact ⟨'+' :: number, rest, rfl, rfl, ['+'], number, rfl, by simp, full⟩
    · obtain ⟨width, found, rfl⟩ := Option.map_eq_some_iff.mp read
      obtain ⟨number, rest, rfl, rfl, full⟩ := (reads_run? _ _ _).mp found
      exact ⟨'-' :: number, rest, rfl, rfl, ['-'], number, rfl, by simp, full⟩
    · obtain ⟨number, rest, rfl, rfl, full⟩ := (reads_run? _ _ _).mp read
      exact ⟨number, rest, rfl, rfl, [], number, rfl, by simp, full⟩
  · rintro ⟨run, rest, rfl, rfl, sign, number, rfl, signed, full⟩
    have found := (reads_run? isDigitOrPoint _ _).mpr ⟨number, rest, rfl, rfl, full⟩
    simp only [List.mem_cons, List.not_mem_nil, or_false] at signed
    rcases signed with rfl | rfl | rfl
    · cases number with
      | nil => exact absurd rfl full.1
      | cons c more =>
          have first := full.2.all c List.mem_cons_self
          have noPlus : c ≠ '+' := by
            rintro rfl
            exact absurd first (by decide)
          have noMinus : c ≠ '-' := by
            rintro rfl
            exact absurd first (by decide)
          simpa [signedRun?, noPlus, noMinus] using found
    · simp [signedRun?, found]
    · simp [signedRun?, found]

theorem Reads.lettered {tail? : Text → Option Nat} {Follows : Text → Text → Prop}
    (reads : Reads tail? Follows) (capitals : Text)
    : Reads (lettered? capitals tail?) (IsLettered capitals Follows) := by
  intro text length
  constructor
  · intro read
    cases text with
    | nil => cases read
    | cons letter after =>
        obtain ⟨known, tailRead⟩ := Option.ite_none_right_eq_some.mp read
        obtain ⟨tailLength, found, rfl⟩ := Option.map_eq_some_iff.mp tailRead
        obtain ⟨tail, rest, rfl, rfl, follows⟩ := (reads _ _).mp found
        rw [List.any_eq_true] at known
        exact ⟨letter :: tail, rest, rfl, rfl, letter, tail, rfl, known, follows⟩
  · rintro ⟨word, rest, rfl, rfl, letter, tail, rfl, known, follows⟩
    have found := (reads (tail ++ rest) tail.length).mpr ⟨tail, rest, rfl, rfl, follows⟩
    simp [lettered?, found, known]

/-- What is marked with a style is what has the shape of the style. -/
theorem reads_wordLength? (previous : Option Character) (style : Style)
    : Reads (wordLength? previous · style) (style.Shape previous) := by
  intro text length
  cases style with
  | code => exact (reads_run? Text.isDecimalDigit).lettered ['G', 'M'] text length
  | parameter => exact reads_signedRun?.lettered parameterLetters text length
  | label => exact (reads_run? Text.isWordCharacter).lettered ['N'] text length
  | indexedVariable => exact (reads_run? Text.isDecimalDigit).lettered ['#'] text length
  | comment => simp [wordLength?, Style.Shape]
  | terminator => simp [wordLength?, Style.Shape]
  | jump =>
      constructor
      · intro read
        obtain ⟨after, spelled, rfl⟩ := Option.map_eq_some_iff.mp read
        obtain ⟨keyword, rfl, spells⟩ := afterKeyword?_eq_some_iff.mp spelled
        obtain ⟨tail, rest, rfl, isRun⟩ := IsRun.exists_eq_append Text.isWordCharacter after
        refine ⟨keyword ++ tail, rest, by simp, ?_, keyword, tail, rfl, spells, isRun⟩
        rw [runLength_append isRun, List.length_append, ← spells.length_eq]
        rfl
      · rintro ⟨word, rest, rfl, rfl, keyword, tail, rfl, spells, isRun⟩
        have spelled :=
          afterKeyword?_eq_some_iff.mpr ⟨keyword, List.append_assoc keyword tail rest, spells⟩
        dsimp only [wordLength?]
        rw [spelled, Option.map_some, runLength_append isRun, List.length_append,
          ← spells.length_eq]
        rfl
  | conditional =>
      constructor
      · intro read
        dsimp only [wordLength?] at read
        split at read
        · next rest spelled =>
            obtain ⟨word, rfl, spells⟩ := afterKeyword?_eq_some_iff.mp spelled
            obtain ⟨apart, same⟩ := Option.ite_none_left_eq_some.mp read
            cases same
            rw [Bool.or_eq_true, not_or, Bool.not_eq_true, Bool.not_eq_true] at apart
            exact ⟨word, rest, rfl, spells.length_eq.symm, spells, apart⟩
        · cases read
      · rintro ⟨word, rest, rfl, rfl, spells, before, after⟩
        have spelled : afterKeyword? ['I', 'F'] (word ++ rest) = some rest :=
          afterKeyword?_eq_some_iff.mpr ⟨word, rfl, spells⟩
        simp [wordLength?, spelled, before, after, ← spells.length_eq]

-----------------------------------------------------------------------------------------
-- What words are made of
-----------------------------------------------------------------------------------------

/-- Characters that are in no word that is marked: parentheses, the terminator and the blanks of
ASCII.
-/
def punctuation : Text :=
  [
    '(', ')', ';', ' ', '\t', '\n', '\x0b', '\x0c', '\r', '\x1c', '\x1d', '\x1e', '\x1f'
  ]

def isPunctuation (c : Character) : Bool :=
  punctuation.contains c

theorem isPunctuation_of_holds {holds : Character → Bool} (none : punctuation.any holds = false)
    {c : Character} (held : holds c = true)
    : isPunctuation c = false := by
  by_contra listed
  rw [Bool.not_eq_false] at listed
  exact List.any_eq_false.mp none c (List.contains_iff_mem.mp listed) held

/-- What counts as a letter or a sign in either case is no punctuation if that is none. -/
theorem isPunctuation_of_isVariantOf {capital c : Character} (plain : isPunctuation capital = false)
    (variant : isVariantOf capital c = true)
    : isPunctuation c = false := by
  have listed := List.contains_iff_mem.mp variant
  unfold variants at listed
  split at listed
  case h_4 =>
    simp only [List.mem_cons, List.not_mem_nil, or_false] at listed
    rcases listed with rfl | rfl
    · exact plain
    · cases letter : capital.isAlpha with
      | true =>
          rw [← Character.isAlpha_toLower_eq_isAlpha] at letter
          exact isPunctuation_of_holds (by decide) letter
      | false =>
          have small : capital.toLower = capital :=
            Character.toLower_eq_of_not_isUpper fun upper => by
              simp [Character.isAlpha, upper] at letter
          rwa [small]
  all_goals
    simp only [List.mem_cons, List.not_mem_nil, or_false] at listed
    rcases listed with rfl | rfl | rfl | rfl <;> decide

theorem isPunctuation_of_spells {keyword word : Text}
    (plain : keyword.any isPunctuation = false) (spells : Spells keyword word)
    : ∀ c ∈ word, isPunctuation c = false := by
  induction spells with
  | nil => simp
  | cons here later ih =>
      rw [List.any_cons, Bool.or_eq_false_iff] at plain
      exact List.forall_mem_cons.mpr ⟨isPunctuation_of_isVariantOf plain.1 here, ih plain.2⟩

theorem isPunctuation_of_isLettered {capitals word rest : Text} {Follows : Text → Text → Prop}
    (plain : capitals.any isPunctuation = false)
    (tailPlain : ∀ tail, Follows tail rest → ∀ c ∈ tail, isPunctuation c = false)
    (lettered : IsLettered capitals Follows word rest)
    : ∀ c ∈ word, isPunctuation c = false := by
  obtain ⟨letter, tail, rfl, ⟨capital, listed, variant⟩, follows⟩ := lettered
  have capitalPlain : isPunctuation capital = false := by
    simpa using List.any_eq_false.mp plain capital listed
  exact List.forall_mem_cons.mpr
    ⟨isPunctuation_of_isVariantOf capitalPlain variant, tailPlain tail follows⟩

/-- No word that is marked holds a parenthesis, a terminator or a blank of ASCII. -/
theorem Style.Shape.plain {style : Style} {previous : Option Character} {word rest : Text}
    (shape : style.Shape previous word rest)
    : ∀ c ∈ word, isPunctuation c = false := by
  have digits (tail : Text) (full : IsFullRun Text.isDecimalDigit tail rest)
      : ∀ c ∈ tail, isPunctuation c = false :=
    fun c member => isPunctuation_of_holds (by decide) (full.2.all c member)
  have wordCharacters (tail : Text) (isRun : IsRun Text.isWordCharacter tail rest)
      : ∀ c ∈ tail, isPunctuation c = false :=
    fun c member => isPunctuation_of_holds (by decide) (isRun.all c member)
  cases style with
  | jump =>
      obtain ⟨keyword, tail, rfl, spells, isRun⟩ := shape
      exact List.forall_mem_append.mpr
        ⟨isPunctuation_of_spells (by decide) spells, wordCharacters tail isRun⟩
  | conditional => exact isPunctuation_of_spells (by decide) shape.1
  | code => exact isPunctuation_of_isLettered (by decide) digits shape
  | label =>
      exact isPunctuation_of_isLettered (by decide) (fun tail full => wordCharacters tail full.2)
        shape
  | indexedVariable => exact isPunctuation_of_isLettered (by decide) digits shape
  | parameter =>
      refine isPunctuation_of_isLettered (by decide) ?_ shape
      rintro tail ⟨sign, number, rfl, signed, full⟩
      refine List.forall_mem_append.mpr ⟨?_, fun c member =>
        isPunctuation_of_holds (by decide) (full.2.all c member)⟩
      simp only [List.mem_cons, List.not_mem_nil, or_false] at signed
      rcases signed with rfl | rfl | rfl <;> simp [isPunctuation, punctuation]
  | comment => exact shape.elim
  | terminator => exact shape.elim

theorem Style.Shape.ne_nil {style : Style} {previous : Option Character} {word rest : Text}
    (shape : style.Shape previous word rest)
    : word ≠ [] := by
  rintro rfl
  cases style with
  | jump =>
      obtain ⟨keyword, tail, same, spells, -⟩ := shape
      rw [(List.append_eq_nil_iff.mp same.symm).1] at spells
      cases spells
  | conditional => cases shape.1
  | code | label | indexedVariable | parameter =>
      obtain ⟨letter, tail, same, -⟩ := shape
      cases same
  | comment | terminator => exact shape

-----------------------------------------------------------------------------------------
-- Words from left to right
-----------------------------------------------------------------------------------------

/-- A word that is found has the shape of its style. -/
theorem exists_shape_of_wordAt? {previous : Option Character} {text : Text} {style : Style}
    {length : Nat}
    (found : wordAt? previous text = some (style, length))
    : style ∈ wordStyles
      ∧ ∃ word rest,
          text = word ++ rest
          ∧ word.length = length
          ∧ style.Shape previous word rest := by
  obtain ⟨known, listed, here⟩ := List.exists_of_findSome?_eq_some found
  obtain ⟨width, read, same⟩ := Option.map_eq_some_iff.mp here
  cases same
  exact ⟨listed, (reads_wordLength? previous style text length).mp read⟩

/-- A span marks a word of its style in a text that begins at a column. -/
def Span.MarksFrom (span : Span) (column : Nat) (previous : Option Character) (text : Text)
    : Prop :=
  ∃ before word rest,
    text = before ++ (word ++ rest)
    ∧ span.start = column + before.length
    ∧ span.length = word.length
    ∧ span.style.Shape (before.getLast?.or previous) word rest

theorem getLast?_cons_or (c : Character) (text : Text) (previous : Option Character)
    : (c :: text).getLast?.or previous = text.getLast?.or (some c) := by
  rw [List.getLast?_cons, Option.some_or]
  cases text.getLast? <;> rfl

theorem Span.MarksFrom.cons {span : Span} {column : Nat} {c : Character} {rest : Text}
    (marks : span.MarksFrom (column + 1) (some c) rest) (previous : Option Character)
    : span.MarksFrom column previous (c :: rest) := by
  obtain ⟨before, word, after, rfl, start, length, shape⟩ := marks
  refine ⟨c :: before, word, after, rfl, ?_, length, ?_⟩
  · rw [start, List.length_cons]
    omega
  · rwa [getLast?_cons_or]

/-- Every span that is found marks a word, by induction over the scan. -/
theorem marksFrom_of_mem {column : Nat} {previous : Option Character} {left : Nat} {text : Text}
    {span : Span} (member : span ∈ wordSpansFrom column previous left text)
    : span.MarksFrom column previous text := by
  fun_induction wordSpansFrom column previous left text with
  | case1 => cases member
  | case2 column previous c rest left ih => exact (ih member).cons previous
  | case3 column previous c rest style length found ih =>
      rcases List.mem_cons.mp member with rfl | later
      · obtain ⟨-, word, after, same, width, shape⟩ := exists_shape_of_wordAt? found
        exact ⟨[], word, after, same, rfl, width.symm, shape⟩
      · exact (ih later).cons previous
  | case4 column previous c rest none ih => exact (ih member).cons previous

/-- No word begins while columns are left of another one, by induction over the scan. -/
theorem le_start_of_mem {column : Nat} {previous : Option Character} {left : Nat} {text : Text}
    {span : Span} (member : span ∈ wordSpansFrom column previous left text)
    : column + left ≤ span.start := by
  fun_induction wordSpansFrom column previous left text with
  | case1 => cases member
  | case2 column previous c rest left ih =>
      have := ih member
      omega
  | case3 column previous c rest style length found ih =>
      rcases List.mem_cons.mp member with rfl | later
      · exact Nat.le_refl column
      · have := ih later
        omega
  | case4 column previous c rest none ih =>
      have := ih member
      omega

theorem pairwise_wordSpansFrom (column : Nat) (previous : Option Character) (left : Nat)
    (text : Text)
    : (wordSpansFrom column previous left text).Pairwise fun left right =>
        left.stop ≤ right.start := by
  fun_induction wordSpansFrom column previous left text with
  | case1 => exact .nil
  | case2 column previous c rest left ih => exact ih
  | case3 column previous c rest style length found ih =>
      refine List.pairwise_cons.mpr ⟨fun span later => ?_, ih⟩
      have behind := le_start_of_mem later
      rw [Span.stop]
      dsimp only
      omega
  | case4 column previous c rest none ih => exact ih

-----------------------------------------------------------------------------------------
-- What stands in the columns of a mark
-----------------------------------------------------------------------------------------

/-- Spans with at least one column each, all of them columns of a line of some width, and each
behind the one before.
-/
structure AreOrderly (spans : List Span) (width : Nat) : Prop where
  nonempty : ∀ span ∈ spans, 0 < span.length
  within : ∀ span ∈ spans, span.stop ≤ width
  ordered : spans.Pairwise fun left right => left.stop ≤ right.start

theorem AreOrderly.nodup {spans : List Span} {width : Nat} (orderly : AreOrderly spans width)
    : spans.Nodup := by
  refine orderly.ordered.imp_of_mem ?_
  rintro left right member - before rfl
  have := orderly.nonempty left member
  rw [Span.stop] at before
  omega

theorem areOrderly_wordSpans (source : Text)
    : AreOrderly (wordSpans source) source.length := by
  refine ⟨?_, ?_, pairwise_wordSpansFrom 0 none 0 source⟩
  · intro span member
    obtain ⟨before, word, rest, -, -, length, shape⟩ := marksFrom_of_mem member
    rw [length]
    exact List.length_pos_of_ne_nil shape.ne_nil
  · intro span member
    obtain ⟨before, word, rest, rfl, start, length, -⟩ := marksFrom_of_mem member
    simp only [Span.stop, start, length, List.length_append]
    omega

/-- Where a word is marked, there is no punctuation. -/
theorem plain_of_mem_wordSpans {source : Text} {span : Span} (member : span ∈ wordSpans source)
    {column : Nat} (held : span.Holds column) {c : Character} (here : source[column]? = some c)
    : isPunctuation c = false := by
  obtain ⟨before, word, rest, rfl, start, length, shape⟩ := marksFrom_of_mem member
  obtain ⟨reached, inside⟩ := held
  rw [Span.stop, start, length] at inside
  rw [start] at reached
  rw [List.getElem?_append_right (by omega), List.getElem?_append_left (by omega)] at here
  exact shape.plain c (List.mem_of_getElem? here)

theorem style_of_mem_commentSpans {source : Text} {span : Span}
    (member : span ∈ commentSpans source)
    : span.style = .comment := by
  obtain ⟨mark, -, rfl⟩ := List.mem_map.mp member
  rfl

theorem isCommentAt_of_mem_commentSpans {source : Text} {span : Span}
    (member : span ∈ commentSpans source)
    : IsCommentAt source (span.start, span.length) := by
  obtain ⟨mark, listed, rfl⟩ := List.mem_map.mp member
  have stands : IsCommentAt ([] ++ (pieces source).flatMap Piece.source) mark :=
    isCommentAt_of_mem (isCommentOr_of_mem_pieces source) listed
  rwa [List.nil_append, flatMap_source_pieces] at stands

/-- A comment begins with an opening and ends with a closing parenthesis. -/
theorem parentheses_of_mem_commentSpans {source : Text} {span : Span}
    (member : span ∈ commentSpans source)
    : 2 ≤ span.length
      ∧ span.stop ≤ source.length
      ∧ source[span.start]? = some ('(' : Character)
      ∧ source[span.stop - 1]? = some (')' : Character) := by
  obtain ⟨body, -, -, length, occurs⟩ := isCommentAt_of_mem_commentSpans member
  dsimp only at length occurs
  have bound := occurs.stop_le (by simp)
  obtain ⟨after, same⟩ := occurs
  have shown (place : Nat)
      : source[span.start + place]? = (↑ '(' :: body ++ ([')'] : Text) ++ after)[place]? := by
    rw [same, List.getElem?_drop]
  have last : span.stop - 1 = span.start + (body.length + 1) := by
    rw [Span.stop, length]
    omega
  refine ⟨by omega, ?_, ?_, ?_⟩
  · simpa [Span.stop, length] using bound
  · simpa using shown 0
  · rw [last, shown]
    simp

theorem areOrderly_commentSpans (source : Text)
    : AreOrderly (commentSpans source) source.length := by
  refine ⟨?_, ?_, ?_⟩
  · intro span member
    have := (parentheses_of_mem_commentSpans member).1
    omega
  · exact fun span member => (parentheses_of_mem_commentSpans member).2.1
  · exact List.pairwise_map.mpr (pairwise_commentColumnsFrom 0 (pieces source))

/-- A word that shares a column with a comment does not reach to either of its parentheses. -/
theorem inside_or_apart {source : Text} {word comment : Span} (isWord : word ∈ wordSpans source)
    (isComment : comment ∈ commentSpans source)
    : word.Inside comment ∨ word.Apart comment := by
  obtain ⟨width, -, opening, closing⟩ := parentheses_of_mem_commentSpans isComment
  have noOpening : ¬word.Holds comment.start := fun held =>
    absurd (plain_of_mem_wordSpans isWord held opening) (by decide)
  have noClosing : ¬word.Holds (comment.stop - 1) := fun held =>
    absurd (plain_of_mem_wordSpans isWord held closing) (by decide)
  simp only [Span.Holds, Span.Inside, Span.Apart, Span.stop] at *
  omega

-----------------------------------------------------------------------------------------
-- Terminators
-----------------------------------------------------------------------------------------

/-- A text is cut before its longest ending of characters to drop. -/
theorem trimEnd_append {drop : Character → Bool} {kept trail : Text}
    (dropped : ∀ c ∈ trail, drop c = true) (stays : ∀ c ∈ kept.getLast?, drop c = false)
    : Text.trimEnd drop (kept ++ trail) = kept :=
  (rdropWhile_append_of_pos kept dropped).trans (rdropWhile_eq_self stays)

/-- The terminators at the end of a line, with what stands before and after them. -/
structure EndsIn (source before : Text) (count : Nat) (after : Text) : Prop where
  parts : source = before ++ List.replicate count (';' : Character) ++ after
  blank : ∀ c ∈ after, Text.isBlank c = true
  whole : ∀ c ∈ before.getLast?, c ≠ ';'
  visible : count = 0 → ∀ c ∈ before.getLast?, Text.isBlank c = false

theorem exists_endsIn (source : Text)
    : ∃ before count after, EndsIn source before count after := by
  obtain ⟨after, whole, blank, visible⟩ := exists_ending Text.isBlank source
  generalize source.rdropWhile Text.isBlank = stripped at whole visible
  obtain ⟨before, count, rfl, stays⟩ := exists_copies_ending ';' stripped
  refine ⟨before, count, after, whole, blank, stays, ?_⟩
  rintro rfl
  simpa using visible

namespace EndsIn

variable {source before after : Text} {count : Nat}

theorem trimEnd_eq (ends : EndsIn source before count after)
    : source.trimEnd Text.isBlank = before ++ List.replicate count (';' : Character) := by
  rw [ends.parts]
  refine trimEnd_append ends.blank ?_
  cases count with
  | zero => simpa using ends.visible rfl
  | succ count =>
      intro c last
      rw [List.getLast?_append_of_ne_nil _ (by simp)] at last
      rw [List.eq_of_mem_replicate (List.mem_of_getLast? last)]
      rfl

theorem terminatorSpans_eq (ends : EndsIn source before count after)
    : terminatorSpans source
      = if count = 0 then [] else [⟨before.length, count, .terminator⟩] := by
  have isRun : IsRun (· == ↑ ';') (List.replicate count (';' : Character)) before.reverse := by
    refine ⟨fun c member => beq_iff_eq.mpr (List.eq_of_mem_replicate member), fun c first => ?_⟩
    rw [List.head?_reverse] at first
    exact beq_eq_false_iff_ne.mpr (ends.whole c first)
  have counted
      : runLength (· == ↑ ';') (before ++ List.replicate count (';' : Character)).reverse
        = count := by
    rw [List.reverse_append, List.reverse_replicate, runLength_append isRun,
      List.length_replicate]
  simp only [terminatorSpans, ends.trimEnd_eq, counted, List.length_append,
    List.length_replicate, Nat.add_sub_cancel]

/-- There are terminators at the end just when the last visible character is one. -/
theorem count_ne_zero_iff (ends : EndsIn source before count after)
    : count ≠ 0
      ↔ ∃ front blanks,
          source = front ++ ↑ ';' :: blanks ∧ ∀ c ∈ blanks, Text.isBlank c = true := by
  constructor
  · intro some
    obtain ⟨fewer, rfl⟩ := Nat.exists_eq_succ_of_ne_zero some
    refine ⟨before ++ List.replicate fewer (';' : Character), after, ?_, ends.blank⟩
    rw [ends.parts, List.replicate_succ']
    simp
  · rintro ⟨front, blanks, same, blank⟩ none
    have stripped : source.trimEnd Text.isBlank = front ++ ([';'] : Text) := by
      rw [same, List.append_cons]
      refine trimEnd_append blank fun c last => ?_
      obtain rfl : ';' = c := by simpa using last
      rfl
    rw [ends.trimEnd_eq, none, List.replicate_zero, List.append_nil] at stripped
    exact ends.whole ';' (by simp [stripped]) rfl

theorem terminator_of_lt (ends : EndsIn source before count after) {column : Nat}
    (reached : before.length ≤ column) (inside : column < before.length + count)
    : source[column]? = some (';' : Character) := by
  rw [ends.parts, List.append_assoc, List.getElem?_append_right reached,
    List.getElem?_append_left (by rw [List.length_replicate]; omega), List.getElem?_replicate,
    if_pos (by omega)]

theorem isBlank_of_le (ends : EndsIn source before count after) {column : Nat}
    (beyond : before.length + count ≤ column) {c : Character} (here : source[column]? = some c)
    : Text.isBlank c = true := by
  have width
      : (before ++ List.replicate count (';' : Character)).length = before.length + count := by
    simp
  rw [ends.parts, List.getElem?_append_right (by omega)] at here
  exact ends.blank c (List.mem_of_getElem? here)

/-- Terminators lie apart from words, which hold none. -/
theorem apart_word (ends : EndsIn source before count after) (present : count ≠ 0) {word : Span}
    (member : word ∈ wordSpans source)
    : Span.Apart ⟨before.length, count, .terminator⟩ word := by
  by_contra overlap
  have full := (areOrderly_wordSpans source).nonempty word member
  simp only [Span.Apart, Span.stop] at overlap
  have terminator : source[max before.length word.start]? = some (';' : Character) :=
    ends.terminator_of_lt (by omega) (by omega)
  have held : word.Holds (max before.length word.start) := by
    simp only [Span.Holds, Span.stop]
    omega
  exact absurd (plain_of_mem_wordSpans member held terminator) (by decide)

/-- Terminators lie apart from comments, which end in something visible that is no terminator. -/
theorem apart_comment (ends : EndsIn source before count after) {comment : Span}
    (member : comment ∈ commentSpans source)
    : Span.Apart ⟨before.length, count, .terminator⟩ comment := by
  obtain ⟨width, -, -, closing⟩ := parentheses_of_mem_commentSpans member
  by_contra overlap
  simp only [Span.Apart, Span.stop] at overlap closing
  by_cases inside : comment.start + comment.length - 1 < before.length + count
  · rw [ends.terminator_of_lt (by omega) inside] at closing
    cases closing
  · exact absurd (ends.isBlank_of_le (by omega) closing) (by decide)

end EndsIn

-----------------------------------------------------------------------------------------
-- What is seen
-----------------------------------------------------------------------------------------

/-- The style that is seen in a column is that of the last mark on it. -/
def shownStyle? (marks : List Span) (column : Nat) : Option Style :=
  (marks.filter (·.Holds column)).getLast?.map (·.style)

theorem shownStyle?_append_of_apart {marks later : List Span} {column : Nat}
    (apart : ∀ span ∈ later, ¬span.Holds column)
    : shownStyle? (marks ++ later) column = shownStyle? marks column := by
  have none : later.filter (·.Holds column) = [] :=
    List.filter_eq_nil_iff.mpr fun span member => by simpa using apart span member
  rw [shownStyle?, List.filter_append, none, List.append_nil]
  rfl

/-- A style that all later marks on a column share is seen there. -/
theorem shownStyle?_append_of_mem (marks : List Span) {later : List Span} {column : Nat}
    {style : Style} {span : Span} (member : span ∈ later) (held : span.Holds column)
    (same : ∀ other ∈ later, other.Holds column → other.style = style)
    : shownStyle? (marks ++ later) column = some style := by
  have listed : span ∈ later.filter (·.Holds column) :=
    List.mem_filter.mpr ⟨member, decide_eq_true held⟩
  have some : later.filter (·.Holds column) ≠ [] := List.ne_nil_of_mem listed
  rw [shownStyle?, List.filter_append, List.getLast?_append_of_ne_nil _ some,
    List.getLast?_eq_some_getLast some, Option.map_some]
  obtain ⟨known, holds⟩ := List.mem_filter.mp (List.getLast_mem some)
  rw [same _ known (of_decide_eq_true holds)]

theorem Span.Apart.not_holds {span other : Span} (apart : span.Apart other) {column : Nat}
    (held : other.Holds column)
    : ¬span.Holds column := by
  intro both
  rcases apart with earlier | later
  · exact absurd (both.2.trans_le earlier) (Nat.not_lt.mpr held.1)
  · exact absurd (held.2.trans_le later) (Nat.not_lt.mpr both.1)

instance : Std.Symm Span.Apart where
  symm _ _ apart := apart.symm

theorem AreOrderly.eq_of_holds {spans : List Span} {width : Nat} (orderly : AreOrderly spans width)
    {span other : Span} (member : span ∈ spans) (otherMember : other ∈ spans) {column : Nat}
    (held : span.Holds column) (otherHeld : other.Holds column)
    : span = other := by
  by_contra differ
  have apart : spans.Pairwise Span.Apart := orderly.ordered.imp Or.inl
  exact (apart.forall member otherMember differ).not_holds otherHeld held

/-- The marks of a line are those of its words, then those of its comments, both from left to right
without a column in common, and then one for the terminators behind which there are only blanks, if
there are any. No word reaches over a border of a comment, and terminators are apart from both; so
every column of a comment is seen as such, be it a comment of its own or what looks like one inside
another, and a word that is in no comment is seen in all of its columns.
-/
theorem highlight_layers (source : Text)
    : let words := wordSpans source
      let comments := commentSpans source
      let terminators := terminatorSpans source
      highlight source = words ++ comments ++ terminators
      ∧ (∀ word ∈ words, word.style ∈ wordStyles)
      ∧ AreOrderly words source.length
      ∧ (∀ comment ∈ comments,
          comment.style = .comment ∧ IsCommentAt source (comment.start, comment.length))
      ∧ AreOrderly comments source.length
      ∧ (terminators ≠ []
        ↔ ∃ front blanks,
            source = front ++ ↑ ';' :: blanks ∧ ∀ c ∈ blanks, Text.isBlank c = true)
      ∧ (terminators = []
        ∨ ∃ before count after,
            terminators = [⟨before.length, count, .terminator⟩]
            ∧ 0 < count
            ∧ EndsIn source before count after)
      ∧ (∀ word ∈ words,
          (∃ comment ∈ comments, word.Inside comment) ∨ ∀ comment ∈ comments, word.Apart comment)
      ∧ (∀ terminator ∈ terminators, ∀ span ∈ words ++ comments, terminator.Apart span)
      ∧ (∀ comment ∈ comments, ∀ column,
          comment.Holds column → shownStyle? (highlight source) column = some .comment)
      ∧ (∀ mark,
          IsCommentAt source mark
          → ∀ column,
              mark.1 ≤ column
              → column < mark.1 + mark.2
              → shownStyle? (highlight source) column = some .comment)
      ∧ ∀ word ∈ words,
          (∀ comment ∈ comments, word.Apart comment)
          → ∀ column,
              word.Holds column → shownStyle? (highlight source) column = some word.style := by
  intro words comments terminators
  obtain ⟨before, count, after, ends⟩ := exists_endsIn source
  have found : terminators = if count = 0 then [] else [⟨before.length, count, .terminator⟩] :=
    ends.terminatorSpans_eq
  have apart : ∀ terminator ∈ terminators, ∀ span ∈ words ++ comments, terminator.Apart span := by
    intro terminator member span known
    rw [found, List.mem_ite_nil_left, List.mem_singleton] at member
    obtain ⟨present, rfl⟩ := member
    rcases List.mem_append.mp known with isWord | isComment
    · exact ends.apart_word present isWord
    · exact ends.apart_comment isComment
  have seen : ∀ comment ∈ comments, ∀ column,
      comment.Holds column → shownStyle? (highlight source) column = some .comment := by
    intro comment member column held
    have noTerminator : ∀ terminator ∈ terminators, ¬terminator.Holds column :=
      fun terminator known =>
        (apart terminator known comment (List.mem_append_right words member)).not_holds held
    rw [highlight, shownStyle?_append_of_apart noTerminator]
    exact shownStyle?_append_of_mem words member held fun _ known _ =>
      style_of_mem_commentSpans known
  refine ⟨rfl, fun word => style_of_mem_wordSpansFrom, areOrderly_wordSpans source, ?_,
    areOrderly_commentSpans source, ?_, ?_, ?_, apart, seen, ?_, ?_⟩
  · intro comment member
    exact ⟨style_of_mem_commentSpans member, isCommentAt_of_mem_commentSpans member⟩
  · rw [← ends.count_ne_zero_iff, found]
    simp
  · by_cases absent : count = 0
    · exact .inl (by rw [found, if_pos absent])
    · exact .inr ⟨before, count, after, by rw [found, if_neg absent], by omega, ends⟩
  · intro word member
    by_cases covered : ∃ comment ∈ comments, word.Inside comment
    · exact .inl covered
    · refine .inr fun comment isComment => ?_
      exact (inside_or_apart member isComment).resolve_left fun inside =>
        covered ⟨comment, isComment, inside⟩
  · intro mark comment column reached inside
    obtain ⟨around, member, starts, stops⟩ := exists_around_of_isCommentAt comment
    refine seen ⟨around.1, around.2, .comment⟩ (List.mem_map_of_mem member) column ?_
    exact ⟨starts.trans reached, inside.trans_le stops⟩
  · intro word member alone column held
    have noTerminator : ∀ terminator ∈ terminators, ¬terminator.Holds column :=
      fun terminator known =>
        (apart terminator known word (List.mem_append_left comments member)).not_holds held
    have noComment : ∀ comment ∈ comments, ¬comment.Holds column :=
      fun comment known => Span.Apart.not_holds (symm (alone comment known)) held
    rw [highlight, shownStyle?_append_of_apart noTerminator, shownStyle?_append_of_apart noComment]
    refine shownStyle?_append_of_mem [] member held ?_
    intro other known otherHeld
    rw [(areOrderly_wordSpans source).eq_of_holds member known held otherHeld]

-- A comment opens at its first parenthesis and holds a word and a terminator.
example
    : highlight "G1 ((X2;) N3);; "
      = [
          ⟨0, 2, .code⟩, ⟨5, 2, .parameter⟩, ⟨10, 2, .label⟩, ⟨3, 6, .comment⟩, ⟨13, 2, .terminator⟩
        ] :=
  by decide +kernel

end LatheGloss.Program
