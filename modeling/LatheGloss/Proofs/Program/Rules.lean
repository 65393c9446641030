import Mathlib
import LatheGloss.Proofs.Program.Gloss
import LatheGloss.Proofs.Text.Classes

/-! Rules that recognise words. Each rule has a shape of its own, and the first two characters of a
word tell which shape it can have; so the rules can be tried in any order, except that a symbol that
is also a label is a label.
-/

namespace LatheGloss.Program

/-- At least one digit and nothing else. -/
def IsDigits (text : Text) : Prop :=
  text ≠ [] ∧ ∀ c ∈ text, c.isDigit = true

/-- Digits, or digits with one point before, among or after them. -/
def IsPlainDecimal (text : Text) : Prop :=
  IsDigits text
  ∨ ∃ whole fraction : Text, text = whole ++ ↑ '.' :: fraction ∧ IsDigits (whole ++ fraction)

/-- A plain decimal with at most one sign before it. -/
def IsSignedDecimal (text : Text) : Prop :=
  ∃ sign number,
    text = sign ++ number
    ∧ sign ∈ ([[], ['+'], ['-']] : List Text)
    ∧ IsPlainDecimal number

/-- At least one digit or capital letter and nothing else. -/
def IsName (text : Text) : Prop :=
  text ≠ [] ∧ ∀ c ∈ text, c.isDigit = true ∨ c.isUpper = true

/-- A jump's keyword with something visible right after it. -/
def BeginsJump (word : Text) : Prop :=
  ∃ c rest, word = Rule.jumpKeyword ++ c :: rest ∧ Text.isBlank c = false

namespace Rule

/-- The rules that go by a pattern; the others are a list of symbols and a beginning. -/
def patterns : List Rule :=
  [command, parameter, label, conditional, jump, indexedVariable]

/-- The shape of the words that a rule recognises. -/
def Fits : Rule → Text → Prop
  | command, word => IsCode word
  | parameter, word =>
      ∃ letter number, word = letter :: number ∧ letter ∈ parameterLetters ∧ IsSignedDecimal number
  | label, word => ∃ name : Text, word = ↑ 'N' :: name ∧ IsName name
  | conditional, word => word = (['I', 'F'] : Text)
  | jump, word => ∃ target, word = jumpKeyword ++ target ∧ IsName target
  | indexedVariable, word => ∃ number : Text, word = ↑ '#' :: number ∧ IsDigits number
  | symbol, word => word ∈ symbols
  | looseJump, word => BeginsJump word

/-- What a jump goes to stands between its keyword and the first blank. -/
def jumpTarget (word : Text) : Text :=
  (word.drop 4).takeWhile (!Text.isBlank ·)

/-- The token that a rule makes of its words. -/
def tokenOf : Rule → Text → Token
  | command, word => .command word
  | parameter, word => .parameter word
  | label, word => .label word
  | conditional, word => .conditional word
  | jump, word | looseJump, word => .jump word (jumpTarget word)
  | indexedVariable, word => .indexedVariable word
  | symbol, word => .symbol word

/-- The rule that a word can fit, symbols apart, by the way it begins. -/
def ofBeginning : Text → Option Rule
  | 'N' :: _ => some label
  | '#' :: _ => some indexedVariable
  | 'I' :: 'F' :: _ => some conditional
  | 'G' :: 'O' :: _ => some jump
  | 'G' :: _ | 'M' :: _ => some command
  | letter :: _ => if letter ∈ parameterLetters then some parameter else none
  | [] => none

/-- The rule that makes the same tokens from a pattern. -/
def strict : Rule → Rule
  | looseJump => jump
  | rule => rule

end Rule

-----------------------------------------------------------------------------------------
-- Shapes of numbers and names
-----------------------------------------------------------------------------------------

theorem isNumeral_eq_true_iff {text : Text}
    : isNumeral text = true ↔ IsDigits text := by
  simp [isNumeral, IsDigits]

theorem isLabelName_eq_true_iff {text : Text}
    : isLabelName text = true ↔ IsName text := by
  simp [isLabelName, IsName]

theorem IsPlainDecimal.digit_or_point {number : Text} (plain : IsPlainDecimal number)
    : ∀ c ∈ number, c.isDigit = true ∨ c = '.' := by
  intro c member
  rcases plain with ⟨-, digits⟩ | ⟨whole, fraction, rfl, -, digits⟩
  · exact .inl (digits c member)
  · rcases List.mem_append.mp member with before | pointOrAfter
    · exact .inl (digits c (List.mem_append_left _ before))
    · rcases List.mem_cons.mp pointOrAfter with point | after
      · exact .inr point
      · exact .inl (digits c (List.mem_append_right _ after))

/-- Every text begins with some digits, and what follows them decides. -/
theorem isUnsignedDecimal_eq_true_iff {text : Text}
    : isUnsignedDecimal text = true ↔ IsPlainDecimal text := by
  constructor
  · intro decimal
    obtain ⟨whole, rest, rfl, isRun⟩ := IsRun.exists_eq_append Character.isDigit text
    rw [isUnsignedDecimal, isRun.span_append] at decimal
    split at decimal
    · next fraction parts =>
        cases parts
        obtain ⟨full, fractionDigits⟩ := isNumeral_eq_true_iff.mp decimal
        exact .inr ⟨[], fraction, rfl, full, fractionDigits⟩
    · cases decimal
    · next some parts =>
        cases parts
        rw [List.append_nil]
        exact .inl ⟨some, isRun.all⟩
    · next fraction some parts =>
        cases parts
        refine .inr ⟨whole, fraction, rfl, ?_, ?_⟩
        · exact fun none => some (List.append_eq_nil_iff.mp none).1
        · exact List.forall_mem_append.mpr ⟨isRun.all, List.all_eq_true.mp decimal⟩
    · cases decimal
  · rintro (⟨full, digits⟩ | ⟨whole, fraction, rfl, full, digits⟩)
    · rw [isUnsignedDecimal]
      have isRun : IsRun Character.isDigit text [] := ⟨digits, by simp⟩
      have span := isRun.span_append
      rw [List.append_nil] at span
      rw [span]
      cases text with
      | nil => exact absurd rfl full
      | cons c rest => rfl
    · obtain ⟨wholeDigits, fractionDigits⟩ := List.forall_mem_append.mp digits
      have isRun : IsRun Character.isDigit whole ('.' :: fraction) := ⟨wholeDigits, by simp⟩
      rw [isUnsignedDecimal, isRun.span_append]
      cases whole with
      | nil => exact isNumeral_eq_true_iff.mpr ⟨full, fractionDigits⟩
      | cons c rest => exact List.all_eq_true.mpr fractionDigits

theorem IsSignedDecimal.digit_or_mark {text : Text} (signed : IsSignedDecimal text)
    : ∀ c ∈ text, c.isDigit = true ∨ c = '.' ∨ c = '+' ∨ c = '-' := by
  obtain ⟨sign, number, rfl, listed, plain⟩ := signed
  intro c member
  rcases List.mem_append.mp member with inSign | inNumber
  · simp only [List.mem_cons, List.not_mem_nil, or_false] at listed
    rcases listed with rfl | rfl | rfl <;> simp_all
  · exact (plain.digit_or_point c inNumber).imp_right .inl

theorem isDecimal_eq_true_iff {text : Text}
    : isDecimal text = true ↔ IsSignedDecimal text := by
  constructor
  · intro decimal
    unfold isDecimal at decimal
    split at decimal
    · next rest => exact ⟨['+'], rest, rfl, by simp, isUnsignedDecimal_eq_true_iff.mp decimal⟩
    · next rest => exact ⟨['-'], rest, rfl, by simp, isUnsignedDecimal_eq_true_iff.mp decimal⟩
    · exact ⟨[], text, rfl, by simp, isUnsignedDecimal_eq_true_iff.mp decimal⟩
  · rintro ⟨sign, number, rfl, signed, plain⟩
    have decimal := isUnsignedDecimal_eq_true_iff.mpr plain
    simp only [List.mem_cons, List.not_mem_nil, or_false] at signed
    rcases signed with rfl | rfl | rfl
    · -- A plain decimal does not begin with a sign, which would be taken for its own.
      rw [List.nil_append]
      unfold isDecimal
      split
      · next rest => simp [isUnsignedDecimal, List.span_eq_takeWhile_dropWhile] at decimal
      · next rest => simp [isUnsignedDecimal, List.span_eq_takeWhile_dropWhile] at decimal
      · exact decimal
    · exact decimal
    · exact decimal

theorem IsName.visible {name : Text} (isName : IsName name)
    : ∀ c ∈ name, Text.isBlank c = false := by
  intro c member
  rcases isName.2 c member with digit | upper
  · have code := Character.isDigit_iff.mp digit
    exact isBlank_eq_false (by omega) (by omega)
  · have code := Character.isUpper_iff.mp upper
    exact isBlank_eq_false (by omega) (by omega)

theorem IsName.jumpTarget_append {target : Text} (isName : IsName target)
    : Rule.jumpTarget (Rule.jumpKeyword ++ target) = target :=
  List.takeWhile_eq_self_iff.mpr fun c member => by simp [isName.visible c member]

namespace Rule

/-- A rule makes its token of the words that have its shape, and nothing of others. -/
theorem recognise?_eq_some_iff {rule : Rule} {word : Text} {token : Token}
    : rule.recognise? word = some token ↔ rule.Fits word ∧ token = rule.tokenOf word := by
  constructor
  · intro recognised
    unfold recognise? at recognised
    dsimp only at recognised
    split at recognised
    case h_1 letter number =>
        obtain ⟨shape, same⟩ := Option.ite_none_right_eq_some.mp recognised
        cases same
        exact ⟨recognise?_command_iff.mp recognised, rfl⟩
    case h_2 letter number =>
        obtain ⟨shape, same⟩ := Option.ite_none_right_eq_some.mp recognised
        cases same
        obtain ⟨known, decimal⟩ := Bool.and_eq_true_iff.mp shape
        have isLetter := List.contains_iff_mem.mp known
        exact ⟨⟨letter, number, rfl, isLetter, isDecimal_eq_true_iff.mp decimal⟩, rfl⟩
    case h_3 name =>
        obtain ⟨isName, same⟩ := Option.ite_none_right_eq_some.mp recognised
        cases same
        exact ⟨⟨name, rfl, isLabelName_eq_true_iff.mp isName⟩, rfl⟩
    case h_4 =>
        cases recognised
        exact ⟨rfl, rfl⟩
    case h_5 target =>
        obtain ⟨shape, same⟩ := Option.ite_none_right_eq_some.mp recognised
        cases same
        have isName := isLabelName_eq_true_iff.mp shape
        exact ⟨⟨target, rfl, isName⟩, congrArg _ isName.jumpTarget_append.symm⟩
    case h_6 number =>
        obtain ⟨numeral, same⟩ := Option.ite_none_right_eq_some.mp recognised
        cases same
        exact ⟨⟨number, rfl, isNumeral_eq_true_iff.mp numeral⟩, rfl⟩
    case h_7 =>
        obtain ⟨known, same⟩ := Option.ite_none_right_eq_some.mp recognised
        cases same
        exact ⟨List.contains_iff_mem.mp known, rfl⟩
    case h_8 rest =>
        obtain ⟨full, same⟩ := Option.ite_none_left_eq_some.mp recognised
        cases same
        cases rest with
        | nil => simp at full
        | cons c more =>
            have visible : Text.isBlank c = false := by simpa using full
            exact ⟨⟨c, more, rfl, visible⟩, rfl⟩
    case h_9 => cases recognised
  · rintro ⟨fits, rfl⟩
    cases rule with
    | command => exact recognise?_command_iff.mpr fits
    | parameter =>
        obtain ⟨letter, number, rfl, known, signed⟩ := fits
        simp [recognise?, tokenOf, known, isDecimal_eq_true_iff.mpr signed]
    | label =>
        obtain ⟨name, rfl, isName⟩ := fits
        simp [recognise?, tokenOf, isLabelName_eq_true_iff.mpr isName]
    | conditional =>
        cases fits
        rfl
    | jump =>
        obtain ⟨target, rfl, isName⟩ := fits
        rw [tokenOf, isName.jumpTarget_append]
        simp [recognise?, jumpKeyword, isLabelName_eq_true_iff.mpr isName]
    | indexedVariable =>
        obtain ⟨number, rfl, digits⟩ := fits
        simp [recognise?, tokenOf, isNumeral_eq_true_iff.mpr digits]
    | symbol =>
        have known : symbols.contains word = true := List.contains_iff_mem.mpr fits
        exact if_pos known
    | looseJump =>
        obtain ⟨c, rest, rfl, visible⟩ := fits
        simp [recognise?, tokenOf, jumpKeyword, visible, jumpTarget]

-----------------------------------------------------------------------------------------
-- Beginnings tell shapes apart
-----------------------------------------------------------------------------------------

theorem ofBeginning_parameter {letter : Character} {rest : Text} (known : letter ∈ parameterLetters)
    (apart : ↑ 'F' ∉ rest)
    : ofBeginning (letter :: rest) = some parameter := by
  unfold ofBeginning
  split
  case h_3 begins =>
    cases begins
    exact absurd List.mem_cons_self apart
  case h_7 begins =>
    cases begins
    exact if_pos known
  case h_8 begins => cases begins
  all_goals
    next begins =>
      cases begins
      exact absurd known (by decide)

/-- Outside of the symbols, a word begins as its shape says. -/
theorem ofBeginning_of_fits {rule : Rule} {word : Text} (fits : rule.Fits word)
    (other : rule ≠ symbol)
    : ofBeginning word = some rule.strict := by
  cases rule with
  | command =>
      obtain ⟨letter, digits, rfl, known, full, areDigits⟩ := fits
      cases digits with
      | nil => exact absurd rfl full
      | cons d rest =>
          have notO : d ≠ 'O' := by
            rintro rfl
            simpa using areDigits 'O' List.mem_cons_self
          rcases known with rfl | rfl
          · simp [ofBeginning, notO, strict]
          · simp [ofBeginning, strict]
  | parameter =>
      obtain ⟨letter, number, rfl, known, signed⟩ := fits
      exact ofBeginning_parameter known fun member => by simpa using signed.digit_or_mark _ member
  | label =>
      obtain ⟨name, rfl, -⟩ := fits
      rfl
  | conditional =>
      cases fits
      rfl
  | jump =>
      obtain ⟨target, rfl, -⟩ := fits
      rfl
  | indexedVariable =>
      obtain ⟨number, rfl, -⟩ := fits
      rfl
  | symbol => exact absurd rfl other
  | looseJump =>
      obtain ⟨c, rest, rfl, -⟩ := fits
      rfl

/-- A symbol that has another shape is the label that it spells. -/
theorem eq_label_of_symbol {rule : Rule} {word : Text} (known : word ∈ symbols)
    (fits : rule.Fits word) (other : rule ≠ symbol)
    : rule = label ∧ word = (['N', 'E'] : Text) := by
  have recognised : (rule.recognise? word).isSome := by
    rw [recognise?_eq_some_iff.mpr ⟨fits, rfl⟩]
    rfl
  have listed
      : ∀ spelling ∈ symbols, ∀ rule ∈ order,
          (rule.recognise? spelling).isSome
          → rule ≠ symbol
          → rule = label ∧ spelling = (['N', 'E'] : Text) := by
    decide
  exact listed word known rule (by cases rule <;> decide) recognised other

/-- At most one pattern fits a word, since patterns differ in how their words begin. -/
theorem eq_of_fits {rule other : Rule} {word : Text} (listed : rule ∈ patterns)
    (otherListed : other ∈ patterns) (fits : rule.Fits word) (otherFits : other.Fits word)
    : rule = other := by
  have proper : ∀ rule ∈ patterns, rule ≠ symbol ∧ rule.strict = rule := by decide
  obtain ⟨notSymbol, strictRule⟩ := proper rule listed
  obtain ⟨otherNotSymbol, strictOther⟩ := proper other otherListed
  have begins := ofBeginning_of_fits fits notSymbol
  have otherBegins := ofBeginning_of_fits otherFits otherNotSymbol
  rw [← strictRule, ← strictOther]
  exact Option.some.inj (begins.symm.trans otherBegins)

/-- Rules that fit the same word make the same token of it, unless one of them takes for a symbol
what the other takes for a label.
-/
theorem tokenOf_eq_of_fits {rule other : Rule} {word : Text} (fits : rule.Fits word)
    (otherFits : other.Fits word) (decides : rule = symbol → ¬label.Fits word)
    (otherDecides : other = symbol → ¬label.Fits word)
    : rule.tokenOf word = other.tokenOf word := by
  have tokenOf_strict (rule : Rule) : rule.strict.tokenOf word = rule.tokenOf word := by
    cases rule <;> rfl
  by_cases isSymbol : rule = symbol <;> by_cases otherIsSymbol : other = symbol
  · rw [isSymbol, otherIsSymbol]
  · subst isSymbol
    obtain ⟨rfl, -⟩ := eq_label_of_symbol fits otherFits otherIsSymbol
    exact absurd otherFits (decides rfl)
  · subst otherIsSymbol
    obtain ⟨rfl, -⟩ := eq_label_of_symbol otherFits fits isSymbol
    exact absurd fits (otherDecides rfl)
  · have begins := ofBeginning_of_fits fits isSymbol
    have otherBegins := ofBeginning_of_fits otherFits otherIsSymbol
    have same : rule.strict = other.strict := Option.some.inj (begins.symm.trans otherBegins)
    rw [← tokenOf_strict rule, same, tokenOf_strict]

end Rule

-----------------------------------------------------------------------------------------
-- Rules in any order
-----------------------------------------------------------------------------------------

/-- The tokens that a word can have: that of a rule which fits it, where a symbol that is a label is
not taken for a symbol; and if no rule fits, it is unknown.
-/
inductive IsTokenOf (word : Text) : Token → Prop
  | fitting (rule : Rule) (fits : rule.Fits word) (decides : rule = .symbol → ¬Rule.label.Fits word)
    : IsTokenOf word (rule.tokenOf word)
  | unfitting (none : ∀ rule : Rule, ¬rule.Fits word) : IsTokenOf word (.unknown word)

theorem IsTokenOf.eq {word : Text} {token other : Token} (has : IsTokenOf word token)
    (hasOther : IsTokenOf word other)
    : token = other := by
  cases has with
  | fitting rule fits decides =>
      cases hasOther with
      | fitting otherRule otherFits otherDecides =>
          exact Rule.tokenOf_eq_of_fits fits otherFits decides otherDecides
      | unfitting none => exact absurd fits (none rule)
  | unfitting none =>
      cases hasOther with
      | fitting otherRule otherFits otherDecides => exact absurd otherFits (none otherRule)
      | unfitting _ => rfl

/-- What comes before another item that is listed once stands before its place. -/
theorem mem_of_sublist {α : Type} {first second : α} {before after : List α}
    (once : (before ++ second :: after).Nodup)
    (ordered : [first, second].Sublist (before ++ second :: after))
    : first ∈ before := by
  obtain ⟨left, right, parts, inLeft, inRight⟩ := List.cons_sublist_iff.mp ordered
  rw [parts, List.nodup_append] at once
  have notLeft : second ∉ left := fun member =>
    once.2.2 second member second (List.singleton_sublist.mp inRight) rfl
  rcases List.append_eq_append_iff.mp parts with ⟨more, rfl, same⟩ | ⟨more, rfl, -⟩
  · cases more with
    | nil => simpa using inLeft
    | cons c rest =>
        obtain rfl : second = c := (List.cons.inj same).1
        simp at notLeft
  · exact List.mem_append_left _ inLeft

/-- The rules give a word its token whatever their order, as long as labels come before symbols:
the first rule to fit is not the one for symbols if a label fits.
-/
theorem isTokenOf_classifyBy {rules : List Rule} (reordered : rules.Perm Rule.order)
    (labelFirst : [Rule.label, .symbol].Sublist rules) (word : Text)
    : IsTokenOf word (classifyBy rules word) := by
  have complete (rule : Rule) : rule ∈ rules := reordered.mem_iff.mpr (by cases rule <;> decide)
  rw [classifyBy]
  cases found : rules.findSome? (·.recognise? word) with
  | none =>
      refine .unfitting fun rule fits => ?_
      have missed := List.findSome?_eq_none_iff.mp found rule (complete rule)
      rw [Rule.recognise?_eq_some_iff.mpr ⟨fits, rfl⟩] at missed
      cases missed
  | some token =>
      obtain ⟨before, rule, after, rfl, recognised, earlier⟩ := List.findSome?_eq_some_iff.mp found
      obtain ⟨fits, rfl⟩ := Rule.recognise?_eq_some_iff.mp recognised
      refine .fitting rule fits ?_
      rintro rfl labelFits
      have once : (before ++ Rule.symbol :: after).Nodup := reordered.nodup_iff.mpr (by decide)
      have missed := earlier .label (mem_of_sublist once labelFirst)
      rw [Rule.recognise?_eq_some_iff.mpr ⟨labelFits, rfl⟩] at missed
      cases missed

theorem isTokenOf_classify (word : Text)
    : IsTokenOf (Text.upper word) (classify word) :=
  isTokenOf_classifyBy (.refl _) (by decide) _

/-- A rule that fits a word in uppercase decides on it unless the word is a label too. -/
theorem classify_of_fits {rule : Rule} {word : Text} (fits : rule.Fits (Text.upper word))
    (decides : rule = .symbol → ¬Rule.label.Fits (Text.upper word))
    : classify word = rule.tokenOf (Text.upper word) :=
  (isTokenOf_classify word).eq (.fitting rule fits decides)

theorem IsName.beginsJump {target : Text} (isName : IsName target)
    : BeginsJump (Rule.jumpKeyword ++ target) := by
  cases target with
  | nil => exact absurd rfl isName.1
  | cons c rest => exact ⟨c, rest, rfl, isName.visible c List.mem_cons_self⟩

/-- Whether a jump has the form of a label to go to or not, it goes to what follows its keyword. -/
theorem classify_eq_jump_iff {word text target : Text}
    : classify word = .jump text target
      ↔ BeginsJump (Text.upper word)
        ∧ text = Text.upper word
        ∧ target = Rule.jumpTarget (Text.upper word) := by
  constructor
  · intro kind
    have has := isTokenOf_classify word
    generalize classify word = token at kind has
    cases has with
    | unfitting none => cases kind
    | fitting rule fits decides =>
        cases rule with
        | jump =>
            cases kind
            obtain ⟨name, same, isName⟩ := fits
            exact ⟨same ▸ isName.beginsJump, rfl, rfl⟩
        | looseJump =>
            cases kind
            exact ⟨fits, rfl, rfl⟩
        | _ => cases kind
  · rintro ⟨begins, rfl, rfl⟩
    have fits : Rule.looseJump.Fits (Text.upper word) := begins
    exact classify_of_fits fits nofun

/-- A word is unknown if it fits no pattern, is no symbol and does not begin as a jump. -/
theorem classify_eq_unknown_iff {word : Text}
    : (∃ text, classify word = .unknown text)
      ↔ (∀ rule ∈ Rule.patterns, ¬rule.Fits (Text.upper word))
        ∧ Text.upper word ∉ symbols
        ∧ ¬BeginsJump (Text.upper word) := by
  constructor
  · rintro ⟨text, kind⟩
    have has := isTokenOf_classify word
    generalize classify word = token at kind has
    cases has with
    | fitting rule fits decides => cases rule <;> cases kind
    | unfitting none => exact ⟨fun rule _ => none rule, none .symbol, none .looseJump⟩
  · rintro ⟨noPattern, noSymbol, noJump⟩
    refine ⟨Text.upper word, (isTokenOf_classify word).eq (.unfitting fun rule => ?_)⟩
    cases rule with
    | symbol => exact noSymbol
    | looseJump => exact noJump
    | _ => exact noPattern _ (by decide)

/-- What a jump goes to is as long as it can be without a blank. -/
theorem exists_after_jumpTarget {word : Text} (begins : BeginsJump word)
    : ∃ rest,
        word = Rule.jumpKeyword ++ Rule.jumpTarget word ++ rest
        ∧ (∀ c ∈ Rule.jumpTarget word, Text.isBlank c = false)
        ∧ ∀ c ∈ rest.head?, Text.isBlank c = true := by
  obtain ⟨d, more, rfl, -⟩ := begins
  have isRun := IsRun.takeWhile_dropWhile (!Text.isBlank ·) (d :: more)
  refine ⟨(d :: more).dropWhile (!Text.isBlank ·), ?_, ?_, ?_⟩
  · rw [List.append_assoc]
    exact congrArg _ List.takeWhile_append_dropWhile.symm
  · exact fun c member => by simpa using isRun.all c member
  · exact fun c first => by simpa using isRun.stops c first

/-- Every rule recognises the words of its shape, at most one of the patterns fits a word, and the
label NE is the only symbol that fits one. So a word has the same token in any order of the rules
that has labels before symbols, and the same in uppercase. It is a jump if it begins as one, with
or without the form of a label behind the keyword, and unknown if no rule fits it.
-/
theorem classifyBy_reordered (word : Text)
    : let shape := Text.upper word
      (∀ rule token,
        Rule.recognise? rule shape = some token
        ↔ rule.Fits shape ∧ token = rule.tokenOf shape)
      ∧ (∀ rule ∈ Rule.patterns, ∀ other ∈ Rule.patterns,
          rule.Fits shape → other.Fits shape → rule = other)
      ∧ (∀ rule ∈ Rule.patterns,
          shape ∈ symbols → rule.Fits shape → rule = .label ∧ shape = (['N', 'E'] : Text))
      ∧ (∀ rules,
          rules.Perm Rule.order
          → [Rule.label, .symbol].Sublist rules
          → classifyBy rules shape = classify word)
      ∧ ((∃ text target, classify word = .jump text target) ↔ BeginsJump shape)
      ∧ (∀ text target,
          classify word = .jump text target
          → ∃ rest,
              shape = Rule.jumpKeyword ++ target ++ rest
              ∧ (∀ c ∈ target, Text.isBlank c = false)
              ∧ ∀ c ∈ rest.head?, Text.isBlank c = true)
      ∧ ((∃ text, classify word = .unknown text)
        ↔ (∀ rule ∈ Rule.patterns, ¬rule.Fits shape) ∧ shape ∉ symbols ∧ ¬BeginsJump shape)
      ∧ classify shape = classify word := by
  intro shape
  refine ⟨fun _ _ => Rule.recognise?_eq_some_iff, ?_, ?_, ?_, ?_, ?_, classify_eq_unknown_iff,
    classify_upper word⟩
  · intro rule listed other otherListed
    exact Rule.eq_of_fits listed otherListed
  · intro rule listed known fits
    refine Rule.eq_label_of_symbol known fits ?_
    rintro rfl
    exact absurd listed (by decide)
  · intro rules reordered labelFirst
    exact (isTokenOf_classifyBy reordered labelFirst shape).eq (isTokenOf_classify word)
  · simp [classify_eq_jump_iff, shape]
  · intro text target kind
    obtain ⟨begins, rfl, rfl⟩ := classify_eq_jump_iff.mp kind
    exact exists_after_jumpTarget begins

/-- A jump stays a jump if the loose rule for it comes first, also where uppercase spells out a
ligature and a blank ends what it goes to.
-/
theorem classifyBy_reordered_looseFirst
    : let word : Text := "gotoN1ﬁ\u3000x"
      let rules : List Rule :=
        [
          .looseJump, .indexedVariable, .label, .symbol, .jump, .conditional, .parameter, .command
        ]
      rules.Perm Rule.order
      ∧ [Rule.label, .symbol].Sublist rules
      ∧ classify word = .jump "GOTON1FI\u3000X" "N1FI"
      ∧ classifyBy rules (Text.upper word) = classify word
      ∧ ∃ rest,
          Text.upper word = Rule.jumpKeyword ++ "N1FI" ++ rest
          ∧ (∀ c ∈ ("N1FI" : Text), Text.isBlank c = false)
          ∧ ∀ c ∈ rest.head?, Text.isBlank c = true := by
  intro word rules
  obtain ⟨-, -, -, anyOrder, -, goes, -, -⟩ := classifyBy_reordered word
  have reordered : rules.Perm Rule.order := by decide
  have labelFirst : [Rule.label, .symbol].Sublist rules := by decide
  have kind : classify word = .jump "GOTON1FI\u3000X" "N1FI" := by decide +kernel
  exact ⟨reordered, labelFirst, kind, anyOrder rules reordered labelFirst,
    goes _ _ kind⟩

end LatheGloss.Program
