import Mathlib
import LatheGloss.Program.Gloss
import LatheGloss.Proofs.Program.Layout
import LatheGloss.Proofs.Text.Uppercase

/-! Glosses of words. Every word leaves its mark on the gloss, so that only a line without words has
an empty one; the unknown words of a gloss are those of the line, in uppercase, that are of no kind
or commands without a description.
-/

namespace LatheGloss.Program

-----------------------------------------------------------------------------------------
-- Kinds of words
-----------------------------------------------------------------------------------------

/-- The shape of a command: a letter that commands begin with, and digits. -/
def IsCode (word : Text) : Prop :=
  ∃ letter digits,
    word = letter :: digits
    ∧ (letter = 'G' ∨ letter = 'M')
    ∧ digits ≠ []
    ∧ ∀ d ∈ digits, d.isDigit = true

namespace Rule

/-- A rule keeps the word that it recognises, and only the first one makes commands; by cases of
the rule and the beginning of the word.
-/
theorem of_recognise? {rule : Rule} {word : Text} {token : Token}
    (recognised : rule.recognise? word = some token)
    : token.text = word ∧ ∀ code, token = .command code → rule = command := by
  unfold recognise? at recognised
  dsimp only at recognised
  split at recognised
  all_goals (try split at recognised) <;> cases recognised <;> exact ⟨rfl, by simp⟩

theorem recognise?_command_iff {word : Text}
    : command.recognise? word = some (.command word) ↔ IsCode word := by
  cases word with
  | nil => simp [recognise?, IsCode]
  | cons letter number => simp [recognise?, IsCode, isNumeral, and_assoc]

end Rule

instance (word : Text) : Decidable (IsCode word) :=
  decidable_of_iff _ Rule.recognise?_command_iff

theorem text_classify (word : Text)
    : (classify word).text = Text.upper word := by
  rw [classify, classifyBy]
  cases found : Rule.order.findSome? (·.recognise? (Text.upper word)) with
  | none => rfl
  | some token =>
      obtain ⟨rule, -, recognised⟩ := List.exists_of_findSome?_eq_some found
      exact (Rule.of_recognise? recognised).1

theorem classify_upper (word : Text)
    : classify (Text.upper word) = classify word := by
  rw [classify, classify, Text.upper_upper]

/-- The shape alone makes a word a command, since that rule is the first one. -/
theorem classify_eq_command_iff {word code : Text}
    : classify word = .command code ↔ code = Text.upper word ∧ IsCode (Text.upper word) := by
  constructor
  · intro kind
    have same : code = Text.upper word := by rw [← text_classify, kind]; rfl
    refine ⟨same, ?_⟩
    rw [classify, classifyBy] at kind
    cases found : Rule.order.findSome? (·.recognise? (Text.upper word)) with
    | none => simp [found] at kind
    | some token =>
        obtain ⟨rule, -, recognised⟩ := List.exists_of_findSome?_eq_some found
        obtain rfl : token = .command code := by simpa [found] using kind
        obtain rfl := (Rule.of_recognise? recognised).2 code rfl
        exact Rule.recognise?_command_iff.mp (same ▸ recognised)
  · rintro ⟨rfl, shape⟩
    have recognised := Rule.recognise?_command_iff.mpr shape
    simp [classify, classifyBy, Rule.order, recognised]

theorem IsWord.upper_ne_nil {word : Text} (isWord : IsWord word)
    : Text.upper word ≠ [] :=
  mt Text.upper_eq_nil_iff.mp isWord.nonempty

theorem IsWord.space_notMem_upper {word : Text} (isWord : IsWord word)
    : ↑ ' ' ∉ Text.upper word :=
  mt Text.space_mem_upper_iff.mp isWord.spaceless

-----------------------------------------------------------------------------------------
-- Unknown words
-----------------------------------------------------------------------------------------

/-- Whether a gloss reports a word as unknown. -/
def isUnknownWord (describe : Text → Option Text) (word : Text) : Bool :=
  (Gloss.unknown? describe (classify word)).isSome

/-- A word that is reported is reported in uppercase. -/
theorem unknown?_classify (describe : Text → Option Text) (word : Text)
    : Gloss.unknown? describe (classify word)
      = if isUnknownWord describe word then some (Text.upper word) else none := by
  rw [isUnknownWord, ← text_classify]
  cases classify word with
  | command code => cases known : describe code <;> simp [Gloss.unknown?, known, Token.text]
  | unknown text => rfl
  | _ => rfl

/-- A command is unknown if it has no description. -/
theorem isUnknownWord_of_isCode {word : Text} (shape : IsCode (Text.upper word))
    (describe : Text → Option Text)
    : isUnknownWord describe word = (describe (Text.upper word)).isNone := by
  rw [isUnknownWord, classify_eq_command_iff.mpr ⟨rfl, shape⟩]
  cases known : describe (Text.upper word) <;> simp [Gloss.unknown?, known]

/-- Descriptions make no difference to a word that is no command. -/
theorem isUnknownWord_congr {word : Text} (other : ¬IsCode (Text.upper word))
    (describe describeElse : Text → Option Text)
    : isUnknownWord describe word = isUnknownWord describeElse word := by
  rw [isUnknownWord, isUnknownWord]
  cases kind : classify word with
  | command code => exact absurd (classify_eq_command_iff.mp kind).2 other
  | _ => rfl

theorem unknowns_ofWords (describe : Text → Option Text) (words : List Text)
    : (Gloss.ofWords describe words).unknowns
      = (words.filter (isUnknownWord describe)).map Text.upper := by
  change (words.map classify).filterMap (Gloss.unknown? describe) = _
  rw [List.filterMap_map]
  induction words with
  | nil => rfl
  | cons word rest ih =>
      rw [List.filterMap_cons, Function.comp_apply, unknown?_classify, List.filter_cons]
      by_cases reported : isUnknownWord describe word = true
      · simp only [reported, if_true, List.map_cons, ih]
      · simp only [reported, if_false, Bool.false_eq_true, ih]

-----------------------------------------------------------------------------------------
-- Empty glosses
-----------------------------------------------------------------------------------------

theorem intercalate_eq_nil_iff {separator : Text} {parts : List Text}
    (full : ∀ part ∈ parts, part ≠ [])
    : separator.intercalate parts = [] ↔ parts = [] := by
  match parts with
  | [] => simp
  | part :: rest =>
      have first : part ≠ [] := full part List.mem_cons_self
      cases rest with
      | nil => simpa using first
      | cons next more => simp [List.intercalate_cons_cons, first]

theorem joinParts_eq_nil_iff {phrases parameters : List Text}
    (phrasesFull : ∀ phrase ∈ phrases, phrase ≠ [])
    (parametersFull : ∀ parameter ∈ parameters, parameter ≠ [])
    : Gloss.joinParts phrases parameters = [] ↔ phrases = [] ∧ parameters = [] := by
  have described : Gloss.phraseSeparator.intercalate phrases = [] ↔ phrases = [] :=
    intercalate_eq_nil_iff phrasesFull
  have listed : ([' '] : Text).intercalate parameters = [] ↔ parameters = [] :=
    intercalate_eq_nil_iff parametersFull
  simp only [Gloss.joinParts, List.isEmpty_iff, described]
  split
  · next none => simp [described, none]
  · next some =>
      split
      · next bare => simp [listed, bare]
      · next full => simp [full]

/-- Every token leaves its mark on one of the two parts of a gloss. -/
theorem exists_mark (describe : Text → Option Text) (token : Token)
    : (∃ phrase, Gloss.phrase? describe token = some phrase)
      ∨ ∃ parameter, Gloss.parameter? token = some parameter := by
  cases token <;> simp [Gloss.phrase?, Gloss.parameter?]

theorem phrase_ne_nil {describe : Text → Option Text}
    (described : ∀ code, describe code ≠ some []) {token : Token} {phrase : Text}
    (found : Gloss.phrase? describe token = some phrase)
    : phrase ≠ [] := by
  rintro rfl
  cases token with
  | command code =>
      have text := Option.some.inj found
      cases known : describe code with
      | none => simp [known, Gloss.unregistered] at text
      | some description =>
          obtain rfl : description = [] := by simpa [known] using text
          exact described code known
  | label name => simp [Gloss.phrase?] at found
  | conditional text => simp [Gloss.phrase?] at found
  | jump text target => simp [Gloss.phrase?] at found
  | _ => cases found

theorem parameter?_eq_text {token : Token} {parameter : Text}
    (found : Gloss.parameter? token = some parameter)
    : parameter = token.text := by
  cases token <;> cases found <;> rfl

theorem mem_sortParameters {word : Text} {words : List Text}
    : word ∈ sortParameters words ↔ word ∈ words :=
  List.mem_mergeSort

/-- A line without words has an empty gloss, and no other line has one as long as no description
is empty.
-/
theorem text_ofLine_eq_nil_iff {describe : Text → Option Text}
    (described : ∀ code, describe code ≠ some []) (line : Text)
    : (Gloss.ofLine describe line).text = [] ↔ words line = [] := by
  have phrasesFull
      : ∀ phrase ∈ ((words line).map classify).filterMap (Gloss.phrase? describe), phrase ≠ [] := by
    intro phrase member
    obtain ⟨token, -, found⟩ := List.mem_filterMap.mp member
    exact phrase_ne_nil described found
  have parametersFull
      : ∀ parameter ∈ sortParameters (((words line).map classify).filterMap Gloss.parameter?),
          parameter ≠ [] := by
    intro parameter member
    obtain ⟨token, known, found⟩ := List.mem_filterMap.mp (mem_sortParameters.mp member)
    obtain ⟨word, inLine, rfl⟩ := List.mem_map.mp known
    rw [parameter?_eq_text found, text_classify]
    exact (isWord_of_mem_words inLine).upper_ne_nil
  change Gloss.joinParts _ _ = [] ↔ _
  rw [joinParts_eq_nil_iff phrasesFull parametersFull]
  constructor
  · rintro ⟨noPhrase, noParameter⟩
    refine List.eq_nil_iff_forall_not_mem.mpr fun word inLine => ?_
    have token : classify word ∈ (words line).map classify := List.mem_map_of_mem inLine
    rcases exists_mark describe (classify word) with ⟨phrase, found⟩ | ⟨parameter, found⟩
    · have shown := List.mem_filterMap.mpr ⟨_, token, found⟩
      exact List.not_mem_nil (noPhrase ▸ shown)
    · have shown := mem_sortParameters.mpr (List.mem_filterMap.mpr ⟨_, token, found⟩)
      exact List.not_mem_nil (noParameter ▸ shown)
  · intro none
    simp [none, sortParameters]

end LatheGloss.Program
