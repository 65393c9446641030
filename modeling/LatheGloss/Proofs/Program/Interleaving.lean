import Mathlib
import LatheGloss.CodeBook.Basic
import LatheGloss.Proofs.Program.Gloss
import LatheGloss.Proofs.Program.ParameterOrder

/-! Words in another order. Only the order of the words that a gloss describes, and that of the
others among those of one axis letter, can be seen in it; and whatever their order, parameters are
listed before variables and symbols.
-/

namespace LatheGloss.Program

/-- Commands, labels, conditions and jumps are described in the first part of a gloss. -/
def Token.isDescribed : Token → Bool
  | .command _ | .label _ | .conditional _ | .jump _ _ => true
  | .parameter _ | .indexedVariable _ | .symbol _ | .unknown _ => false

/-- The words, in uppercase, that are described in the first part of a gloss. -/
def describedWords (words : List Text) : List Text :=
  (words.filter fun word => (classify word).isDescribed).map Text.upper

/-- The words, in uppercase, that are listed in the second part of a gloss. -/
def listedWords (words : List Text) : List Text :=
  (words.filter fun word => !(classify word).isDescribed).map Text.upper

/-- The same words up to case, in an order that differs only in how those of the two parts, and of
different axis letters, are mingled, and in the order of those without an axis letter.
-/
structure SameButMingled (left right : List Text) : Prop where
  described : describedWords left = describedWords right
  axes
    : ∀ letter ∈ parameterLetters,
        (listedWords left).filter (·.head? = some letter)
        = (listedWords right).filter (·.head? = some letter)
  others
    : ((listedWords left).filter isAxisless).Perm ((listedWords right).filter isAxisless)

-----------------------------------------------------------------------------------------
-- The parts of a gloss
-----------------------------------------------------------------------------------------

theorem phrase?_eq_none {token : Token} (listed : token.isDescribed = false)
    (describe : Text → Option Text)
    : Gloss.phrase? describe token = none := by
  cases token <;> first | rfl | cases listed

/-- The first part of a gloss tells of the described words alone. -/
theorem filterMap_phrase? (describe : Text → Option Text) (words : List Text)
    : (words.map classify).filterMap (Gloss.phrase? describe)
      = (describedWords words).filterMap fun word => Gloss.phrase? describe (classify word) := by
  rw [describedWords, List.filterMap_map, List.filterMap_map, List.filterMap_filter]
  refine List.filterMap_congr fun word _ => ?_
  rw [Function.comp_apply, Function.comp_apply, classify_upper]
  split
  · rfl
  · next listed => exact phrase?_eq_none (by simpa using listed) describe

theorem filterMap_parameter? (tokens : List Token)
    : tokens.filterMap Gloss.parameter? = (tokens.filter (!·.isDescribed)).map Token.text := by
  rw [← List.filterMap_eq_map, List.filterMap_filter]
  refine List.filterMap_congr fun token _ => ?_
  cases token <;> rfl

theorem map_text_tokens (words : List Text)
    : ((words.map classify).filter (!·.isDescribed)).map Token.text = listedWords words := by
  rw [List.filter_map, List.map_map]
  exact List.map_congr_left fun word _ => text_classify word

theorem text_ofWords (describe : Text → Option Text) (words : List Text)
    : (Gloss.ofWords describe words).text
      = Gloss.joinParts
          ((describedWords words).filterMap fun word => Gloss.phrase? describe (classify word))
          (sortParameters (listedWords words)) := by
  rw [← filterMap_phrase?, ← map_text_tokens, ← filterMap_parameter?]
  rfl

theorem unknowns_ofWords_upper (describe : Text → Option Text) (words : List Text)
    : (Gloss.ofWords describe words).unknowns
      = (words.map Text.upper).filter (isUnknownWord describe) := by
  rw [unknowns_ofWords, List.filter_map]
  refine congrArg _ (List.filter_congr fun word _ => ?_)
  rw [Function.comp_apply, isUnknownWord, isUnknownWord, classify_upper]

-----------------------------------------------------------------------------------------
-- Words that are mingled
-----------------------------------------------------------------------------------------

theorem describedWords_append_listedWords (words : List Text)
    : (describedWords words ++ listedWords words).Perm (words.map Text.upper) := by
  rw [describedWords, listedWords, ← List.map_append]
  exact (List.filter_append_perm (fun word => (classify word).isDescribed) words).map Text.upper

theorem SameButMingled.sorted {left right : List Text} (same : SameButMingled left right)
    : sortParameters (listedWords left) = sortParameters (listedWords right) :=
  sortParameters_congr same.axes same.others

theorem SameButMingled.perm {left right : List Text} (same : SameButMingled left right)
    : (left.map Text.upper).Perm (right.map Text.upper) := by
  have listed : (listedWords left).Perm (listedWords right) := by
    have toRight := perm_sortParameters (listedWords right)
    rw [← same.sorted] at toRight
    exact (perm_sortParameters (listedWords left)).symm.trans toRight
  have parts := listed.append_left (describedWords left)
  conv at parts => rhs; rw [same.described]
  exact ((describedWords_append_listedWords left).symm.trans parts).trans
    (describedWords_append_listedWords right)

-----------------------------------------------------------------------------------------
-- Where the kinds of words are listed
-----------------------------------------------------------------------------------------

/-- Parameters begin with an axis letter, and variables and symbols with none. -/
def Token.BeginsAsItsKind : Token → Prop
  | .parameter text => isAxisless text = false
  | .indexedVariable text | .symbol text => isAxisless text = true
  | .command _ | .label _ | .conditional _ | .jump _ _ | .unknown _ => True

theorem symbols_isAxisless
    : symbols.all isAxisless = true := by
  decide

/-- What a rule makes of a word, by cases of the rule and the beginning of the word. -/
theorem Rule.beginsAsItsKind {rule : Rule} {word : Text} {token : Token}
    (recognised : rule.recognise? word = some token)
    : token.BeginsAsItsKind := by
  unfold recognise? at recognised
  dsimp only at recognised
  split at recognised
  all_goals (try split at recognised) <;> cases recognised
  case h_2.isTrue.refl letter number shape =>
    have axis : parameterLetters.contains letter = true := (Bool.and_eq_true_iff.mp shape).1
    simpa [Token.BeginsAsItsKind, isAxisless] using axis
  case h_7.isTrue.refl known =>
    exact List.all_eq_true.mp symbols_isAxisless word (List.contains_iff_mem.mp known)
  case h_6.isTrue.refl number shape =>
    change (!parameterLetters.contains '#') = true
    decide
  all_goals trivial

theorem beginsAsItsKind_classify (word : Text)
    : (classify word).BeginsAsItsKind := by
  rw [classify, classifyBy]
  cases found : Rule.order.findSome? (·.recognise? (Text.upper word)) with
  | none => trivial
  | some token =>
      obtain ⟨rule, -, recognised⟩ := List.exists_of_findSome?_eq_some found
      exact rule.beginsAsItsKind recognised

/-- The tokens of the second part of a gloss, in the order in which they are listed. -/
def listedTokens (words : List Text) : List Token :=
  ((words.map classify).filter (!·.isDescribed)).mergeSort fun left right =>
    (ParameterKey.ofWord left.text).le (ParameterKey.ofWord right.text)

theorem map_text_listedTokens (words : List Text)
    : (listedTokens words).map Token.text = sortParameters (listedWords words) := by
  rw [← map_text_tokens]
  exact List.map_mergeSort fun _ _ _ _ => rfl

theorem pairwise_listedTokens (words : List Text)
    : (listedTokens words).Pairwise fun earlier later =>
        ∀ axis other,
          later = .parameter axis → earlier ≠ .indexedVariable other ∧ earlier ≠ .symbol other := by
  have sorted
      : (listedTokens words).Pairwise fun left right =>
          (ParameterKey.ofWord left.text).le (ParameterKey.ofWord right.text) = true := by
    apply List.pairwise_mergeSort
    · exact fun _ _ _ => ParameterKey.le_trans
    · exact fun _ _ => ParameterKey.le_total _ _
  have ofItsKind : ∀ token ∈ listedTokens words, token.BeginsAsItsKind := by
    intro token member
    have known := (List.mem_filter.mp (List.mem_mergeSort.mp member)).1
    obtain ⟨word, -, rfl⟩ := List.mem_map.mp known
    exact beginsAsItsKind_classify word
  refine sorted.imp_of_mem fun {earlier later} earlierMember laterMember inOrder axis other => ?_
  rintro rfl
  have axial : isAxisless axis = false := ofItsKind _ laterMember
  have before : isAxisless earlier.text ≠ true := by
    intro axisless
    have after : isAxisless axis = true := ParameterKey.isAxisless_of_le axisless inOrder
    rw [axial] at after
    cases after
  have kind := ofItsKind _ earlierMember
  constructor
  · rintro rfl
    exact before kind
  · rintro rfl
    exact before kind

/-- Words that are the same but mingled have the same gloss, and the same unknown words in some
order. In every gloss the parameters are listed before the variables and the symbols.
-/
theorem ofWords_mingled (book : CodeBook) (model : Option Text)
    : let describe := book.describe model
      (∀ left right : List Text,
        SameButMingled left right
        → (Gloss.ofWords describe left).text = (Gloss.ofWords describe right).text
          ∧ (Gloss.ofWords describe left).hasUnknown = (Gloss.ofWords describe right).hasUnknown
          ∧ (Gloss.ofWords describe left).unknowns.Perm (Gloss.ofWords describe right).unknowns)
      ∧ ∀ words : List Text,
          ∃ listing : List Token,
            listing.Perm ((words.map classify).filter (!·.isDescribed))
            ∧ (Gloss.ofWords describe words).text
              = Gloss.joinParts
                  ((words.map classify).filterMap (Gloss.phrase? describe))
                  (listing.map Token.text)
            ∧ listing.Pairwise fun earlier later =>
                ∀ axis other,
                  later = .parameter axis
                  → earlier ≠ .indexedVariable other ∧ earlier ≠ .symbol other := by
  intro describe
  refine ⟨?_, ?_⟩
  · intro left right same
    have unknowns
        : (Gloss.ofWords describe left).unknowns.Perm (Gloss.ofWords describe right).unknowns := by
      rw [unknowns_ofWords_upper, unknowns_ofWords_upper]
      exact same.perm.filter (isUnknownWord describe)
    refine ⟨?_, ?_, unknowns⟩
    · rw [text_ofWords, text_ofWords, same.described, same.sorted]
    · unfold Gloss.hasUnknown
      rw [unknowns.isEmpty_eq]
  · intro words
    refine ⟨listedTokens words, List.mergeSort_perm _ _, ?_, pairwise_listedTokens words⟩
    rw [text_ofWords, filterMap_phrase?, map_text_listedTokens]

/-- A malformed parameter keeps its place among those of its letter, though it is unknown. -/
theorem ofWords_mingled_malformed
    : let left : List Text :=
        ["7", "x1", "[", "g9", "X..", "z3"]
      let right : List Text :=
        ["z3", "X1", "G9", "x..", "[", "7"]
      let describe := CodeBook.empty.describe none
      SameButMingled left right
      ∧ (Gloss.ofWords describe left).text = (Gloss.ofWords describe right).text
      ∧ (Gloss.ofWords describe left).unknowns = (["7", "G9", "X.."] : List Text)
      ∧ (Gloss.ofWords describe right).unknowns = (["G9", "X..", "7"] : List Text)
      ∧ (Gloss.ofWords describe left).unknowns.Perm (Gloss.ofWords describe right).unknowns := by
  intro left right describe
  have leftListed : listedWords left = (["7", "X1", "[", "X..", "Z3"] : List Text) := by
    decide +kernel
  have rightListed
      : listedWords right = (["Z3", "X1", "X..", "[", "7"] : List Text) := by
    decide +kernel
  have same : SameButMingled left right := by
    refine ⟨by decide +kernel, ?_, ?_⟩
    · rw [leftListed, rightListed]
      exact List.all_iff_forall_prop.mp (by decide)
    · rw [leftListed, rightListed]
      decide
  obtain ⟨text, -, unknowns⟩ := (ofWords_mingled .empty none).1 left right same
  exact ⟨same, text, by decide +kernel, by decide +kernel, unknowns⟩

end LatheGloss.Program
