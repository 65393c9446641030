import Mathlib
import LatheGloss.Program.Parameter
import LatheGloss.Proofs.StableSort
import LatheGloss.Proofs.Text.Character

/-! The order of parameters. Words of one axis letter stand together as they came, and of the other
words each stands with its equals; so words are sorted alike as soon as those of each axis letter
and the rest of them agree. To sort words is thus to put them into buckets.
-/

namespace LatheGloss.Program

/-- A word that begins with no axis letter. -/
def isAxisless (word : Text) : Bool :=
  word.head?.all (!parameterLetters.contains ·)

namespace ParameterKey

theorem le_other_iff {left right : Text}
    : (other left).le (other right) = true ↔ right.lex left = false := by
  rw [le, Bool.not_eq_true']

/-- Words without an axis letter are compared as texts. -/
theorem le_other_iff_le {left right : Text}
    : (other left).le (other right) = true ↔ left ≤ right := by
  rw [le_other_iff, List.lex_eq_false_iff_ge, ← List.not_lt, not_lt]

theorem le_trans {first second third : ParameterKey} (firstLe : first.le second = true)
    (secondLe : second.le third = true)
    : first.le third = true := by
  match first, second, third with
  | axis left, axis middle, axis right =>
      have below : left ≤ middle := of_decide_eq_true firstLe
      have above : middle ≤ right := of_decide_eq_true secondLe
      exact decide_eq_true (below.trans above)
  | axis _, _, other _ => rfl
  | other left, other middle, other right =>
      rw [le_other_iff, List.lex_eq_false_iff_ge] at firstLe secondLe ⊢
      exact List.le_trans firstLe secondLe
  | other _, axis _, _ => cases firstLe
  | _, other _, axis _ => cases secondLe

theorem le_total (left right : ParameterKey)
    : (left.le right || right.le left) = true := by
  match left, right with
  | axis left, axis right => simpa [le] using Nat.le_total left right
  | axis _, other _ => rfl
  | other _, axis _ => rfl
  | other left, other right =>
      rw [Bool.or_eq_true, le_other_iff, le_other_iff, List.lex_eq_false_iff_ge,
        List.lex_eq_false_iff_ge]
      exact List.le_total left right

theorem eq_iff_le_le {left right : ParameterKey}
    : left = right ↔ left.le right = true ∧ right.le left = true := by
  match left, right with
  | axis left, axis right => simp [le, Nat.le_antisymm_iff]
  | axis _, other _ => simp [le]
  | other _, axis _ => simp [le]
  | other left, other right =>
      rw [le_other_iff, le_other_iff, List.lex_eq_false_iff_ge, List.lex_eq_false_iff_ge,
        other.injEq]
      refine ⟨?_, fun both => List.le_antisymm both.1 both.2⟩
      rintro rfl
      exact ⟨List.le_refl left, List.le_refl left⟩

theorem ofWord_eq_axis {letter : Character} (isAxis : letter ∈ parameterLetters) (rest : Text)
    : ∃ index, ofWord (letter :: rest) = axis index
        ∧ parameterLetters.idxOf? letter = some index := by
  obtain ⟨index, found⟩ := Option.isSome_iff_exists.mp (List.isSome_idxOf?.mpr isAxis)
  exact ⟨index, by simp [ofWord, found], found⟩

theorem ofWord_of_isAxisless {word : Text} (axisless : isAxisless word = true)
    : ofWord word = other word := by
  cases word with
  | nil => rfl
  | cons letter rest =>
      have absent : letter ∉ parameterLetters := by simpa [isAxisless] using axisless
      rw [ofWord, List.idxOf?_eq_none_iff.mpr absent]

/-- The words of an axis letter are those with one key. -/
theorem ofWord_eq_iff_of_axis {letter : Character} (isAxis : letter ∈ parameterLetters)
    (rest word : Text)
    : ofWord word = ofWord (letter :: rest) ↔ word.head? = some letter := by
  obtain ⟨index, key, found⟩ := ofWord_eq_axis isAxis rest
  rw [key]
  cases word with
  | nil => simp [ofWord]
  | cons first more =>
      rw [List.head?_cons, Option.some.injEq]
      constructor
      · intro same
        by_cases firstAxis : first ∈ parameterLetters
        · obtain ⟨place, firstKey, firstFound⟩ := ofWord_eq_axis firstAxis more
          rw [firstKey, axis.injEq] at same
          obtain ⟨_, atPlace, -⟩ := List.idxOf?_eq_some_iff.mp firstFound
          obtain ⟨_, atIndex, -⟩ := List.idxOf?_eq_some_iff.mp found
          subst same
          exact atPlace.symm.trans atIndex
        · rw [ofWord_of_isAxisless (by simpa [isAxisless] using firstAxis)] at same
          cases same
      · rintro rfl
        rw [← key]
        simp [ofWord, found]

/-- A word without an axis letter has its key to itself. -/
theorem ofWord_eq_iff_of_isAxisless {word : Text} (axisless : isAxisless word = true)
    (candidate : Text)
    : ofWord candidate = ofWord word ↔ candidate = word := by
  refine ⟨fun same => ?_, fun same => by rw [same]⟩
  rw [ofWord_of_isAxisless axisless] at same
  cases candidate with
  | nil => simpa [ofWord] using same
  | cons first more =>
      by_cases isAxis : first ∈ parameterLetters
      · obtain ⟨index, key, -⟩ := ofWord_eq_axis isAxis more
        rw [key] at same
        cases same
      · rw [ofWord_of_isAxisless (by simpa [isAxisless] using isAxis)] at same
        exact other.inj same

/-- No word with an axis letter comes after one without. -/
theorem isAxisless_of_le {left right : Text} (axisless : isAxisless left = true)
    (inOrder : (ofWord left).le (ofWord right) = true)
    : isAxisless right = true := by
  cases right with
  | nil => rfl
  | cons letter rest =>
      by_contra axial
      have isAxis : letter ∈ parameterLetters := by simpa [isAxisless] using axial
      obtain ⟨index, key, -⟩ := ofWord_eq_axis isAxis rest
      rw [ofWord_of_isAxisless axisless, key] at inOrder
      cases inOrder

end ParameterKey

theorem orders_sortParameters
    : OrdersBy (fun left right => (ParameterKey.ofWord left).le (ParameterKey.ofWord right))
        ParameterKey.ofWord where
  trans _ _ _ := ParameterKey.le_trans
  total _ _ := ParameterKey.le_total _ _
  key_iff _ _ := ParameterKey.eq_iff_le_le

/-- Words are sorted alike if those of each axis letter are the same in their order, and all others
are the same in any order.
-/
theorem sortParameters_congr {left right : List Text}
    (axes : ∀ letter ∈ parameterLetters,
      left.filter (·.head? = some letter) = right.filter (·.head? = some letter))
    (others : (left.filter isAxisless).Perm (right.filter isAxisless))
    : sortParameters left = sortParameters right := by
  refine orders_sortParameters.mergeSort_congr fun item => ?_
  by_cases axisless : isAxisless item = true
  · have alone (words : List Text)
        : words.filter (ParameterKey.ofWord · = ParameterKey.ofWord item)
          = List.replicate ((words.filter isAxisless).count item) item := by
      rw [← List.filter_eq, List.filter_filter]
      refine List.filter_congr fun word _ => ?_
      simp only [ParameterKey.ofWord_eq_iff_of_isAxisless axisless]
      by_cases same : word = item
      · simp [same, axisless]
      · simp [same]
    rw [alone, alone, others.count_eq]
  · cases item with
    | nil => exact absurd rfl axisless
    | cons letter rest =>
        have isAxis : letter ∈ parameterLetters := by simpa [isAxisless] using axisless
        simp only [ParameterKey.ofWord_eq_iff_of_axis isAxis]
        exact axes letter isAxis

theorem perm_sortParameters (words : List Text)
    : (sortParameters words).Perm words :=
  List.mergeSort_perm words _

-----------------------------------------------------------------------------------------
-- Buckets
-----------------------------------------------------------------------------------------

/-- The words of each axis letter as they came, in the order of the letters, and then all others in
ascending order by code point.
-/
def inBuckets (words : List Text) : List Text :=
  partsBy List.head? (parameterLetters.map some) words
  ++ (words.filter isAxisless).insertionSort (· ≤ ·)

theorem isAxisless_of_mem_insertionSort {word : Text} {words : List Text}
    (member : word ∈ (words.filter isAxisless).insertionSort (· ≤ ·))
    : isAxisless word = true :=
  (List.mem_filter.mp ((List.mem_insertionSort _).mp member)).2

/-- The words of an axis letter, and no others. -/
theorem mem_axisParts_iff {word : Text} {words : List Text}
    : word ∈ partsBy List.head? (parameterLetters.map some) words
      ↔ word ∈ words ∧ isAxisless word = false := by
  cases word with
  | nil => simp [partsBy, isAxisless]
  | cons letter rest => simp [partsBy, isAxisless, and_comm]

/-- The buckets of the axis letters stand in the order of the letters, and in each of them all keys
are the same.
-/
theorem pairwise_axisParts (words : List Text)
    : (partsBy List.head? (parameterLetters.map some) words).Pairwise fun left right =>
        (ParameterKey.ofWord left).le (ParameterKey.ofWord right) = true := by
  have keyOf {letter : Character} (isAxis : letter ∈ parameterLetters) {word : Text}
      (member : word ∈ words.filter (·.head? = some letter))
      : ParameterKey.ofWord word = ParameterKey.ofWord [letter] := by
    have head := of_decide_eq_true (List.mem_filter.mp member).2
    exact (ParameterKey.ofWord_eq_iff_of_axis isAxis [] word).mpr head
  have letters
      : parameterLetters.Pairwise fun left right =>
          (ParameterKey.ofWord [left]).le (ParameterKey.ofWord [right]) = true := by
    decide
  rw [partsBy, List.flatMap_map]
  refine List.pairwise_flatMap.mpr ⟨fun letter isAxis => ?_, ?_⟩
  · refine List.pairwise_of_forall_mem_list fun left leftMember right rightMember => ?_
    have same := (keyOf isAxis leftMember).trans (keyOf isAxis rightMember).symm
    exact (ParameterKey.eq_iff_le_le.mp same).1
  · refine letters.imp_of_mem fun {first second} firstAxis secondAxis inOrder => ?_
    intro left leftMember right rightMember
    rw [keyOf firstAxis leftMember, keyOf secondAxis rightMember]
    exact inOrder

theorem pairwise_inBuckets (words : List Text)
    : (inBuckets words).Pairwise fun left right =>
        (ParameterKey.ofWord left).le (ParameterKey.ofWord right) = true := by
  refine List.pairwise_append.mpr ⟨pairwise_axisParts words, ?_, ?_⟩
  · refine (List.pairwise_insertionSort (· ≤ ·) _).imp_of_mem ?_
    intro left right leftMember rightMember inOrder
    rw [ParameterKey.ofWord_of_isAxisless (isAxisless_of_mem_insertionSort leftMember),
      ParameterKey.ofWord_of_isAxisless (isAxisless_of_mem_insertionSort rightMember)]
    exact ParameterKey.le_other_iff_le.mpr inOrder
  · intro left leftMember right rightMember
    have axial := (mem_axisParts_iff.mp leftMember).2
    cases left with
    | nil => cases axial
    | cons letter rest =>
        have isAxis : letter ∈ parameterLetters := by simpa [isAxisless] using axial
        obtain ⟨index, key, -⟩ := ParameterKey.ofWord_eq_axis isAxis rest
        rw [key,
          ParameterKey.ofWord_of_isAxisless (isAxisless_of_mem_insertionSort rightMember)]
        rfl

theorem filter_axis_inBuckets {letter : Character} (isAxis : letter ∈ parameterLetters)
    (words : List Text)
    : (inBuckets words).filter (·.head? = some letter) = words.filter (·.head? = some letter) := by
  have others
      : ((words.filter isAxisless).insertionSort (· ≤ ·)).filter (·.head? = some letter) = [] := by
    refine List.filter_eq_nil_iff.mpr fun word member head => ?_
    have axisless := isAxisless_of_mem_insertionSort member
    simp [isAxisless, of_decide_eq_true head, isAxis] at axisless
  have distinct : (parameterLetters.map some).Nodup := by decide
  rw [inBuckets, List.filter_append, others, List.append_nil, filter_partsBy List.head? distinct,
    if_pos (List.mem_map_of_mem isAxis)]

theorem filter_isAxisless_inBuckets (words : List Text)
    : (inBuckets words).filter isAxisless
      = (words.filter isAxisless).insertionSort (· ≤ ·) := by
  have axes
      : (partsBy List.head? (parameterLetters.map some) words).filter isAxisless = [] := by
    refine List.filter_eq_nil_iff.mpr fun word member axisless => ?_
    rw [(mem_axisParts_iff.mp member).2] at axisless
    cases axisless
  rw [inBuckets, List.filter_append, axes, List.nil_append]
  exact List.filter_eq_self.mpr fun word member => isAxisless_of_mem_insertionSort member

/-- To sort words is to put them into buckets. This loses none and doubles none, changes nothing
when it is done again, and may be done with parts of the words before it is done with all of them.
-/
theorem sortParameters_bucketwise (words more : List Text)
    : sortParameters words = inBuckets words
      ∧ (sortParameters words).Perm words
      ∧ sortParameters (sortParameters words) = sortParameters words
      ∧ sortParameters (words ++ more)
        = sortParameters (sortParameters words ++ sortParameters more) := by
  have settled : sortParameters (inBuckets words) = inBuckets words :=
    List.mergeSort_of_pairwise (pairwise_inBuckets words)
  have others : (words.filter isAxisless).Perm ((inBuckets words).filter isAxisless) := by
    rw [filter_isAxisless_inBuckets]
    exact (List.perm_insertionSort (· ≤ ·) _).symm
  have same : sortParameters words = sortParameters (inBuckets words) :=
    sortParameters_congr (fun letter isAxis => (filter_axis_inBuckets isAxis words).symm) others
  refine ⟨same.trans settled, perm_sortParameters words, ?_, ?_⟩
  · exact orders_sortParameters.mergeSort_mergeSort words
  · exact orders_sortParameters.mergeSort_append words more

/-- A word in lowercase has no axis letter, and the empty word comes before all such words. -/
example
    : inBuckets ["z1", "Z2", "#2", "X1", "", "#10", "Z1"]
      = (["X1", "Z2", "Z1", "", "#10", "#2", "z1"] : List Text) := by
  decide

end LatheGloss.Program
