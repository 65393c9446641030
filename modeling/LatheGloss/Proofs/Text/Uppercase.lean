import Mathlib
import LatheGloss.Proofs.Text.Character
import LatheGloss.Text.Uppercase

/-! Uppercase texts stay as they are. No code point of the uppercase that the case tables give is
mapped by them again, which one check of the tables against themselves shows for all of them at
once. Nor does uppercase make anything vanish, or make a space or another sign that comes before the
letters.
-/

namespace LatheGloss.Text

-----------------------------------------------------------------------------------------
-- Sets of code points
-----------------------------------------------------------------------------------------

/-- A set of numbers as the bits of one number, so that large sets can be compared at once. -/
def bitsOf : List Nat → Nat
  | [] => 0
  | code :: rest => 2 ^ code ||| bitsOf rest

theorem testBit_bitsOf {codes : List Nat} {code : Nat}
    : (bitsOf codes).testBit code = true ↔ code ∈ codes := by
  induction codes with
  | nil => simp [bitsOf]
  | cons first rest ih =>
      rw [bitsOf, Nat.testBit_or, Bool.or_eq_true, ih, Nat.testBit_two_pow, decide_eq_true_iff,
        List.mem_cons, eq_comm]

/-- The code points that a run maps. -/
def CaseRun.codes (run : CaseRun) : List Nat :=
  List.range' run.first ((run.last - run.first) / run.step + 1) run.step

theorem CaseRun.mem_codes_of_upperOf? {run : CaseRun} {code upper : Nat}
    (mapped : run.upperOf? code = some upper)
    : code ∈ run.codes ∧ upper = run.upper + (code - run.first) := by
  rw [CaseRun.upperOf?, Option.ite_none_right_eq_some] at mapped
  obtain ⟨⟨above, below, aligned⟩, image⟩ := mapped
  refine ⟨List.mem_range'.mpr ⟨(code - run.first) / run.step, ?_, ?_⟩, (Option.some.inj image).symm⟩
  · exact Nat.lt_succ_of_le (Nat.div_le_div_right (by omega))
  · have parts := Nat.div_add_mod (code - run.first) run.step
    omega

/-- The code points that the case tables map. -/
def mappedCodes : List Nat :=
  caseRuns.flatMap CaseRun.codes ++ expandingCase.map Prod.fst

/-- The code points of all uppercase that the case tables give. -/
def uppercaseCodes : List Nat :=
  (caseRuns.flatMap fun run => run.codes.map fun code => run.upper + (code - run.first))
    ++ expandingCase.flatMap Prod.snd

theorem bitsOf_uppercaseCodes_and_mappedCodes
    : bitsOf uppercaseCodes &&& bitsOf mappedCodes = 0 := by
  decide +kernel

theorem not_mem_mappedCodes {code : Nat} (listed : code ∈ uppercaseCodes)
    : code ∉ mappedCodes := by
  intro mapped
  have both : (bitsOf uppercaseCodes &&& bitsOf mappedCodes).testBit code = true := by
    rw [Nat.testBit_and, testBit_bitsOf.mpr listed, testBit_bitsOf.mpr mapped, Bool.and_self]
  rw [bitsOf_uppercaseCodes_and_mappedCodes, Nat.zero_testBit] at both
  cases both

theorem uppercaseCodes_bounded
    : uppercaseCodes.all (fun code =>
        Nat.ble 65 code && (Nat.blt code 97 || Nat.blt 122 code) && Nat.blt code 0x110000)
      = true := by
  decide +kernel

/-- Uppercase comes behind the signs of ASCII and is none of its small letters. -/
theorem bounds_of_mem_uppercaseCodes {code : Nat} (listed : code ∈ uppercaseCodes)
    : 65 ≤ code ∧ (code < 97 ∨ 122 < code) ∧ code < 0x110000 := by
  simpa [and_assoc] using List.all_eq_true.mp uppercaseCodes_bounded code listed

-----------------------------------------------------------------------------------------
-- Uppercase of uppercase
-----------------------------------------------------------------------------------------

/-- What the case tables give is its own uppercase, since neither table maps it. -/
theorem upperChar_of_mem_uppercaseCodes {code : Nat} (listed : code ∈ uppercaseCodes)
    : upperChar (Character.ofNat code) = [Character.ofNat code] := by
  obtain ⟨-, notLower, known⟩ := bounds_of_mem_uppercaseCodes listed
  have toNat := Character.toNat_ofNat known
  have unmapped := not_mem_mappedCodes listed
  rw [mappedCodes, List.mem_append, not_or] at unmapped
  have noRun : caseRuns.findSome? (·.upperOf? code) = none := by
    rw [List.findSome?_eq_none_iff]
    intro run member
    by_contra some
    obtain ⟨upper, mapped⟩ := Option.ne_none_iff_exists'.mp some
    have within := (CaseRun.mem_codes_of_upperOf? mapped).1
    exact unmapped.1 (List.mem_flatMap.mpr ⟨run, member, within⟩)
  have noExpansion : expandingCase.lookup code = none := by
    rw [List.lookup_eq_none_iff]
    intro entry member
    exact bne_iff_ne.mpr fun same => unmapped.2 (List.mem_map.mpr ⟨entry, member, same.symm⟩)
  have unchanged : (Character.ofNat code).toUpper = Character.ofNat code := by
    apply Character.toUpper_eq_of_not_isLower
    rw [Character.isLower_iff, toNat]
    omega
  simp [upperChar, toNat, noRun, noExpansion, unchanged]

theorem upperChar_toUpper {c : Character} (ascii : c.toNat < 128)
    : upperChar c.toUpper = [c.toUpper] := by
  have small : c.toUpper.toNat < 128 := (Character.toNat_toUpper_le c).trans_lt ascii
  simp [upperChar, small, Character.toUpper_toUpper_eq_toUpper]

/-- Beyond ASCII a character is unchanged, or the case tables give its uppercase. -/
theorem upperChar_cases {c : Character} (wide : ¬c.toNat < 128)
    : upperChar c = [c]
      ∨ ∀ d ∈ upperChar c, ∃ code ∈ uppercaseCodes, d = Character.ofNat code := by
  unfold upperChar
  rw [if_neg wide]
  split
  · next code found =>
      obtain ⟨run, known, mapped⟩ := List.exists_of_findSome?_eq_some found
      obtain ⟨within, rfl⟩ := CaseRun.mem_codes_of_upperOf? mapped
      refine .inr fun d member => ⟨_, List.mem_append_left _ ?_, List.mem_singleton.mp member⟩
      exact List.mem_flatMap.mpr ⟨run, known, List.mem_map.mpr ⟨_, within, rfl⟩⟩
  · split
    · next codes found =>
        obtain ⟨before, after, listing, -⟩ := List.lookup_eq_some_iff.mp found
        refine .inr fun d member => ?_
        obtain ⟨code, listed, rfl⟩ := List.mem_map.mp member
        refine ⟨code, List.mem_append_right _ ?_, rfl⟩
        exact List.mem_flatMap.mpr ⟨(c.toNat, codes), by simp [listing], listed⟩
    · exact .inl rfl

/-- A character in the uppercase of another is its own uppercase. -/
theorem upperChar_of_mem_upperChar {c d : Character} (member : d ∈ upperChar c)
    : upperChar d = [d] := by
  by_cases ascii : c.toNat < 128
  · have upper : d = c.toUpper := by simpa [upperChar, ascii] using member
    rw [upper]
    exact upperChar_toUpper ascii
  · rcases upperChar_cases ascii with unchanged | mapped
    · have same : d = c := by simpa [unchanged] using member
      rwa [same]
    · obtain ⟨code, listed, rfl⟩ := mapped d member
      exact upperChar_of_mem_uppercaseCodes listed

/-- Uppercase texts are their own uppercase, character by character. -/
theorem upper_upper (text : Text)
    : upper (upper text) = upper text := by
  unfold upper
  rw [List.flatMap_assoc]
  congr 1
  funext c
  rw [List.flatMap_congr fun d member => upperChar_of_mem_upperChar member]
  simp

-----------------------------------------------------------------------------------------
-- What uppercase is made of
-----------------------------------------------------------------------------------------

theorem upperChar_of_ascii {c : Character} (ascii : c.toNat < 128)
    : upperChar c = [c.toUpper] := by
  rw [upperChar, if_pos ascii]

theorem length_upperChar_of_ascii {c : Character} (ascii : c.toNat < 128)
    : (upperChar c).length = 1 := by
  rw [upperChar_of_ascii ascii, List.length_singleton]

theorem upper_of_ascii {text : Text} (ascii : ∀ c ∈ text, c.toNat < 128)
    : upper text = text.map Character.toUpper := by
  rw [upper, List.flatMap_congr fun c member => upperChar_of_ascii (ascii c member),
    List.map_eq_flatMap]

theorem expandingCase_nonempty
    : expandingCase.all (!·.2.isEmpty) = true := by
  decide

theorem upperChar_ne_nil (c : Character)
    : upperChar c ≠ [] := by
  unfold upperChar
  split
  · simp
  · split
    · simp
    · split
      · next codes found =>
          obtain ⟨before, after, listing, -⟩ := List.lookup_eq_some_iff.mp found
          have full := List.all_eq_true.mp expandingCase_nonempty (c.toNat, codes)
            (by simp [listing])
          simpa using full
      · simp

/-- A character before the capital letters is the uppercase of nothing but itself. -/
theorem eq_of_mem_upperChar {c d : Character} (member : d ∈ upperChar c) (low : d.toNat < 65)
    : d = c := by
  by_cases ascii : c.toNat < 128
  · obtain rfl : d = c.toUpper := by simpa [upperChar_of_ascii ascii] using member
    by_cases lower : c.isLower
    · have code := Character.isLower_iff.mp lower
      rw [Character.toNat_toUpper lower] at low
      omega
    · exact Character.toUpper_eq_of_not_isLower lower
  · rcases upperChar_cases ascii with unchanged | mapped
    · simpa [unchanged] using member
    · obtain ⟨code, listed, rfl⟩ := mapped d member
      obtain ⟨above, -, known⟩ := bounds_of_mem_uppercaseCodes listed
      rw [Character.toNat_ofNat known] at low
      omega

theorem upper_append (left right : Text)
    : upper (left ++ right) = upper left ++ upper right :=
  List.flatMap_append

theorem upper_eq_nil_iff {text : Text}
    : upper text = [] ↔ text = [] := by
  rw [upper, List.flatMap_eq_nil_iff, List.eq_nil_iff_forall_not_mem]
  exact forall₂_congr fun c _ => iff_false_intro (upperChar_ne_nil c)

theorem space_mem_upper_iff {text : Text}
    : ↑ ' ' ∈ upper text ↔ ↑ ' ' ∈ text := by
  constructor
  · intro member
    obtain ⟨c, known, mapped⟩ := List.mem_flatMap.mp member
    rwa [eq_of_mem_upperChar mapped (by decide)]
  · intro member
    exact List.mem_flatMap.mpr ⟨' ', member, by decide⟩

/-- A text is as long as its uppercase if no character in it has a longer one. -/
theorem length_upper {text : Text} (single : ∀ c ∈ text, (upperChar c).length = 1)
    : (upper text).length = text.length := by
  rw [upper, List.length_flatMap, List.map_congr_left single]
  simp

/-- Up to a column before which no character has a longer uppercase, columns stay the same. -/
theorem upper_take_drop {text : Text} {column : Nat} (bound : column ≤ text.length)
    (single : ∀ c ∈ text.take column, (upperChar c).length = 1)
    : (upper text).take column = upper (text.take column)
      ∧ (upper text).drop column = upper (text.drop column) := by
  have width : (upper (text.take column)).length = column := by
    rw [length_upper single, List.length_take_of_le bound]
  have parts : upper text = upper (text.take column) ++ upper (text.drop column) := by
    rw [← upper_append, List.take_append_drop]
  rw [parts]
  exact ⟨List.take_left' width, List.drop_left' width⟩

end LatheGloss.Text
