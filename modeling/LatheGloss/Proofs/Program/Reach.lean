import Mathlib
import LatheGloss.Proofs.Program.Scan
import LatheGloss.Proofs.Program.Surroundings

/-! Labels and jumps reach further than other words: they are marked over letters and digits, as far
as there are any, while a line falls apart into words wherever a letter follows something else. So
where a word begins, the only marks that can come from before are those of labels and jumps.
-/

namespace LatheGloss.Program

/-- A label or a jump begins before a place, with only word characters from there to the place. -/
def IsReached (before : Text) : Prop :=
  ∃ front keyword tail,
    before = front ++ (keyword ++ tail)
    ∧ (Spells ['N'] keyword ∨ Spells Rule.jumpKeyword keyword)
    ∧ ∀ c ∈ tail, Text.isWordCharacter c = true

-----------------------------------------------------------------------------------------
-- Classes of characters
-----------------------------------------------------------------------------------------

theorem isPunctuation_of_isBlank {c : Character} (ascii : c.toNat < 128)
    (blank : Text.isBlank c = true)
    : isPunctuation c = true :=
  imp_of_ascii (by decide +kernel) ascii blank

/-- What holds of no punctuation holds of no blank. -/
theorem eq_false_of_isBlank {holds : Character → Bool} (none : punctuation.any holds = false)
    {c : Character} (ascii : c.toNat < 128) (blank : Text.isBlank c = true)
    : holds c = false := by
  by_contra held
  have plain := isPunctuation_of_holds none (Bool.of_not_eq_false held)
  rw [isPunctuation_of_isBlank ascii blank] at plain
  cases plain

theorem isDecimalDigit_of_isAlpha {c : Character} (letter : c.isAlpha = true)
    : Text.isDecimalDigit c = false := by
  have code := code_of_isAlpha letter
  rw [Text.isDecimalDigit, if_pos (by omega)]
  by_contra digit
  rw [not_isAlpha_of_isDigit (Bool.of_not_eq_false digit)] at letter
  cases letter

/-- A letter is in no number. -/
theorem isNumberMark_of_isAlpha {c : Character} (letter : c.isAlpha = true)
    : isNumberMark c = false := by
  have apart (mark : Character) (low : mark.toNat < 65) : c ≠ mark := by
    rintro rfl
    have := code_of_isAlpha letter
    omega
  simp [isNumberMark, isDigitOrPoint, isDecimalDigit_of_isAlpha letter, apart '+' (by decide),
    apart '-' (by decide), apart '.' (by decide)]

theorem isWordCharacter_of_isAlpha {c : Character} (letter : c.isAlpha = true)
    : Text.isWordCharacter c = true := by
  have code := code_of_isAlpha letter
  rw [Text.isWordCharacter, if_pos (by omega), letter, Bool.true_or, Bool.true_or]

/-- What counts as a capital letter is a letter, outside of ASCII maybe of another script. -/
theorem isAlpha_of_isVariantOf {capital c : Character} (ascii : c.toNat < 128)
    (letter : capital.isAlpha = true) (variant : isVariantOf capital c = true)
    : c.isAlpha = true := by
  have listed := List.contains_iff_mem.mp variant
  unfold variants at listed
  split at listed
  case h_4 =>
    simp only [List.mem_cons, List.not_mem_nil, or_false] at listed
    rcases listed with rfl | rfl
    · exact letter
    · rw [Character.isAlpha_toLower_eq_isAlpha, letter]
  all_goals
    simp only [List.mem_cons, List.not_mem_nil, or_false] at listed
    rcases listed with rfl | rfl | rfl | rfl <;> first | rfl | exact absurd ascii (by decide)

theorem Spells.exists_of_mem {keyword word : Text} (spells : Spells keyword word) {c : Character}
    (member : c ∈ word)
    : ∃ capital ∈ keyword, isVariantOf capital c = true := by
  induction spells with
  | nil => cases member
  | cons here later ih =>
      rcases List.mem_cons.mp member with rfl | inLater
      · exact ⟨_, List.mem_cons_self, here⟩
      · obtain ⟨capital, listed, variant⟩ := ih inLater
        exact ⟨capital, List.mem_cons_of_mem _ listed, variant⟩

/-- Behind its first letter, a keyword is spelled with the others. -/
theorem Spells.capitalOf_mem {first d : Character} {keyword earlier later : Text}
    (spells : Spells (first :: keyword) (earlier ++ d :: later)) (begun : earlier ≠ [])
    (known : keyword ⊆ spelledCapitals)
    : capitalOf d ∈ keyword := by
  obtain ⟨c, more, rfl⟩ := List.exists_cons_of_ne_nil begun
  cases spells with
  | cons _ others =>
      obtain ⟨capital, listed, variant⟩ :=
        Spells.exists_of_mem others (List.mem_append_right more List.mem_cons_self)
      rwa [capitalOf_of_isVariantOf (known listed) variant]

theorem Spells.isAlpha {keyword word : Text} (spells : Spells keyword word)
    (letters : keyword.all Character.isAlpha = true) (ascii : ∀ c ∈ word, c.toNat < 128)
    : ∀ c ∈ word, c.isAlpha = true := by
  intro c member
  obtain ⟨capital, listed, variant⟩ := spells.exists_of_mem member
  exact isAlpha_of_isVariantOf (ascii c member) (List.all_eq_true.mp letters capital listed) variant

-----------------------------------------------------------------------------------------
-- Letters within a mark
-----------------------------------------------------------------------------------------

theorem eq_cons_of_cons_eq_append {α : Type} {first d : α} {tail earlier later : List α}
    (same : first :: tail = earlier ++ d :: later) (begun : earlier ≠ [])
    : ∃ more, earlier = first :: more ∧ tail = more ++ d :: later := by
  cases earlier with
  | nil => exact absurd rfl begun
  | cons c more =>
      obtain ⟨rfl, rfl⟩ := List.cons.inj same
      exact ⟨more, rfl, rfl⟩

/-- A letter within a mark is one of a keyword behind letters alone, or the mark goes on from there
over word characters, as far as there are any.
-/
theorem Style.Shape.inner_letter {style : Style} {previous : Option Character} {d : Character}
    {earlier later rest : Text} (shape : style.Shape previous (earlier ++ d :: later) rest)
    (ascii : ∀ c ∈ earlier ++ d :: later, c.toNat < 128) (begun : earlier ≠ [])
    (letter : d.isAlpha = true)
    : (∃ keyword tail,
        earlier = keyword ++ tail
        ∧ (Spells ['N'] keyword ∨ Spells Rule.jumpKeyword keyword)
        ∧ (∀ c ∈ tail, Text.isWordCharacter c = true)
        ∧ IsRun Text.isWordCharacter (d :: later) rest)
      ∨ ((∀ c ∈ earlier, c.isAlpha = true) ∧ capitalOf d ∈ (['O', 'T', 'O', 'F'] : Text)) := by
  have other : ¬isNumberMark d = true := by simp [isNumberMark_of_isAlpha letter]
  cases style with
  | jump =>
      obtain ⟨keyword, tail, same, spells, isRun⟩ := shape
      rw [same] at ascii
      have letters := spells.isAlpha (by decide) (List.forall_mem_append.mp ascii).1
      rcases List.append_eq_append_iff.mp same with ⟨more, rfl, begins⟩ | ⟨more, rfl, begins⟩
      · cases more with
        | nil =>
            obtain rfl : tail = d :: later := begins.symm
            exact .inl ⟨earlier, [], by simp, .inr (by simpa using spells), by simp, isRun⟩
        | cons c more =>
            obtain ⟨rfl, rfl⟩ := List.cons.inj begins
            refine .inr ⟨fun e member => letters e (List.mem_append_left _ member), ?_⟩
            have inner := spells.capitalOf_mem begun (by decide)
            simp only [List.mem_cons, List.not_mem_nil, or_false] at inner ⊢
            tauto
      · obtain ⟨tailAll, restAll⟩ := List.forall_mem_append.mp (begins ▸ isRun.all)
        exact .inl ⟨keyword, more, rfl, .inr spells, tailAll, restAll, isRun.stops⟩
  | conditional =>
      have letters := shape.1.isAlpha (by decide) ascii
      have inner := shape.1.capitalOf_mem begun (by decide)
      exact .inr ⟨fun e member => letters e (List.mem_append_left _ member), by simp_all⟩
  | code =>
      obtain ⟨first, tail, same, -, full⟩ := shape
      obtain ⟨more, -, rfl⟩ := eq_cons_of_cons_eq_append same.symm begun
      exact absurd (isNumberMark_of_isDecimalDigit (full.2.all d (by simp))) other
  | label =>
      obtain ⟨first, tail, same, ⟨capital, listed, variant⟩, full⟩ := shape
      obtain ⟨more, rfl, rfl⟩ := eq_cons_of_cons_eq_append same.symm begun
      obtain ⟨moreAll, restAll⟩ := List.forall_mem_append.mp full.2.all
      rw [List.mem_singleton] at listed
      subst listed
      exact .inl ⟨[first], more, rfl, .inl (.cons variant .nil), moreAll, restAll, full.2.stops⟩
  | indexedVariable =>
      obtain ⟨first, tail, same, -, full⟩ := shape
      obtain ⟨more, -, rfl⟩ := eq_cons_of_cons_eq_append same.symm begun
      exact absurd (isNumberMark_of_isDecimalDigit (full.2.all d (by simp))) other
  | parameter =>
      obtain ⟨first, tail, same, -, signed⟩ := shape
      obtain ⟨more, -, rfl⟩ := eq_cons_of_cons_eq_append same.symm begun
      exact absurd (signed.all d (by simp)) other
  | comment => exact shape.elim
  | terminator => exact shape.elim

-----------------------------------------------------------------------------------------
-- Marks over a place
-----------------------------------------------------------------------------------------

/-- A mark over a place has some of its word before the place and the rest from there on. -/
theorem exists_parts_of_covers {front rest : Text} {d : Character} {span : Span}
    (member : span ∈ wordSpans (front ++ d :: rest)) (before : span.start < front.length)
    (beyond : front.length < span.stop)
    : ∃ left earlier later after,
        front = left ++ earlier
        ∧ earlier ≠ []
        ∧ rest = later ++ after
        ∧ span.start = left.length
        ∧ span.stop = front.length + (later.length + 1)
        ∧ span.style.Shape left.getLast? (earlier ++ d :: later) after := by
  obtain ⟨left, word, after, same, start, length, shape⟩ := marksFrom_of_mem member
  rw [Option.or_none] at shape
  rw [Nat.zero_add] at start
  simp only [Span.stop, start, length] at before beyond ⊢
  obtain ⟨earlier, rfl⟩ : left <+: front :=
    List.prefix_of_prefix_length_le ⟨_, same.symm⟩ (List.prefix_append front _) (by omega)
  rw [List.append_assoc, List.append_cancel_left_eq] at same
  rw [List.length_append] at before beyond
  obtain ⟨more, rfl⟩ : earlier <+: word :=
    List.prefix_of_prefix_length_le ⟨_, same⟩ (List.prefix_append word _) (by omega)
  rw [List.append_assoc, List.append_cancel_left_eq] at same
  cases more with
  | nil => simp at beyond
  | cons c later =>
      obtain ⟨rfl, rfl⟩ := List.cons.inj same
      refine ⟨left, earlier, later, after, rfl, ?_, rfl, rfl, ?_, shape⟩
      · rintro rfl
        simp at before
      · simp only [List.length_append, List.length_cons]
        omega

/-- A label and a jump begin with a letter that is not one further on in a keyword. -/
theorem exists_cons_of_spells {keyword : Text}
    (spells : Spells ['N'] keyword ∨ Spells Rule.jumpKeyword keyword)
    : ∃ first more, keyword = first :: more ∧ capitalOf first ∈ (['N', 'G'] : Text) := by
  rcases spells with label | jump
  · obtain ⟨first, more, variant, -, rfl⟩ := List.forall₂_cons_left_iff.mp label
    exact ⟨first, more, rfl, by simp [capitalOf_of_isVariantOf (by decide) variant]⟩
  · obtain ⟨first, more, variant, -, rfl⟩ := List.forall₂_cons_left_iff.mp jump
    exact ⟨first, more, rfl, by simp [capitalOf_of_isVariantOf (by decide) variant]⟩

theorem isAlpha_of_spells {keyword : Text}
    (spells : Spells ['N'] keyword ∨ Spells Rule.jumpKeyword keyword)
    (ascii : ∀ c ∈ keyword, c.toNat < 128)
    : ∀ c ∈ keyword, c.isAlpha = true := by
  rcases spells with label | jump
  · exact label.isAlpha (by decide) ascii
  · exact jump.isAlpha (by decide) ascii

/-- A keyword and the word characters behind it are the word of a label or a jump. -/
theorem exists_shape_of_spells {keyword run after : Text} (previous : Option Character)
    (spells : Spells ['N'] keyword ∨ Spells Rule.jumpKeyword keyword) (full : run ≠ [])
    (isRun : IsRun Text.isWordCharacter run after)
    : ∃ style : Style, style.Shape previous (keyword ++ run) after := by
  rcases spells with label | jump
  · obtain ⟨first, more, variant, none, rfl⟩ := List.forall₂_cons_left_iff.mp label
    cases none
    exact ⟨.label, first, run, rfl, ⟨'N', List.mem_singleton_self _, variant⟩, full, isRun⟩
  · exact ⟨.jump, keyword, run, rfl, jump, isRun⟩

/-- A mark that lies over the beginning of a label or a jump is that of another one, and goes on as
far.
-/
theorem lt_stop_of_covers_keyword {front keyword tail rest : Text} {d : Character} {span : Span}
    (spells : Spells ['N'] keyword ∨ Spells Rule.jumpKeyword keyword)
    (all : ∀ c ∈ tail, Text.isWordCharacter c = true) (letter : d.isAlpha = true)
    (ascii : ∀ c ∈ front ++ (keyword ++ tail) ++ d :: rest, c.toNat < 128)
    (member : span ∈ wordSpans (front ++ (keyword ++ tail) ++ d :: rest))
    (earlier : span.start < front.length) (beyond : front.length < span.stop)
    : (front ++ (keyword ++ tail)).length < span.stop := by
  have asciiKeyword : ∀ c ∈ keyword, c.toNat < 128 := fun c known => ascii c (by simp [known])
  have letters := isAlpha_of_spells spells asciiKeyword
  obtain ⟨first, more, rfl, capital⟩ := exists_cons_of_spells spells
  have whole : front ++ (first :: more ++ tail) ++ d :: rest
      = front ++ first :: (more ++ tail ++ d :: rest) := by
    simp
  rw [whole] at member ascii
  obtain ⟨left, begun, later, ending, rfl, begins, same, -, stop, shape⟩ :=
    exists_parts_of_covers member earlier beyond
  have asciiMark : ∀ c ∈ begun ++ first :: later, c.toNat < 128 := fun c known => ascii c (by
    rw [same]
    simp only [List.mem_append, List.mem_cons] at known ⊢
    tauto)
  rcases shape.inner_letter asciiMark begins (letters first List.mem_cons_self) with
    ⟨-, -, -, -, -, runsOn⟩ | ⟨-, other⟩
  · have word : ∀ c ∈ first :: more ++ tail, Text.isWordCharacter c = true :=
      List.forall_mem_append.mpr
        ⟨fun c member => isWordCharacter_of_isAlpha (letters c member), all⟩
    have continued : first :: later ++ ending = (first :: more ++ tail) ++ d :: rest :=
      congrArg (first :: ·) same.symm
    have reaches := runsOn.length_lt continued word (isWordCharacter_of_isAlpha letter)
    rw [stop]
    simp only [List.length_append, List.length_cons] at reaches ⊢
    omega
  · simp only [List.mem_cons, List.not_mem_nil, or_false] at capital other
    rcases capital with isN | isG <;> simp_all

/-- What a label or a jump reaches is under a mark, either its own or one that lies over it. -/
theorem IsReached.covered {before rest : Text} {d : Character} (reached : IsReached before)
    (ascii : ∀ c ∈ before ++ d :: rest, c.toNat < 128) (letter : d.isAlpha = true)
    : ∃ span ∈ wordSpans (before ++ d :: rest),
        span.start < before.length ∧ before.length < span.stop := by
  obtain ⟨front, keyword, tail, rfl, spells, all⟩ := reached
  obtain ⟨run, after, same, isRun⟩ :=
    IsRun.exists_eq_append Text.isWordCharacter (tail ++ d :: rest)
  have longer := isRun.length_lt same.symm all (isWordCharacter_of_isAlpha letter)
  have full : run ≠ [] := List.ne_nil_of_length_pos (Nat.zero_lt_of_lt longer)
  obtain ⟨style, shape⟩ := exists_shape_of_spells front.getLast? spells full isRun
  have begun : 0 < keyword.length := by
    obtain ⟨first, more, rfl, -⟩ := exists_cons_of_spells spells
    exact Nat.succ_pos _
  have whole : front ++ (keyword ++ tail) ++ d :: rest = front ++ (keyword ++ run ++ after) := by
    simp only [List.append_assoc, same]
  rcases mem_wordSpans_or_covered shape with marked | ⟨span, known, earlier, beyond⟩
  · refine ⟨_, whole ▸ marked, ?_, ?_⟩
    · simp only [List.length_append]
      omega
    · simp only [Span.stop, List.length_append]
      omega
  · rw [← whole] at known
    refine ⟨span, known, ?_, lt_stop_of_covers_keyword spells all letter ascii known earlier beyond⟩
    rw [List.length_append]
    omega

/-- Where a mark lies over the beginning of a word, it is that of a label or a jump. -/
theorem isReached_of_covers {before rest : Text} {d : Character} {span : Span}
    (ascii : ∀ c ∈ before ++ d :: rest, c.toNat < 128) (begins : BeginsAfter before [d])
    (member : span ∈ wordSpans (before ++ d :: rest)) (earlier : span.start < before.length)
    (beyond : before.length < span.stop)
    : IsReached before := by
  obtain ⟨left, begun, later, after, rfl, full, rfl, -, -, shape⟩ :=
    exists_parts_of_covers member earlier beyond
  obtain ⟨c, last⟩ : ∃ c, begun.getLast? = some c :=
    ⟨_, List.getLast?_eq_some_getLast full⟩
  have inBegun : c ∈ begun := List.mem_of_getLast? last
  have visible : Text.isBlank c ≠ true := by
    intro blank
    have code := ascii c (by simp [inBegun])
    have plain := shape.plain c (List.mem_append_left _ inBegun)
    rw [isPunctuation_of_isBlank code blank] at plain
    cases plain
  have apart : adheres c d = false := by
    refine (begins c ?_).resolve_left visible d rfl
    rw [List.getLast?_append_of_ne_nil _ full, last]
    rfl
  simp only [adheres, Bool.or_eq_false_iff, Bool.not_eq_false'] at apart
  have asciiMark : ∀ e ∈ begun ++ d :: later, e.toNat < 128 := fun e known => ascii e (by
    simp only [List.mem_append, List.mem_cons] at known ⊢
    tauto)
  rcases shape.inner_letter asciiMark full apart.2 with
    ⟨keyword, tail, rfl, spells, all, -⟩ | ⟨letters, -⟩
  · exact ⟨left, keyword, tail, rfl, spells, all⟩
  · rw [letters c inBegun] at apart
    cases apart.1

/-- What a label or a jump reaches begins with a letter, since something visible is before it. -/
theorem IsReached.isAlpha {before : Text} {d : Character} (reached : IsReached before)
    (begins : BeginsAfter before [d]) (ascii : ∀ c ∈ before, c.toNat < 128)
    : d.isAlpha = true := by
  obtain ⟨front, keyword, tail, rfl, spells, all⟩ := reached
  have letters := isAlpha_of_spells spells fun c member => ascii c (by simp [member])
  have word : ∀ c ∈ keyword ++ tail, Text.isWordCharacter c = true :=
    List.forall_mem_append.mpr ⟨fun c member => isWordCharacter_of_isAlpha (letters c member), all⟩
  obtain ⟨first, more, rfl, -⟩ := exists_cons_of_spells spells
  have full : first :: more ++ tail ≠ [] := by simp
  have last := List.getLast?_eq_some_getLast full
  have member := List.getLast_mem full
  have visible : Text.isBlank ((first :: more ++ tail).getLast full) = false := by
    by_contra blank
    have none := @eq_false_of_isBlank Text.isWordCharacter (by decide) _
      (ascii _ (List.mem_append_right front member)) (Bool.of_not_eq_false blank)
    rw [word _ member] at none
    cases none
  have apart := (begins _ (by rw [List.getLast?_append_of_ne_nil _ full, last]; rfl)).resolve_left
    (by simpa using visible) d rfl
  simp only [adheres, Bool.or_eq_false_iff, Bool.not_eq_false'] at apart
  exact apart.2

/-- A place where a word begins lies under a mark that begins before just when a label or a jump
reaches it.
-/
theorem isReached_iff {before rest : Text} {d : Character}
    (ascii : ∀ c ∈ before ++ d :: rest, c.toNat < 128) (begins : BeginsAfter before [d])
    : IsReached before
      ↔ ∃ span ∈ wordSpans (before ++ d :: rest),
          span.start < before.length ∧ before.length < span.stop := by
  constructor
  · intro reached
    have asciiBefore := (List.forall_mem_append.mp ascii).1
    exact reached.covered ascii (reached.isAlpha begins asciiBefore)
  · rintro ⟨span, member, earlier, beyond⟩
    exact isReached_of_covers ascii begins member earlier beyond

-----------------------------------------------------------------------------------------
-- Marks on a stretch of a line
-----------------------------------------------------------------------------------------

/-- What is marked has the shape of its style, and a shape is marked unless a label or a jump
reaches it.
-/
theorem mem_wordSpans_iff {style : Style} {before word after : Text} (full : word ≠ [])
    (ascii : ∀ c ∈ before ++ word ++ after, c.toNat < 128) (begins : BeginsAfter before word)
    : ⟨before.length, word.length, style⟩ ∈ wordSpans (before ++ word ++ after)
      ↔ ¬IsReached before ∧ style.Shape before.getLast? word after := by
  obtain ⟨d, rest, rfl⟩ := List.exists_cons_of_ne_nil full
  have whole : before ++ d :: rest ++ after = before ++ d :: (rest ++ after) := by simp
  rw [whole] at ascii ⊢
  rw [isReached_iff ascii begins]
  constructor
  · intro marked
    constructor
    · rintro ⟨span, known, earlier, beyond⟩
      have here : Span.Holds ⟨before.length, (d :: rest).length, style⟩ before.length :=
        ⟨Nat.le_refl _, by simp [Span.stop]⟩
      have same := (areOrderly_wordSpans _).eq_of_holds known marked
        ⟨Nat.le_of_lt earlier, beyond⟩ here
      rw [same] at earlier
      exact Nat.lt_irrefl _ earlier
    · obtain ⟨left, word, ending, same, start, length, shape⟩ := marksFrom_of_mem marked
      rw [Nat.zero_add] at start
      rw [Option.or_none] at shape
      obtain ⟨rfl, continued⟩ := List.append_inj same start
      rw [← List.cons_append] at continued
      obtain ⟨rfl, rfl⟩ := List.append_inj continued length
      exact shape
  · rintro ⟨free, shape⟩
    exact (mem_wordSpans_or_covered shape).resolve_right free

/-- No mark is on a stretch of a line just when none reaches it from before and no word of some
style begins in it.
-/
theorem forall_not_mem_wordSpans_iff {before word after : Text} (full : word ≠ [])
    (ascii : ∀ c ∈ before ++ word ++ after, c.toNat < 128) (begins : BeginsAfter before word)
    : (∀ span ∈ wordSpans (before ++ word ++ after),
        ¬(span.start < before.length + word.length ∧ before.length < span.stop))
      ↔ ¬IsReached before
        ∧ ∀ front back,
            word = front ++ back
            → back ≠ []
            → ¬WordBegins (before ++ front).getLast? (back ++ after) := by
  obtain ⟨d, rest, same⟩ := List.exists_cons_of_ne_nil full
  have reaches : IsReached before
      ↔ ∃ span ∈ wordSpans (before ++ word ++ after),
          span.start < before.length ∧ before.length < span.stop := by
    subst same
    have whole : before ++ d :: rest ++ after = before ++ d :: (rest ++ after) := by simp
    rw [whole] at ascii ⊢
    exact isReached_iff ascii begins
  rw [reaches]
  constructor
  · intro free
    constructor
    · rintro ⟨span, known, earlier, beyond⟩
      exact free span known ⟨by omega, beyond⟩
    · rintro front back rfl some ⟨style, shaped, ending, continued, shape⟩
      have width := List.length_pos_of_ne_nil some
      have whole : before ++ (front ++ back) ++ after = before ++ front ++ (shaped ++ ending) := by
        simp [← continued]
      rw [whole] at free
      rcases mem_wordSpans_or_covered shape with marked | ⟨span, known, earlier, beyond⟩
      · have nonempty := (areOrderly_wordSpans _).nonempty _ marked
        refine free _ marked ⟨?_, ?_⟩
        · simp only [List.length_append]
          omega
        · simp only [Span.stop, List.length_append] at nonempty ⊢
          omega
      · rw [List.length_append] at earlier beyond
        refine free span known ⟨?_, ?_⟩
        · rw [List.length_append]
          omega
        · omega
  · rintro ⟨notReached, none⟩ span known ⟨early, late⟩
    by_cases earlier : span.start < before.length
    · exact notReached ⟨span, known, earlier, late⟩
    · obtain ⟨left, shaped, ending, whole, start, -, shape⟩ := marksFrom_of_mem known
      rw [Nat.zero_add] at start
      rw [Option.or_none] at shape
      rw [List.append_assoc] at whole
      obtain ⟨front, rfl⟩ : before <+: left :=
        List.prefix_of_prefix_length_le ⟨_, whole⟩ (List.prefix_append left _) (by omega)
      rw [List.append_assoc, List.append_cancel_left_eq] at whole
      rw [List.length_append] at start
      obtain ⟨back, rfl⟩ : front <+: word :=
        List.prefix_of_prefix_length_le ⟨_, whole.symm⟩ (List.prefix_append word _) (by omega)
      rw [List.append_assoc, List.append_cancel_left_eq] at whole
      refine none front back rfl ?_ ⟨_, shaped, ending, whole, shape⟩
      rintro rfl
      simp only [List.append_nil] at early
      omega

end LatheGloss.Program
