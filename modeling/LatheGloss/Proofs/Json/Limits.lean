import Mathlib
import LatheGloss.Proofs.Json.Nesting
import LatheGloss.Proofs.Json.Scalars

/-! What stops the reader although the text may be well formed: values nested too deep and integers
of too many digits. A text that the reader gives up on for its depth has more brackets open at once
than the limit, and one that it gives up on for an integer has a longer run of digits than the
limit.
-/

namespace LatheGloss.Json

-----------------------------------------------------------------------------------------
-- How a scanner may end
-----------------------------------------------------------------------------------------

/-- How a scanner may end that takes values with at most so many levels: with a rest behind which
so many brackets are open, or with a mistake, or because the text goes beyond a limit.
-/
def Scan.Fits {α : Type} (levels before : Nat) (text : Text) (after : Nat) : Scan α → Prop
  | .ok (_, rest) => Leads before text after rest
  | .error (.mistake _ _) => True
  | .error (.digitLimit count) => digitLimit < count ∧ HasDigits count text
  | .error (.tooDeep _) => after + levels < nestingFrom .outside before text

variable {α β : Type} {levels : Nat}

theorem Scan.Fits.of_leads {first before after : Nat} {text rest : Text} {scan : Scan α}
    (leads : Leads first text before rest) (fits : scan.Fits levels before rest after)
    : scan.Fits levels first text after := by
  match scan with
  | .ok (_, _) => exact leads.trans fits
  | .error (.mistake _ _) => trivial
  | .error (.digitLimit _) => exact ⟨fits.1, leads.hasDigits fits.2⟩
  | .error (.tooDeep _) => exact Nat.lt_of_lt_of_le fits leads.nesting_le

theorem Scan.Fits.map {before after : Nat} {text : Text} {scan : Scan α}
    (fits : scan.Fits levels before text after) (f : α → β)
    : Scan.Fits levels before text after (Except.map (fun (value, rest) => (f value, rest)) scan)
    := by
  match scan with
  | .ok (_, _) => exact fits
  | .error (.mistake _ _) => trivial
  | .error (.digitLimit _) => exact fits
  | .error (.tooDeep _) => exact fits

/-- What is too deep inside of a bracket is too deep for what the bracket begins. -/
theorem Scan.Fits.inside {before after : Nat} {text : Text} {fault : ReadFault Text}
    (fits : Scan.Fits levels before text (after + 1) (.error fault : Scan α))
    : Scan.Fits (levels + 1) before text after (.error fault : Scan β) := by
  match fault with
  | .mistake _ _ => trivial
  | .digitLimit _ => exact fits
  | .tooDeep _ =>
      have deep : after + 1 + levels < nestingFrom .outside before text := fits
      change after + (levels + 1) < _
      omega

theorem fits_of_isMistake {before after : Nat} {text : Text} {fault : ReadFault Text}
    (mistake : fault.IsMistake)
    : Scan.Fits levels before text after (.error fault : Scan α) := by
  obtain ⟨what, place, rfl⟩ := mistake
  trivial

theorem fits_scanString (opening text : Text) (opened : Nat)
    : Scan.Fits levels opened ('"' :: text) opened (scanString opening [] text) := by
  cases found : scanString opening [] text with
  | error fault => exact fits_of_isMistake (isMistake_scanString found)
  | ok result =>
      obtain ⟨suffix, same⟩ := scanString_leaves found
      refine ⟨suffix.trans (List.suffix_cons ↑ '"' text), ?_⟩
      rw [same]
      simp [nestingFrom]

-----------------------------------------------------------------------------------------
-- Numbers
-----------------------------------------------------------------------------------------

/-- The digits of a whole number stand in the text, before what is left of it. -/
theorem scanWhole?_leads {text whole after : Text} (found : scanWhole? text = some (whole, after))
    (opened : Nat)
    : Leads opened text opened after ∧ HasDigits whole.length text := by
  unfold scanWhole? at found
  split at found
  · cases found
  · next c rest =>
      split at found
      · next zero =>
          subst zero
          cases found
          exact ⟨.cons (by simp [IsPlain]) opened _, ['0'], ⟨[], _, rfl⟩, rfl, by simp⟩
      · split at found
        · next digit =>
            rw [List.span_eq_takeWhile_dropWhile] at found
            obtain ⟨rfl, rfl⟩ := Prod.mk.inj (Option.some.inj found)
            refine ⟨.dropWhile (fun _ => isPlain_of_isDigit) opened _, _,
              (List.takeWhile_prefix _).isInfix, rfl, ?_⟩
            exact fun d member => List.mem_takeWhile_imp member
        · cases found

theorem scanFraction_leads (text : Text) (opened : Nat)
    : Leads opened text opened (scanFraction text).2 := by
  unfold scanFraction
  split
  · next rest =>
      have point : Leads opened ('.' :: rest) opened rest :=
        .cons (by simp [IsPlain]) opened rest
      rw [List.span_eq_takeWhile_dropWhile]
      dsimp only
      split
      · exact .refl opened _
      · exact point.trans (.dropWhile (fun _ => isPlain_of_isDigit) opened rest)
  · exact .refl opened text

theorem scanSignedDigits?_leads {text after : Text} {digits : Bool × Text}
    (found : scanSignedDigits? text = some (digits, after)) (opened : Nat)
    : Leads opened text opened after := by
  have signed : ∀ sign : Bool, ∀ unsigned : Text,
      Leads opened text opened unsigned
      → (if (unsigned.takeWhile Character.isDigit).isEmpty then none
          else
            some
              ((sign, unsigned.takeWhile Character.isDigit),
                unsigned.dropWhile Character.isDigit))
        = some (digits, after)
      → Leads opened text opened after := by
    intro sign unsigned leads taken
    split at taken
    · cases taken
    · obtain ⟨-, rfl⟩ := Prod.mk.inj (Option.some.inj taken)
      exact leads.trans (.dropWhile (fun _ => isPlain_of_isDigit) opened unsigned)
  simp only [scanSignedDigits?, List.span_eq_takeWhile_dropWhile] at found
  split at found
  · exact signed true _ (.cons (by simp [IsPlain]) opened _) found
  · exact signed false _ (.cons (by simp [IsPlain]) opened _) found
  · exact signed false text (.refl opened text) found

theorem scanExponent_leads (text : Text) (opened : Nat)
    : Leads opened text opened (scanExponent text).2 := by
  unfold scanExponent
  split
  · next c rest =>
      split
      · next letter =>
          have plain : IsPlain c := by rcases letter with rfl | rfl <;> simp [IsPlain]
          split
          · next exponent after found =>
              exact (Leads.cons plain opened rest).trans (scanSignedDigits?_leads found opened)
          · exact .refl opened _
      · exact .refl opened _
  · exact .refl opened []

/-- A numeral is passed in one piece, and the digits before its point stand in the text. -/
theorem scanNumeral?_leads {text after : Text} {numeral : Numeral}
    (found : scanNumeral? text = some (numeral, after)) (opened : Nat)
    : Leads opened text opened after ∧ HasDigits numeral.whole.length text := by
  have signed : ∀ sign : Bool, ∀ unsigned : Text,
      Leads opened text opened unsigned
      → ((scanWhole? unsigned).bind fun scanned =>
          some
            (Numeral.mk sign scanned.1 (scanFraction scanned.2).1
              (scanExponent (scanFraction scanned.2).2).1,
            (scanExponent (scanFraction scanned.2).2).2))
        = some (numeral, after)
      → Leads opened text opened after ∧ HasDigits numeral.whole.length text := by
    intro sign unsigned leads taken
    obtain ⟨⟨whole, afterWhole⟩, wholeFound, rest⟩ := Option.bind_eq_some_iff.mp taken
    obtain ⟨rfl, rfl⟩ := Prod.mk.inj (Option.some.inj rest)
    obtain ⟨passed, digits⟩ := scanWhole?_leads wholeFound opened
    refine ⟨?_, leads.hasDigits digits⟩
    exact ((leads.trans passed).trans (scanFraction_leads afterWhole opened)).trans
      (scanExponent_leads _ opened)
  unfold scanNumeral? at found
  dsimp only at found
  split at found
  · exact signed true _ (.cons (by simp [IsPlain]) opened _) found
  · exact signed false text (.refl opened text) found

theorem fits_scanNumber (text : Text) (opened : Nat)
    : (scanNumber text).Fits levels opened text opened := by
  unfold scanNumber
  split
  · trivial
  · next numeral after found =>
      obtain ⟨leads, digits⟩ := scanNumeral?_leads found opened
      unfold Numeral.value?
      split
      · exact leads
      · split
        · next long => exact ⟨long, digits⟩
        · exact leads

-----------------------------------------------------------------------------------------
-- Arrays and objects
-----------------------------------------------------------------------------------------

section Containers

variable {item : Text → Scan Json}
  (fits : ∀ text opened, (item text).Fits levels opened text opened)

include fits

/-- The items of an array leave its bracket closed, by induction over the bound. -/
theorem fits_scanItems (read : List Json) (bound text : Text) (opened : Nat)
    : (scanItems item read bound text).Fits (levels + 1) (opened + 1) text opened := by
  induction bound generalizing read text with
  | nil => trivial
  | cons _ bound ih =>
      have first := fits text (opened + 1)
      rw [scanItems]
      cases found : item text with
      | error fault =>
          rw [found] at first
          exact first.inside
      | ok result =>
          obtain ⟨value, after⟩ := result
          rw [found] at first
          have passed := first.trans (.skipSpace (opened + 1) after)
          dsimp only
          split
          · next rest ends =>
              rw [ends] at passed
              exact passed.trans (.closing (by simp) opened rest)
          · next rest ends =>
              rw [ends] at passed
              exact (ih (value :: read) (skipSpace rest)).of_leads
                (passed.trans (.separator (by simp [IsPlain]) _ rest))
          · trivial

theorem fits_scanArray (text : Text) (opened : Nat)
    : (scanArray item text).Fits (levels + 1) (opened + 1) text opened := by
  have passed := Leads.skipSpace (opened + 1) text
  unfold scanArray
  split
  · next rest ends =>
      rw [ends] at passed
      exact passed.trans (.closing (by simp) opened rest)
  · exact (fits_scanItems fits [] _ _ opened).of_leads passed

theorem fits_scanField (text : Text) (opened : Nat)
    : (scanField item text).Fits levels opened text opened := by
  unfold scanField
  split
  · next afterQuote =>
      have name : Scan.Fits levels opened _ opened _ :=
        fits_scanString ('"' :: afterQuote) afterQuote opened
      split
      · next fault failed =>
          exact fits_of_isMistake (isMistake_scanString failed)
      · next string afterName found =>
          rw [found] at name
          have passed := Leads.trans name (.skipSpace opened afterName)
          split
          · next afterColon ends =>
              rw [ends] at passed
              exact ((fits _ opened).map (fun value => (string, value))).of_leads
                (passed.trans (.separator (by simp [IsPlain]) opened afterColon))
          · trivial
  · trivial

/-- The fields of an object leave its brace closed, by induction over the bound. -/
theorem fits_scanFields (read : Table Json) (bound text : Text) (opened : Nat)
    : (scanFields item read bound text).Fits (levels + 1) (opened + 1) text opened := by
  induction bound generalizing read text with
  | nil => trivial
  | cons _ bound ih =>
      have first := fits_scanField fits text (opened + 1)
      rw [scanFields]
      cases found : scanField item text with
      | error fault =>
          rw [found] at first
          exact first.inside
      | ok result =>
          obtain ⟨⟨name, value⟩, after⟩ := result
          rw [found] at first
          have passed := first.trans (.skipSpace (opened + 1) after)
          dsimp only
          split
          · next rest ends =>
              rw [ends] at passed
              exact passed.trans (.closing (by simp) opened rest)
          · next rest ends =>
              rw [ends] at passed
              exact (ih (read.insert name value) (skipSpace rest)).of_leads
                (passed.trans (.separator (by simp [IsPlain]) _ rest))
          · trivial

theorem fits_scanObject (text : Text) (opened : Nat)
    : (scanObject item text).Fits (levels + 1) (opened + 1) text opened := by
  have passed := Leads.skipSpace (opened + 1) text
  unfold scanObject
  split
  · next rest ends =>
      rw [ends] at passed
      exact passed.trans (.closing (by simp) opened rest)
  · exact (fits_scanFields fits .empty _ _ opened).of_leads passed

end Containers

-----------------------------------------------------------------------------------------
-- Values
-----------------------------------------------------------------------------------------

/-- A value, given what becomes of arrays and objects. -/
theorem fits_scanWith {item : Container → Text → Scan Json} {text : Text} {opened : Nat}
    (object
      : ∀ rest : Text,
          text = ↑ '{' :: rest
          → (scanObject (item .object) rest).Fits levels (opened + 1) rest opened)
    (array
      : ∀ rest : Text,
          text = ↑ '[' :: rest
          → (scanArray (item .array) rest).Fits levels (opened + 1) rest opened)
    : (scanWith item text).Fits levels opened text opened := by
  have scans := scansTo_scanWith item text
  generalize scanWith item text = result at scans ⊢
  cases scans with
  | string => exact (fits_scanString _ _ opened).map Json.str
  | object => exact (object _ rfl).of_leads (.opening (by simp) opened _)
  | array => exact (array _ rfl).of_leads (.opening (by simp) opened _)
  | word known rest =>
      have plain : ∀ entry ∈ wordValues, ∀ c ∈ entry.1, IsPlain c := by
        unfold IsPlain
        decide
      exact .plain (plain _ known) opened rest
  | number => exact fits_scanNumber text opened

/-- A value is passed, or goes beyond a limit, by induction over the levels that are left. -/
theorem fits_scanValue (levels : Nat) (text : Text) (opened : Nat)
    : (scanValue levels text).Fits levels opened text opened := by
  induction levels generalizing text opened with
  | zero =>
      have deep : ∀ (bracket : Character) rest, (bracket = '[' ∨ bracket = '{')
          → opened + 0 < nestingFrom .outside opened (bracket :: rest) := by
        intro bracket rest opens
        exact Nat.lt_of_lt_of_le (le_nestingFrom .outside (opened + 1) rest)
          (Leads.opening opens opened rest).nesting_le
      unfold scanValue
      split
      · exact deep '{' _ (by simp)
      · exact deep '[' _ (by simp)
      · next noObject noArray =>
          exact fits_scanWith (fun rest same => (noObject rest same).elim)
            (fun rest same => (noArray rest same).elim)
  | succ levels ih =>
      exact fits_scanWith (fun rest _ => fits_scanObject ih rest opened)
        (fun rest _ => fits_scanArray ih rest opened)

/-- The reader gives up on a text only for a mistake in it, for more open brackets than it keeps
track of, or for an integer of more digits than it takes.
-/
theorem fault_of_read {text : Text} {fault : ReadFault Position} (failed : read text = .error fault)
    : fault.IsMistake
      ∨ (∃ container, fault = .tooDeep container ∧ depthLimit < nesting text)
      ∨ ∃ count, fault = .digitLimit count ∧ digitLimit < count ∧ HasDigits count text := by
  unfold read at failed
  cases scanned : scanDocument text with
  | ok value =>
      rw [scanned] at failed
      cases failed
  | error inner =>
      rw [scanned] at failed
      obtain rfl := Except.error.inj failed
      unfold scanDocument at scanned
      split at scanned
      · cases scanned
        exact .inl ⟨_, _, rfl⟩
      · have passed := Leads.skipSpace 0 text
        have fits := fits_scanValue depthLimit (skipSpace text) 0
        cases found : scanValue depthLimit (skipSpace text) with
        | ok result =>
            rw [found] at scanned
            dsimp only at scanned
            split at scanned
            · cases scanned
            · cases scanned
              exact .inl ⟨_, _, rfl⟩
        | error reason =>
            rw [found] at scanned fits
            cases scanned
            match inner with
            | .mistake _ _ => exact .inl ⟨_, _, rfl⟩
            | .tooDeep container =>
                have deep : 0 + depthLimit < nestingFrom .outside 0 (skipSpace text) := fits
                refine .inr (.inl ⟨container, rfl, ?_⟩)
                exact Nat.lt_of_lt_of_le (by omega) passed.nesting_le
            | .digitLimit count =>
                exact .inr (.inr ⟨count, rfl, fits.1, passed.hasDigits fits.2⟩)

/-- If the reader gives up on a text, then for a mistake in it. -/
def WithinLimits (text : Text) : Prop :=
  ∀ fault, read text = .error fault → fault.IsMistake

-----------------------------------------------------------------------------------------
-- Integers of too many digits
-----------------------------------------------------------------------------------------

section Digits

variable {c : Character} {rest : Text} (digits : ∀ d ∈ c :: rest, d.isDigit = true)

include digits

theorem nesting_digits
    : nesting (c :: rest) = 0 :=
  nestingFrom_of_plain (fun d member => isPlain_of_isDigit (digits d member)) 0

theorem scanNumeral?_digits (noZero : c ≠ '0')
    : scanNumeral? (c :: rest) = some (⟨false, c :: rest, [], none⟩, []) := by
  have digit := digits c List.mem_cons_self
  have noSign : c ≠ '-' := by
    rintro rfl
    cases digit
  have ends : EndsNumeral [] := fun _ none => nomatch none
  have span := span_isDigit digits ends
  rw [List.append_nil] at span
  have whole : scanWhole? (c :: rest) = some (c :: rest, []) := by
    rw [scanWhole?, if_neg noZero, if_pos digit, span]
  rw [scanNumeral?]
  · simp [whole, scanFraction_of_ends ends, scanExponent_of_ends ends]
  · intro _ same
    exact noSign (List.cons.inj same).1

/-- A text of more digits than are read is no mistake, but it is not read. -/
theorem read_digits (noZero : c ≠ '0') (long : digitLimit < (c :: rest).length)
    : read (c :: rest) = .error (.digitLimit (c :: rest).length) := by
  have digit := digits c List.mem_cons_self
  have number : scanNumber (c :: rest) = .error (.digitLimit (c :: rest).length) := by
    rw [scanNumber, scanNumeral?_digits digits noZero]
    simp only [Numeral.value?, Numeral.isInteger, List.isEmpty_nil, Option.isNone_none,
      Bool.and_self, Bool.not_true, Bool.false_eq_true, if_false, if_pos long]
    rfl
  have noSpace : skipSpace (c :: rest) = c :: rest := by
    have other : ¬isSpace c = true := by
      intro space
      simp only [isSpace, Bool.or_eq_true, beq_iff_eq] at space
      rcases space with ((rfl | rfl) | rfl) | rfl <;> cases digit
    simp [skipSpace, other]
  have noMark : (c :: rest).head? ≠ some ('\uFEFF' : Character) := by
    rintro same
    obtain rfl := Option.some.inj same
    cases digit
  unfold read scanDocument
  rw [if_neg noMark, noSpace]
  unfold depthLimit scanValue
  rw [scanWith_of_numeral _ rfl (.inr digit) List.mem_cons_self digit, number]
  rfl

end Digits

end LatheGloss.Json
