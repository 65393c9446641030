import Mathlib
import LatheGloss.Proofs.Json.RoundTrip

/-! What a file gets of a value. The parts that it gets are those of the written text. Outside its
strings a value is written in printable characters of ASCII, and in strings every control is
escaped. So no carriage return is left, whatever the strings hold; and the text can be encoded just
where all strings of the value can.
-/

namespace LatheGloss.Json

mutual

/-- The strings of a value and the names of its fields. -/
def texts : Json → List Text
  | null | bool _ | int _ | float _ => []
  | str text => [text]
  | arr items => itemTexts items
  | obj fields => fieldTexts fields

def itemTexts : List Json → List Text
  | [] => []
  | item :: rest => texts item ++ itemTexts rest

def fieldTexts : List (Text × Json) → List Text
  | [] => []
  | (name, value) :: rest => name :: texts value ++ fieldTexts rest

end

theorem forall_mem_fieldTexts_iff {kind : Text → Prop} {fields : List (Text × Json)}
    : (∀ text ∈ fieldTexts fields, kind text)
      ↔ ∀ field ∈ fields, kind field.1 ∧ ∀ text ∈ field.2.texts, kind text := by
  induction fields with
  | nil => simp [fieldTexts]
  | cons field rest ih =>
      simp only [fieldTexts, List.cons_append, List.forall_mem_cons, List.forall_mem_append, ih,
        and_assoc]

/-- A printable character of ASCII. -/
abbrev IsPrinted (c : Character) : Prop :=
  32 ≤ c.toNat ∧ c.toNat < 127

theorem isPrinted_of_mem_ofInt {value : Int}
    : ∀ c ∈ Text.ofInt value, IsPrinted c := by
  have digits (n : Nat) : ∀ c ∈ Text.ofNat n, IsPrinted c := by
    intro c member
    have digit := Character.isDigit_iff.mp (isDigit_of_mem_ofNat member)
    unfold IsPrinted
    omega
  cases value with
  | ofNat n => exact digits n
  | negSucc n => exact List.forall_mem_cons.mpr ⟨by decide, digits (n + 1)⟩

/-- What a layout puts between strings is of a kind. -/
structure Layout.StaysIn (layout : Layout) (kind : Character → Prop) : Prop where
  printed : ∀ c, IsPrinted c → kind c
  margin : ∀ level, ∀ c ∈ layout.margin level, kind c
  separator : ∀ level, ∀ c ∈ layout.separator level, kind c

/-- An indentation adds line breaks to the printable characters. -/
theorem Layout.staysIn_ofIndentation {kind : Character → Prop}
    (printed : ∀ c, IsPrinted c → kind c) (newline : kind '\n') (indentation : Option Int)
    : (ofIndentation indentation).StaysIn kind := by
  have space := printed ' ' (by decide)
  have indents := indentsBy_ofIndentation space indentation
  refine ⟨printed, indents.margin newline, fun level => ?_⟩
  obtain ⟨gap, separated, within⟩ := indents.separator space newline level
  rw [separated]
  exact List.forall_mem_cons.mpr ⟨printed ',' (by decide), within⟩

section

variable {kind : Character → Prop} {layout : Layout} (stays : layout.StaysIn kind)

include stays

mutual

/-- Where nothing else leaves a kind of characters, a value is written in that kind just when all
its strings are, by cases of the value and along its items.
-/
theorem forall_mem_writeAt_iff (level : Nat)
    : ∀ value : Json,
        value.Faithful
        → ((∀ c ∈ writeAt layout level value, kind c)
          ↔ ∀ text ∈ value.texts, ∀ c ∈ writeString text, kind c)
  | .null, _ => by
      have letters : ∀ c ∈ ("null" : Text), IsPrinted c := by decide
      simpa [writeAt, texts] using fun c member => stays.printed c (letters c member)
  | .bool true, _ => by
      have letters : ∀ c ∈ ("true" : Text), IsPrinted c := by decide
      simpa [writeAt, texts] using fun c member => stays.printed c (letters c member)
  | .bool false, _ => by
      have letters : ∀ c ∈ ("false" : Text), IsPrinted c := by decide
      simpa [writeAt, texts] using fun c member => stays.printed c (letters c member)
  | .int value, _ => by
      simpa [writeAt, texts] using fun c member => stays.printed c (isPrinted_of_mem_ofInt c member)
  | .str text, _ => by simp [writeAt, texts]
  | .arr [], _ => by
      have opening := stays.printed '[' (by decide)
      have closing := stays.printed ']' (by decide)
      simp [writeAt, texts, itemTexts, opening, closing]
  | .arr (first :: rest), faithful => by
      have head := forall_mem_writeAt_iff (level + 1) first faithful.1
      have tail := forall_mem_writeItems_iff (level + 1) rest faithful.2
      have opening := stays.printed '[' (by decide)
      have closing := stays.printed ']' (by decide)
      have inner := iff_true_intro (stays.margin (level + 1))
      have outer := iff_true_intro (stays.margin level)
      simp only [writeAt, texts, itemTexts, List.cons_append, List.forall_mem_append,
        List.forall_mem_cons, opening, closing, inner, outer, head, tail, List.not_mem_nil,
        false_imp_iff, implies_true, true_and, and_true]
  | .obj [], _ => by
      have opening := stays.printed '{' (by decide)
      have closing := stays.printed '}' (by decide)
      simp [writeAt, texts, fieldTexts, opening, closing]
  | .obj ((name, value) :: rest), faithful => by
      have head := forall_mem_writeAt_iff (level + 1) value faithful.2.1
      have tail := forall_mem_writeFields_iff (level + 1) rest faithful.2.2
      have opening := stays.printed '{' (by decide)
      have colon := stays.printed ':' (by decide)
      have space := stays.printed ' ' (by decide)
      have closing := stays.printed '}' (by decide)
      have inner := iff_true_intro (stays.margin (level + 1))
      have outer := iff_true_intro (stays.margin level)
      simp only [writeAt, texts, fieldTexts, List.cons_append, List.forall_mem_append,
        List.forall_mem_cons, opening, colon, space, closing, inner, outer, head, tail,
        List.not_mem_nil, false_imp_iff, implies_true, true_and, and_true, and_assoc]

theorem forall_mem_writeItems_iff (level : Nat)
    : ∀ items : List Json,
        ItemsFaithful items
        → ((∀ c ∈ writeItems layout level items, kind c)
          ↔ ∀ text ∈ itemTexts items, ∀ c ∈ writeString text, kind c)
  | [], _ => by simp [writeItems, itemTexts]
  | item :: rest, faithful => by
      have head := forall_mem_writeAt_iff level item faithful.1
      have tail := forall_mem_writeItems_iff level rest faithful.2
      have before := iff_true_intro (stays.separator level)
      simp only [writeItems, itemTexts, List.forall_mem_append, before, head, tail, true_and]

theorem forall_mem_writeFields_iff (level : Nat)
    : ∀ fields : List (Text × Json),
        FieldsFaithful fields
        → ((∀ c ∈ writeFields layout level fields, kind c)
          ↔ ∀ text ∈ fieldTexts fields, ∀ c ∈ writeString text, kind c)
  | [], _ => by simp [writeFields, fieldTexts]
  | (name, value) :: rest, faithful => by
      have head := forall_mem_writeAt_iff level value faithful.1
      have tail := forall_mem_writeFields_iff level rest faithful.2
      have before := iff_true_intro (stays.separator level)
      have colon := stays.printed ':' (by decide)
      have space := stays.printed ' ' (by decide)
      simp only [writeFields, fieldTexts, List.cons_append, List.forall_mem_append,
        List.forall_mem_cons, colon, space, before, head, tail, true_and, and_assoc]

end

end

-----------------------------------------------------------------------------------------
-- Parts
-----------------------------------------------------------------------------------------

theorem flatten_partsBehind (before : Text) (item : Json) (parts : List Text)
    : (partsBehind before item parts).flatten = before ++ parts.flatten := by
  unfold partsBehind
  split <;> simp

section

variable (layout : Layout)

mutual

/-- The parts that a file gets are those of the text, by cases of the value and along its items. -/
theorem flatten_partsAt (level : Nat)
    : ∀ value : Json, (partsAt layout level value).flatten = writeAt layout level value
  | .null | .bool _ | .int _ | .float _ | .str _ | .arr [] | .obj [] => by simp [partsAt]
  | .arr (first :: rest) => by
      have head := flatten_partsAt (level + 1) first
      have tail := flatten_partsOfItems (level + 1) rest
      simp [partsAt, writeAt, flatten_partsBehind, head, tail]
  | .obj ((name, value) :: rest) => by
      have head := flatten_partsAt (level + 1) value
      have tail := flatten_partsOfFields (level + 1) rest
      simp [partsAt, writeAt, head, tail]

theorem flatten_partsOfItems (level : Nat)
    : ∀ items : List Json, (partsOfItems layout level items).flatten = writeItems layout level items
  | [] => by simp [partsOfItems, writeItems]
  | item :: rest => by
      have head := flatten_partsAt level item
      have tail := flatten_partsOfItems level rest
      simp [partsOfItems, writeItems, flatten_partsBehind, head, tail]

theorem flatten_partsOfFields (level : Nat)
    : ∀ fields : List (Text × Json),
        (partsOfFields layout level fields).flatten = writeFields layout level fields
  | [] => by simp [partsOfFields, writeFields]
  | (name, value) :: rest => by
      have head := flatten_partsAt level value
      have tail := flatten_partsOfFields level rest
      simp [partsOfFields, writeFields, head, tail]

end

theorem flatten_parts (value : Json)
    : (value.parts layout).flatten = value.write layout :=
  flatten_partsAt layout 0 value

end

-----------------------------------------------------------------------------------------
-- Strings
-----------------------------------------------------------------------------------------

theorem isPrinted_lowerHexDigit
    : ∀ n < 16, IsPrinted (lowerHexDigit n) := by
  decide

/-- A character is written as an escape or as itself, by the cases of the escapes in the writer's
order.
-/
theorem escapeChar_cases (c : Character)
    : (c.toNat < 127 ∧ ∀ escape ∈ escapeChar c, IsPrinted escape)
      ∨ 32 ≤ c.toNat ∧ escapeChar c = [c] := by
  have high (control : c.toNat < 32) := isPrinted_lowerHexDigit (c.toNat / 16) (by omega)
  have low (control : c.toNat < 32) := isPrinted_lowerHexDigit (c.toNat % 16) (by omega)
  unfold escapeChar
  by_cases quote : c = '"'
  · subst c
    exact .inl (by decide)
  by_cases backslash : c = '\\'
  · subst c
    exact .inl (by decide)
  by_cases short : c = '\n' ∨ c = '\r' ∨ c = '\t' ∨ c = '\x0c' ∨ c = '\x08'
  · rcases short with rfl | rfl | rfl | rfl | rfl <;> exact .inl (by decide)
  obtain ⟨newline, ret, tab, feed, back⟩ := by simpa only [not_or] using short
  simp only [quote, backslash, newline, ret, tab, feed, back, if_false]
  by_cases control : c.toNat < 32
  · rw [if_pos control]
    refine .inl ⟨by omega, ?_⟩
    simpa using ⟨by decide, by decide, by decide, high control, low control⟩
  · rw [if_neg control]
    exact .inr ⟨Nat.le_of_not_lt control, rfl⟩

theorem forall_mem_writeString_iff {kind : Character → Prop} (quote : kind '"') {text : Text}
    : (∀ c ∈ writeString text, kind c)
      ↔ ∀ source ∈ text, ∀ c ∈ escapeChar source, kind c := by
  rw [writeString, List.cons_append, List.forall_mem_cons, List.forall_mem_append,
    List.forall_mem_flatMap, List.forall_mem_singleton]
  simp only [quote, true_and, and_true]

theorem return_not_mem_writeString (text : Text)
    : ∀ c ∈ writeString text, c ≠ '\r' := by
  refine (@forall_mem_writeString_iff (· ≠ '\r') (by decide) text).mpr ?_
  rintro source - _ member rfl
  rcases escapeChar_cases source with ⟨-, printed⟩ | ⟨seen, itself⟩
  · exact absurd (printed _ member) (by decide)
  · rw [itself, List.mem_singleton] at member
    subst source
    exact absurd seen (by decide)

theorem forall_isScalar_writeString_iff {text : Text}
    : (∀ c ∈ writeString text, c.isScalar = true) ↔ ∀ c ∈ text, c.isScalar = true := by
  have escapes (source : Character)
      : (∀ c ∈ escapeChar source, c.isScalar = true) ↔ source.isScalar = true := by
    rcases escapeChar_cases source with ⟨low, printed⟩ | ⟨-, itself⟩
    · exact iff_of_true
        (fun c member => Character.isScalar_of_lt (by have := (printed c member).2; omega))
        (Character.isScalar_of_lt (by omega))
    · rw [itself, List.forall_mem_singleton]
  rw [@forall_mem_writeString_iff (·.isScalar = true) rfl]
  simp only [escapes]

-----------------------------------------------------------------------------------------
-- Texts
-----------------------------------------------------------------------------------------

variable {value : Json} (faithful : value.Faithful) (indentation : Option Int)

include faithful

theorem return_not_mem_write
    : ↑ '\r' ∉ value.write (.ofIndentation indentation) := by
  have stays : (Layout.ofIndentation indentation).StaysIn (· ≠ '\r') :=
    Layout.staysIn_ofIndentation (by rintro _ printed rfl; revert printed; decide) (by decide)
      indentation
  intro member
  have written := (forall_mem_writeAt_iff stays 0 value faithful).mpr
    fun text _ => return_not_mem_writeString text
  exact written _ member rfl

/-- The text of a value can be encoded just when its strings can. -/
theorem isScalar_write_iff
    : (∀ c ∈ value.write (.ofIndentation indentation), c.isScalar = true)
      ↔ ∀ text ∈ value.texts, ∀ c ∈ text, c.isScalar = true := by
  have stays : (Layout.ofIndentation indentation).StaysIn (·.isScalar = true) :=
    Layout.staysIn_ofIndentation (fun c printed => Character.isScalar_of_lt (by omega)) rfl
      indentation
  rw [write, forall_mem_writeAt_iff stays 0 value faithful]
  simp only [forall_isScalar_writeString_iff]

end LatheGloss.Json
