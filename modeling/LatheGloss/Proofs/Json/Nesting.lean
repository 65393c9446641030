import Mathlib
import LatheGloss.Json.Reader
import LatheGloss.Proofs.Text.Character

/-! How deep a text nests: the most brackets that are open at once, where those inside of strings do
not count. What a scanner leaves of a text nests no deeper than the text, once the brackets count
that are open before each; so it does behind spaces, plain code and whole strings.
-/

namespace LatheGloss.Json

/-- Outside of strings, inside of one, or behind a backslash inside of one. -/
inductive Context where
  | outside
  | inside
  | escaped

/-- The most brackets that are open at once in the rest of a text, behind so many open ones.
Brackets inside of strings do not count.
-/
def nestingFrom : Context → Nat → Text → Nat
  | _, opened, [] => opened
  | .outside, opened, c :: rest =>
      if c = '"' then nestingFrom .inside opened rest
      else if c = '[' ∨ c = '{' then nestingFrom .outside (opened + 1) rest
      else if c = ']' ∨ c = '}' then max opened (nestingFrom .outside (opened - 1) rest)
      else nestingFrom .outside opened rest
  | .inside, opened, c :: rest =>
      if c = '"' then nestingFrom .outside opened rest
      else if c = '\\' then nestingFrom .escaped opened rest
      else nestingFrom .inside opened rest
  | .escaped, opened, _ :: rest => nestingFrom .inside opened rest

/-- How many brackets of a text are open at once. -/
def nesting (text : Text) : Nat :=
  nestingFrom .outside 0 text

/-- So many digits stand together in a text. -/
def HasDigits (count : Nat) (text : Text) : Prop :=
  ∃ digits, digits <:+: text ∧ digits.length = count ∧ ∀ d ∈ digits, d.isDigit = true

-----------------------------------------------------------------------------------------
-- What reading leaves behind
-----------------------------------------------------------------------------------------

/-- Code that is neither a quote nor a bracket. -/
def IsPlain (c : Character) : Prop :=
  c ≠ '"' ∧ c ≠ '[' ∧ c ≠ '{' ∧ c ≠ ']' ∧ c ≠ '}'

/-- What follows in a text, with so many open brackets before it, nests no deeper than the text. -/
structure Leads (before : Nat) (text : Text) (after : Nat) (rest : Text) : Prop where
  suffix : rest <:+ text
  nesting_le : nestingFrom .outside after rest ≤ nestingFrom .outside before text

theorem Leads.refl (opened : Nat) (text : Text)
    : Leads opened text opened text :=
  ⟨List.suffix_rfl, Nat.le_refl _⟩

theorem Leads.trans {first second third : Nat} {text middle rest : Text}
    (leads : Leads first text second middle) (next : Leads second middle third rest)
    : Leads first text third rest :=
  ⟨next.suffix.trans leads.suffix, next.nesting_le.trans leads.nesting_le⟩

theorem Leads.hasDigits {before after count : Nat} {text rest : Text}
    (leads : Leads before text after rest) (has : HasDigits count rest)
    : HasDigits count text := by
  obtain ⟨digits, inside, length, all⟩ := has
  exact ⟨digits, inside.trans leads.suffix.isInfix, length, all⟩

theorem nestingFrom_plain {c : Character} (plain : IsPlain c) (opened : Nat) (rest : Text)
    : nestingFrom .outside opened (c :: rest) = nestingFrom .outside opened rest := by
  obtain ⟨quote, square, curly, squareEnd, curlyEnd⟩ := plain
  simp [nestingFrom, quote, square, curly, squareEnd, curlyEnd]

/-- Plain code opens nothing, by induction over it. -/
theorem nestingFrom_of_plain {text : Text} (plain : ∀ c ∈ text, IsPlain c) (opened : Nat)
    : nestingFrom .outside opened text = opened := by
  induction text with
  | nil => rfl
  | cons c rest ih =>
      obtain ⟨first, others⟩ := List.forall_mem_cons.mp plain
      rw [nestingFrom_plain first, ih others]

theorem Leads.cons {c : Character} (plain : IsPlain c) (opened : Nat) (rest : Text)
    : Leads opened (c :: rest) opened rest :=
  ⟨List.suffix_cons c rest, (nestingFrom_plain plain opened rest).ge⟩

theorem Leads.plain {code : Text} (plain : ∀ c ∈ code, IsPlain c) (opened : Nat) (rest : Text)
    : Leads opened (code ++ rest) opened rest := by
  induction code with
  | nil => exact .refl opened rest
  | cons c more ih =>
      obtain ⟨first, others⟩ := List.forall_mem_cons.mp plain
      exact (Leads.cons first opened (more ++ rest)).trans (ih others)

theorem Leads.opening {c : Character} (opens : c = '[' ∨ c = '{') (opened : Nat) (rest : Text)
    : Leads opened (c :: rest) (opened + 1) rest := by
  refine ⟨List.suffix_cons c rest, ?_⟩
  rcases opens with rfl | rfl <;> simp [nestingFrom]

theorem Leads.closing {c : Character} (closes : c = ']' ∨ c = '}') (opened : Nat) (rest : Text)
    : Leads (opened + 1) (c :: rest) opened rest := by
  refine ⟨List.suffix_cons c rest, ?_⟩
  rcases closes with rfl | rfl <;> simp [nestingFrom]

theorem isPlain_of_isSpace {c : Character} (space : isSpace c = true)
    : IsPlain c := by
  refine ⟨?_, ?_, ?_, ?_, ?_⟩ <;> rintro rfl <;> revert space <;> decide

theorem isPlain_of_isDigit {c : Character} (digit : c.isDigit = true)
    : IsPlain c := by
  refine ⟨?_, ?_, ?_, ?_, ?_⟩ <;> rintro rfl <;> revert digit <;> decide

theorem Leads.dropWhile {p : Character → Bool} (plain : ∀ c, p c = true → IsPlain c) (opened : Nat)
    (text : Text)
    : Leads opened text opened (text.dropWhile p) := by
  have taken : ∀ c ∈ text.takeWhile p, IsPlain c :=
    fun c member => plain c (List.mem_takeWhile_imp member)
  have passed := Leads.plain taken opened (text.dropWhile p)
  rwa [List.takeWhile_append_dropWhile] at passed

theorem Leads.skipSpace (opened : Nat) (text : Text)
    : Leads opened text opened (skipSpace text) :=
  .dropWhile (fun _ => isPlain_of_isSpace) opened text

/-- A character between values, and the spaces behind it. -/
theorem Leads.separator {c : Character} (plain : IsPlain c) (opened : Nat) (rest : Text)
    : Leads opened (c :: rest) opened (Json.skipSpace rest) :=
  (Leads.cons plain opened rest).trans (.skipSpace opened rest)

/-- Open brackets count, whatever follows them. -/
theorem le_nestingFrom (context : Context) (opened : Nat) (text : Text)
    : opened ≤ nestingFrom context opened text := by
  fun_induction nestingFrom context opened text with
  | case1 => exact Nat.le_refl _
  | case3 opened c rest _ _ ih => omega
  | case4 opened c rest _ _ _ ih => exact Nat.le_max_left _ _
  | case2 => assumption
  | case5 => assumption
  | case6 => assumption
  | case7 => assumption
  | case8 => assumption
  | case9 => assumption

-----------------------------------------------------------------------------------------
-- Strings
-----------------------------------------------------------------------------------------

/-- A part of a string is passed without leaving the string. -/
structure StaysInside (text rest : Text) : Prop where
  suffix : rest <:+ text
  nesting_eq : ∀ opened, nestingFrom .inside opened rest = nestingFrom .inside opened text

theorem StaysInside.cons {c : Character} (quote : c ≠ '"') (backslash : c ≠ '\\') (rest : Text)
    : StaysInside (c :: rest) rest :=
  ⟨List.suffix_cons c rest, fun opened => by simp [nestingFrom, quote, backslash]⟩

theorem StaysInside.escape (letter : Character) (rest : Text)
    : StaysInside ('\\' :: letter :: rest) rest :=
  ⟨⟨['\\', letter], rfl⟩, fun opened => by simp [nestingFrom]⟩

theorem StaysInside.trans {text middle rest : Text} (stays : StaysInside text middle)
    (next : StaysInside middle rest)
    : StaysInside text rest :=
  ⟨next.suffix.trans stays.suffix, fun opened =>
    (next.nesting_eq opened).trans (stays.nesting_eq opened)⟩

theorem StaysInside.hexDigit {c : Character} {value : Nat} (digit : hexDigit? c = some value)
    (rest : Text)
    : StaysInside (c :: rest) rest := by
  refine .cons ?_ ?_ rest <;> rintro rfl <;> simp [hexDigit?] at digit

theorem StaysInside.hexQuad {text rest : Text} {code : Nat}
    (found : hexQuad? text = some (code, rest))
    : StaysInside text rest := by
  unfold hexQuad? at found
  split at found
  · simp only [Option.bind_eq_bind, Option.pure_def, Option.bind_eq_some_iff, Option.some.injEq,
      Prod.mk.injEq] at found
    obtain ⟨_, first, _, second, _, third, _, fourth, -, rfl⟩ := found
    exact ((StaysInside.hexDigit first _).trans (.hexDigit second _)).trans
      ((StaysInside.hexDigit third _).trans (.hexDigit fourth _))
  · cases found

/-- An escape of one code unit, or of two that make up a character. -/
theorem StaysInside.unicodeEscape {digits rest : Text} {c : Character}
    (found : scanUnicodeEscape ('u' :: digits) = .ok (c, rest))
    : StaysInside ('\\' :: 'u' :: digits) rest := by
  have letter : StaysInside ('\\' :: 'u' :: digits) digits := .escape 'u' digits
  unfold scanUnicodeEscape at found
  split at found
  · next quad =>
      have first := letter.trans (StaysInside.hexQuad quad)
      split at found
      · split at found
        · next lowQuad =>
            split at found
            · simp only [Except.ok.injEq, Prod.mk.injEq] at found
              obtain ⟨-, rfl⟩ := found
              exact (first.trans (.escape 'u' _)).trans (.hexQuad lowQuad)
            · cases found
              exact first
        · cases found
      · cases found
        exact first
  · next quad =>
      cases found
      exact letter.trans (.hexQuad quad)
  · cases found

theorem StaysInside.scanChar {opening text rest : Text} {c : Character}
    (open' : ∀ rest : Text, text = ↑ '"' :: rest → False)
    (found : scanChar opening text = .ok (c, rest))
    : StaysInside text rest := by
  unfold Json.scanChar at found
  split at found
  · cases found
  · cases found
  · exact .unicodeEscape found
  · split at found
    · cases found
      exact .escape _ _
    · cases found
  · next d more alone _ escapes =>
      have backslash : d ≠ '\\' := by
        rintro rfl
        cases more with
        | nil => exact alone rfl rfl
        | cons letter rest => exact escapes letter rest rfl rfl
      have quote : d ≠ '"' := by
        rintro rfl
        exact open' more rfl
      split at found
      · cases found
      · cases found
        exact .cons quote backslash _

/-- A fault that tells of a mistake in the text, and not of a limit of the reader. -/
def ReadFault.IsMistake {Place : Type} (fault : ReadFault Place) : Prop :=
  ∃ what place, fault = .mistake what place

theorem isMistake_scanUnicodeEscape {text : Text} {fault : ReadFault Text}
    (failed : scanUnicodeEscape text = .error fault)
    : fault.IsMistake := by
  unfold scanUnicodeEscape at failed
  split at failed
  · split at failed
    · split at failed
      · split at failed <;> cases failed
      · cases failed
        exact ⟨_, _, rfl⟩
    · cases failed
  · cases failed
  · cases failed
    exact ⟨_, _, rfl⟩

theorem isMistake_scanChar {opening text : Text} {fault : ReadFault Text}
    (failed : scanChar opening text = .error fault)
    : fault.IsMistake := by
  unfold scanChar at failed
  split at failed
  · cases failed
    exact ⟨_, _, rfl⟩
  · cases failed
    exact ⟨_, _, rfl⟩
  · exact isMistake_scanUnicodeEscape failed
  · split at failed
    · cases failed
    · cases failed
      exact ⟨_, _, rfl⟩
  · split at failed
    · cases failed
      exact ⟨_, _, rfl⟩
    · cases failed

/-- The rest of a string ends outside of it, by induction over its characters. -/
theorem scanString_leaves {opening read text rest string : Text}
    (found : scanString opening read text = .ok (string, rest))
    : rest <:+ text
      ∧ ∀ opened, nestingFrom .outside opened rest = nestingFrom .inside opened text := by
  fun_induction scanString opening read text with
  | case1 read after =>
      cases found
      exact ⟨List.suffix_cons _ _, fun opened => by simp [nestingFrom]⟩
  | case2 read text open' c after scanned ih =>
      have stays := StaysInside.scanChar open' scanned
      obtain ⟨suffix, same⟩ := ih found
      exact ⟨suffix.trans stays.suffix, fun opened => (same opened).trans (stays.nesting_eq opened)⟩
  | case3 => cases found

theorem isMistake_scanString {opening read text : Text} {fault : ReadFault Text}
    (failed : scanString opening read text = .error fault)
    : fault.IsMistake := by
  fun_induction scanString opening read text with
  | case1 => cases failed
  | case2 read text open' c after scanned ih => exact ih failed
  | case3 read text open' other scanned =>
      cases failed
      exact isMistake_scanChar scanned

end LatheGloss.Json
