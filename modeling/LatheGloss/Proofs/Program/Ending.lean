import Mathlib
import LatheGloss.CodeBook.Basic
import LatheGloss.Proofs.Program.Comments
import LatheGloss.Proofs.Text.Classes

/-! What is written after a line. Spaces, comments and terminators after a line make no difference
as long as its terminators stand together, right behind the code or parted from it by spaces alone.
Cleaning trims a line before it takes terminators away, and does each just once, so that otherwise
a terminator or a blank stays in a word.
-/

namespace LatheGloss.Program

/-- Every opening parenthesis is followed by a closing one with no line feed between. -/
def IsClosed (line : Text) : Prop :=
  ∀ before after : Text,
    line = before ++ ↑ '(' :: after
    → ∃ body rest : Text, after = body ++ ↑ ')' :: rest ∧ ↑ '\n' ∉ body

/-- Terminators that stand together, and spaces after them. -/
def terminators (count trail : Nat) : Text :=
  List.replicate (count + 1) (';' : Character) ++ List.replicate trail (' ' : Character)

/-- What vanishes from the end of a line's code: spaces alone, or terminators that stand together
behind spaces. Before these the code may end with spaces as well, but if a terminator is the last
thing that can be seen of it, nothing may part the others from that one; code that is nothing but
blanks vanishes with them.
-/
inductive IsInert (code : Text) : Text → Prop
  | spaces (count : Nat) : IsInert code (List.replicate count (' ' : Character))
  | afterBlanks (blank : ∀ c ∈ code, Text.isBlank c = true) (gap count trail : Nat)
    : IsInert code (List.replicate gap (' ' : Character) ++ terminators count trail)
  | afterCode {before : Text} {last : Character} {loose : Nat}
    (same : code = before ++ last :: List.replicate loose (' ' : Character))
    (visible : Text.isBlank last = false) (gap count trail : Nat)
    (unparted : last = ';' → loose + gap = 0)
    : IsInert code (List.replicate gap (' ' : Character) ++ terminators count trail)

-----------------------------------------------------------------------------------------
-- Pieces of a line and of what is written after it
-----------------------------------------------------------------------------------------

theorem IsClosed.of_append (before : Text) {after : Text} (closed : IsClosed (before ++ after))
    : IsClosed after := by
  intro earlier later same
  exact closed (before ++ earlier) later (by rw [same, List.append_assoc])

theorem isClosed_cons_iff {c : Character} {rest : Text}
    : IsClosed (c :: rest) ↔ (c = '(' → closeComment? rest ≠ none) ∧ IsClosed rest := by
  constructor
  · intro closed
    refine ⟨?_, closed.of_append [c]⟩
    rintro rfl unclosed
    obtain ⟨body, after, same, unbroken⟩ := closed [] rest rfl
    exact unbroken (closeComment?_eq_none_iff.mp unclosed body after same)
  · rintro ⟨first, later⟩ before after same
    cases before with
    | nil =>
        obtain ⟨opening, rfl⟩ := List.cons.inj same
        obtain ⟨⟨body, beyond⟩, found⟩ := Option.ne_none_iff_exists'.mp (first opening)
        obtain ⟨closing, -, unbroken⟩ := closeComment?_eq_some_iff.mp found
        exact ⟨body, beyond, closing, unbroken⟩
    | cons d more => exact later more after (List.cons.inj same).2

instance : (line : Text) → Decidable (IsClosed line)
  | [] => .isTrue fun before after same => by simp at same
  | _ :: rest =>
      have : Decidable (IsClosed rest) := instDecidableIsClosed rest
      decidable_of_iff _ isClosed_cons_iff.symm

/-- Comments of a line end where they did, whatever comes after the line, if none is left open. -/
theorem pieces_append {line : Text} (closed : IsClosed line) (more : Text)
    : pieces (line ++ more) = pieces line ++ pieces more := by
  fun_induction pieces line with
  | case1 => rfl
  | case2 rest body after found ih =>
      obtain ⟨same, noClosing, unbroken⟩ := closeComment?_eq_some_iff.mp found
      have foundBefore : closeComment? (rest ++ more) = some (body, after ++ more) := by
        refine closeComment?_eq_some_iff.mpr ⟨?_, noClosing, unbroken⟩
        rw [same, List.append_assoc, List.cons_append]
      have later : IsClosed after := by
        refine IsClosed.of_append (↑ '(' :: body ++ ([')'] : Text)) ?_
        simpa [same] using closed
      rw [List.cons_append, pieces_closed foundBefore, ih later, List.cons_append]
  | case3 rest unclosed ih => exact absurd unclosed ((isClosed_cons_iff.mp closed).1 rfl)
  | case4 c rest notOpening ih =>
      rw [List.cons_append, pieces_code notOpening,
        ih (closed.of_append [c]), List.cons_append]

theorem withoutComments_append {line : Text} (closed : IsClosed line) {suffix : List Piece}
    (plain : ∀ part ∈ suffix, part.IsCommentOr fun c => c = ' ' ∨ c = ';')
    : withoutComments (line ++ suffix.flatMap Piece.source)
      = withoutComments line ++ codeOf suffix := by
  have opens : ∀ part ∈ suffix, part.IsCommentOr (· ≠ '(') := by
    intro part member
    refine (plain part member).imp ?_
    rintro c (rfl | rfl) <;> decide
  change codeOf (pieces _) = codeOf (pieces line) ++ _
  rw [pieces_append closed, pieces_flatMap_source opens, codeOf_append]

-----------------------------------------------------------------------------------------
-- Trimming and taking terminators away
-----------------------------------------------------------------------------------------

/-- Blanks around the code and then terminators at its end are taken away. -/
def cleanCode (code : Text) : Text :=
  (Text.trim Text.isBlank code).trimEnd (· == ';')

theorem dropWhile_append_of_first (p : Character → Bool) (left : Text) {right : Text}
    (first : ∀ c ∈ right.head?, p c = false)
    : (left ++ right).dropWhile p = left.dropWhile p ++ right := by
  have kept : right.dropWhile p = right := by
    cases right with
    | nil => rfl
    | cons c rest => exact List.dropWhile_cons_of_neg (by simp [first c rfl])
  rw [List.dropWhile_append, kept]
  split
  · next bare => rw [List.isEmpty_iff.mp bare, List.nil_append]
  · rfl

theorem isBlank_of_mem_spaces {count : Nat} {c : Character}
    (member : c ∈ List.replicate count ↑ ' ')
    : Text.isBlank c = true := by
  rw [List.eq_of_mem_replicate member]
  decide

theorem rdropWhile_append_eq_self {p : Character → Bool} (left : Text) {right : Text}
    (some : right ≠ []) (kept : ∀ c ∈ right.getLast?, p c = false)
    : (left ++ right).rdropWhile p = left ++ right :=
  rdropWhile_eq_self (by rwa [List.getLast?_append_of_ne_nil _ some])

/-- Terminators are taken away whatever stands before them, but keep it from being trimmed. -/
theorem cleanCode_append_terminators (front : Text) (count trail : Nat)
    : cleanCode (front ++ terminators count trail)
      = (front.dropWhile Text.isBlank).rdropWhile (· == ↑ ';') := by
  have first : ∀ c ∈ (terminators count trail).head?, Text.isBlank c = false := by
    simp [terminators, List.replicate_succ]
    decide
  have last
      : ∀ c ∈
          (front.dropWhile Text.isBlank ++ List.replicate (count + 1) (';' : Character)).getLast?,
          Text.isBlank c = false := by
    simp [List.getLast?_append, List.getLast?_replicate]
    decide
  have ends : ∀ c ∈ List.replicate (count + 1) (';' : Character), (c == ';') = true := by simp
  change (((front ++ terminators count trail).dropWhile Text.isBlank).rdropWhile
    Text.isBlank).rdropWhile (· == ↑ ';') = _
  rw [dropWhile_append_of_first _ _ first, terminators, ← List.append_assoc,
    rdropWhile_append_of_pos _ fun _ => isBlank_of_mem_spaces, rdropWhile_eq_self last,
    rdropWhile_append_of_pos _ ends]

theorem cleanCode_append_spaces (code : Text) (count : Nat)
    : cleanCode (code ++ List.replicate count (' ' : Character)) = cleanCode code := by
  change (((code ++ _).dropWhile Text.isBlank).rdropWhile Text.isBlank).rdropWhile (· == ↑ ';')
    = ((code.dropWhile Text.isBlank).rdropWhile Text.isBlank).rdropWhile (· == ↑ ';')
  rw [List.dropWhile_append]
  split
  · next bare =>
      rw [List.dropWhile_eq_nil_iff.mpr fun _ => isBlank_of_mem_spaces, List.isEmpty_iff.mp bare]
  · rw [rdropWhile_append_of_pos _ fun _ => isBlank_of_mem_spaces]

theorem cleanCode_of_blank {code : Text} (blank : ∀ c ∈ code, Text.isBlank c = true)
    : cleanCode code = [] := by
  change ((code.dropWhile Text.isBlank).rdropWhile Text.isBlank).rdropWhile (· == ↑ ';') = []
  rw [List.dropWhile_eq_nil_iff.mpr blank]
  rfl

/-- Blanks behind the last thing that can be seen are trimmed. -/
theorem cleanCode_of_visible (before : Text) {last : Character}
    (visible : Text.isBlank last = false) {loose : Text}
    (blank : ∀ c ∈ loose, Text.isBlank c = true)
    : cleanCode (before ++ last :: loose)
      = (before.dropWhile Text.isBlank ++ [last]).rdropWhile (· == ↑ ';') := by
  have first : ∀ c ∈ (last :: loose).head?, Text.isBlank c = false := by simpa using visible
  have ends
      : ∀ c ∈ (before.dropWhile Text.isBlank ++ [last]).getLast?, Text.isBlank c = false := by
    simpa using visible
  change (((before ++ last :: loose).dropWhile Text.isBlank).rdropWhile Text.isBlank).rdropWhile
    (· == ↑ ';') = _
  rw [dropWhile_append_of_first _ _ first, List.append_cons, rdropWhile_append_of_pos _ blank,
    rdropWhile_eq_self ends]

/-- Behind terminators they are not. -/
theorem cleanCode_of_visible_append_terminators (before : Text) {last : Character}
    (visible : Text.isBlank last = false) (loose : Text) (count trail : Nat)
    : cleanCode (before ++ last :: loose ++ terminators count trail)
      = (before.dropWhile Text.isBlank ++ last :: loose).rdropWhile (· == ↑ ';') := by
  have first : ∀ c ∈ (last :: loose).head?, Text.isBlank c = false := by simpa using visible
  rw [cleanCode_append_terminators, dropWhile_append_of_first _ _ first]

-----------------------------------------------------------------------------------------
-- What vanishes
-----------------------------------------------------------------------------------------

theorem IsInert.splitWords_eq {code ending : Text} (inert : IsInert code ending)
    : splitWords (cleanCode (code ++ ending)) = splitWords (cleanCode code) := by
  cases inert with
  | spaces count => rw [cleanCode_append_spaces]
  | afterBlanks blank gap count trail =>
      have allBlank : ∀ c ∈ code ++ List.replicate gap (' ' : Character), Text.isBlank c = true :=
        List.forall_mem_append.mpr ⟨blank, fun _ => isBlank_of_mem_spaces⟩
      rw [← List.append_assoc, cleanCode_append_terminators, cleanCode_of_blank blank,
        List.dropWhile_eq_nil_iff.mpr allBlank]
      rfl
  | afterCode same visible gap count trail unparted =>
      rename_i before last loose
      subst same
      have front
          : before ++ last :: List.replicate loose (' ' : Character)
              ++ List.replicate gap (' ' : Character)
            = before ++ last :: List.replicate (loose + gap) (' ' : Character) := by
        rw [List.append_assoc, List.cons_append, List.replicate_append_replicate]
      rw [← List.append_assoc, front, cleanCode_of_visible_append_terminators _ visible,
        cleanCode_of_visible _ visible fun _ => isBlank_of_mem_spaces]
      by_cases ended : last = ';'
      · rw [unparted ended, List.replicate_zero]
      · have kept (count : Nat)
            : (before.dropWhile Text.isBlank
                ++ last :: List.replicate count (' ' : Character)).rdropWhile (· == ↑ ';')
              = before.dropWhile Text.isBlank
                ++ last :: List.replicate count (' ' : Character) := by
          refine rdropWhile_append_eq_self _ (List.cons_ne_nil _ _) fun c final => ?_
          rcases List.mem_cons.mp (List.mem_of_getLast? final) with rfl | space
          · simpa using ended
          · rw [List.eq_of_mem_replicate space]
            decide
        have bare := kept 0
        rw [List.replicate_zero] at bare
        rw [kept, bare, List.append_cons, splitWords_append_spaces]

-----------------------------------------------------------------------------------------
-- What does not vanish
-----------------------------------------------------------------------------------------

theorem exists_terminators {ending : Text} (only : ∀ c ∈ ending, c = ' ' ∨ c = ';')
    : (∃ count, ending = List.replicate count (' ' : Character))
      ∨ ∃ front count trail,
          ending = front ++ terminators count trail ∧ ∀ c ∈ front.getLast?, c = ' ' := by
  obtain ⟨stripped, trail, rfl, behindSpaces⟩ := exists_copies_ending ' ' ending
  obtain ⟨front, count, rfl, behindTerminators⟩ := exists_copies_ending ';' stripped
  have spaced : ∀ c ∈ front.getLast?, c = ' ' := fun c final =>
    (only c (by simp [List.mem_of_getLast? final])).resolve_right (behindTerminators c final)
  cases count with
  | zero =>
      rw [List.replicate_zero, List.append_nil] at behindSpaces
      obtain rfl : front = [] := by
        rw [← List.getLast?_eq_none_iff, Option.eq_none_iff_forall_not_mem]
        exact fun c final => behindSpaces c final (spaced c final)
      exact .inl ⟨trail, rfl⟩
  | succ count => exact .inr ⟨front, count, trail, List.append_assoc _ _ _, spaced⟩

/-- Code that is not blank ends with something visible and the blanks behind it. -/
theorem exists_last_visible {code : Text} (some : ¬∀ c ∈ code, Text.isBlank c = true)
    : ∃ before last loose,
        code = before ++ last :: loose
        ∧ Text.isBlank last = false
        ∧ ∀ c ∈ loose, Text.isBlank c = true := by
  obtain ⟨loose, parts, blank, visible⟩ := exists_ending Text.isBlank code
  generalize code.rdropWhile Text.isBlank = kept at parts visible
  subst parts
  rcases List.eq_nil_or_concat kept with rfl | ⟨before, last, rfl⟩
  · exact absurd blank some
  · exact ⟨before, last, loose, by simp, visible last (by simp), blank⟩

theorem mem_getLast?_of_dropWhile {p : Character → Bool} {text : Text} {c : Character}
    (final : c ∈ (text.dropWhile p).getLast?)
    : c ∈ text.getLast? := by
  rw [← List.takeWhile_append_dropWhile (p := p) (l := text), List.getLast?_append,
    Option.mem_def.mp final]
  rfl

theorem count_dropWhile {p : Character → Bool} {d : Character} (kept : p d = false) (text : Text)
    : (text.dropWhile p).count d = text.count d := by
  have none : (text.takeWhile p).count d = 0 :=
    List.count_eq_zero.mpr fun member => by simp [List.mem_takeWhile_imp member] at kept
  conv_rhs => rw [← List.takeWhile_append_dropWhile (p := p) (l := text)]
  rw [List.count_append, none, Nat.zero_add]

theorem count_rdropWhile_le (p : Character → Bool) (d : Character) (text : Text)
    : (text.rdropWhile p).count d ≤ text.count d :=
  (List.rdropWhile_prefix p text).sublist.count_le d

theorem count_cleanCode_le (d : Character) (code : Text)
    : (cleanCode code).count d ≤ code.count d :=
  (count_rdropWhile_le _ d _).trans
    ((count_rdropWhile_le _ d _).trans ((List.dropWhile_sublist _).count_le d))

/-- Terminators that a space parts from the last ones are not taken away. -/
theorem count_cleanCode_lt_of_parted (code : Text) {front : Text} (parted : ↑ ';' ∈ front)
    (spaced : ∀ c ∈ front.getLast?, c = ' ') (count trail : Nat)
    : (cleanCode code).count ↑ ';'
      < (cleanCode (code ++ (front ++ terminators count trail))).count ↑ ';' := by
  have unended : ∀ c ∈ ((code ++ front).dropWhile Text.isBlank).getLast?, (c == ';') = false := by
    intro c final
    have final := mem_getLast?_of_dropWhile final
    rw [List.getLast?_append_of_ne_nil _ (List.ne_nil_of_mem parted)] at final
    rw [spaced c final]
    decide
  have some := List.count_pos_iff.mpr parted
  have kept := count_cleanCode_le ';' code
  rw [← List.append_assoc, cleanCode_append_terminators, rdropWhile_eq_self unended,
    count_dropWhile (by decide), List.count_append]
  omega

/-- Blanks before terminators keep what comes before the blanks from being taken away. -/
theorem cleanCode_of_blanks_between (before : Text) {last : Character}
    (visible : Text.isBlank last = false) {loose : Text}
    (blank : ∀ c ∈ loose, Text.isBlank c = true) (some : loose ≠ []) (count trail : Nat)
    : cleanCode (before ++ last :: loose ++ terminators count trail)
      = before.dropWhile Text.isBlank ++ [last] ++ loose := by
  rw [cleanCode_of_visible_append_terminators _ visible, List.append_cons]
  refine rdropWhile_append_eq_self _ some fun c final => beq_false_of_ne ?_
  rintro rfl
  exact absurd (blank ';' (List.mem_of_getLast? final)) (by decide)

theorem count_cleanCode_lt_of_blank (before : Text) {last : Character}
    (visible : Text.isBlank last = false) {loose : Text}
    (blank : ∀ c ∈ loose, Text.isBlank c = true) {d : Character} (member : d ∈ loose)
    (gap count trail : Nat)
    : (cleanCode (before ++ last :: loose)).count d
      < (cleanCode
          (before ++ last :: loose
            ++ (List.replicate gap (' ' : Character) ++ terminators count trail))).count d := by
  have between : ∀ c ∈ loose ++ List.replicate gap (' ' : Character), Text.isBlank c = true :=
    List.forall_mem_append.mpr ⟨blank, fun _ => isBlank_of_mem_spaces⟩
  have some : loose ++ List.replicate gap (' ' : Character) ≠ [] :=
    List.append_ne_nil_of_left_ne_nil (List.ne_nil_of_mem member) _
  have found := List.count_pos_iff.mpr member
  have kept := count_rdropWhile_le (· == ↑ ';') d (before.dropWhile Text.isBlank ++ [last])
  rw [cleanCode_of_visible before visible blank, ← List.append_assoc, List.append_assoc before,
    List.cons_append, cleanCode_of_blanks_between before visible between some]
  simp only [List.count_append] at kept ⊢
  omega

theorem count_cleanCode_lt_of_ended (before : Text) {loose gap : Nat} (apart : loose + gap ≠ 0)
    (count trail : Nat)
    : (cleanCode (before ++ ↑ ';' :: List.replicate loose (' ' : Character))).count ↑ ';'
      < (cleanCode
          (before ++ ↑ ';' :: List.replicate loose (' ' : Character)
            ++ (List.replicate gap (' ' : Character) ++ terminators count trail))).count ↑ ';' := by
  have visible : Text.isBlank ';' = false := by decide
  have some : List.replicate (loose + gap) (' ' : Character) ≠ [] := by simpa using apart
  have taken : (before.dropWhile Text.isBlank ++ ([';'] : Text)).rdropWhile (· == ↑ ';')
      = (before.dropWhile Text.isBlank).rdropWhile (· == ↑ ';') :=
    List.rdropWhile_concat_pos _ _ _ rfl
  have kept := count_rdropWhile_le (· == ↑ ';') ';' (before.dropWhile Text.isBlank)
  rw [cleanCode_of_visible before visible fun _ => isBlank_of_mem_spaces, taken,
    ← List.append_assoc, List.append_assoc before, List.cons_append,
    List.replicate_append_replicate,
    cleanCode_of_blanks_between before visible (fun _ => isBlank_of_mem_spaces) some]
  simp only [List.count_append, List.count_singleton_self]
  omega

/-- Of an ending that does not vanish a terminator or a blank is left: a terminator that spaces part
from the last ones, or, where the last ones stand alone, what keeps the end of the code in place.
-/
theorem exists_left_over {code ending : Text} (only : ∀ c ∈ ending, c = ' ' ∨ c = ';')
    (stays : ¬IsInert code ending)
    : ∃ d : Character, d ≠ ' '
        ∧ (d = ';' ∨ Text.isBlank d = true)
        ∧ (cleanCode code).count d < (cleanCode (code ++ ending)).count d := by
  rcases exists_terminators only with ⟨count, rfl⟩ | ⟨front, count, trail, rfl, spaced⟩
  · exact absurd (.spaces count) stays
  by_cases parted : ↑ ';' ∈ front
  · exact ⟨';', by decide, .inl rfl, count_cleanCode_lt_of_parted code parted spaced count trail⟩
  have spaces : front = List.replicate front.length (' ' : Character) := by
    refine List.eq_replicate_of_mem fun c member => ?_
    refine ((List.forall_mem_append.mp only).1 c member).resolve_right ?_
    rintro rfl
    exact parted member
  rw [spaces] at stays ⊢
  by_cases blank : ∀ c ∈ code, Text.isBlank c = true
  · exact absurd (.afterBlanks blank _ count trail) stays
  obtain ⟨before, last, loose, rfl, visible, looseBlank⟩ := exists_last_visible blank
  by_cases looseSpaces : ∀ c ∈ loose, c = ' '
  · rw [List.eq_replicate_of_mem looseSpaces] at stays ⊢
    have ended : last = ';' ∧ loose.length + front.length ≠ 0 := by
      by_contra unparted
      push Not at unparted
      exact stays (.afterCode rfl visible _ count trail unparted)
    obtain ⟨rfl, apart⟩ := ended
    exact ⟨';', by decide, .inl rfl, count_cleanCode_lt_of_ended before apart count trail⟩
  · push Not at looseSpaces
    obtain ⟨d, member, other⟩ := looseSpaces
    exact ⟨d, other, .inr (looseBlank d member),
      count_cleanCode_lt_of_blank before visible looseBlank member _ count trail⟩

-----------------------------------------------------------------------------------------
-- Words of a line with something after it
-----------------------------------------------------------------------------------------

/-- All of a text but its spaces is in its words. -/
theorem count_flatten_splitWords {d : Character} (visible : d ≠ ' ') (text : Text)
    : (splitWords text).flatten.count d = text.count d := by
  obtain ⟨⟨indent, placed⟩, rfl, areWords, parted⟩ := exists_layout text
  have none (count : Nat) : (List.replicate count (' ' : Character)).count d = 0 := by
    simp [List.count_replicate, visible.symm]
  rw [splitWords_text areWords parted, Layout.text, List.count_append, none, Nat.zero_add,
    List.count_flatten, List.map_map, List.count_flatMap]
  refine congrArg List.sum (List.map_congr_left fun word _ => ?_)
  simp [none]

/-- What is written after a line makes no difference to its words, and so to its gloss, just when
it vanishes from the end of the code; otherwise a terminator or a blank is left in a word.
-/
theorem words_append_eq_iff_isInert {line : Text} {suffix : List Piece} (closed : IsClosed line)
    (plain : ∀ part ∈ suffix, part.IsCommentOr fun c => c = ' ' ∨ c = ';')
    : let whole := line ++ suffix.flatMap Piece.source
      let inert := IsInert (withoutComments line) (codeOf suffix)
      (words whole = words line ↔ inert)
      ∧ (inert
        → ∀ (book : CodeBook) (model : Option Text),
            Gloss.ofLine (book.describe model) whole = Gloss.ofLine (book.describe model) line)
      ∧ (¬inert → ∃ word ∈ words whole, ∃ c ∈ word, c = ';' ∨ Text.isBlank c = true) := by
  intro whole inert
  have cleaned : clean whole = cleanCode (withoutComments line ++ codeOf suffix) :=
    congrArg cleanCode (withoutComments_append closed plain)
  have same (vanishes : inert) : words whole = words line := by
    change splitWords (clean whole) = splitWords (cleanCode (withoutComments line))
    rw [cleaned, vanishes.splitWords_eq]
  have more (stays : ¬inert)
      : ∃ d : Character, (d = ';' ∨ Text.isBlank d = true)
          ∧ (words line).flatten.count d < (words whole).flatten.count d := by
    obtain ⟨d, visible, kind, more⟩ := exists_left_over (forall_mem_codeOf plain) stays
    refine ⟨d, kind, ?_⟩
    change (splitWords (cleanCode (withoutComments line))).flatten.count d
      < (splitWords (clean whole)).flatten.count d
    rwa [cleaned, count_flatten_splitWords visible, count_flatten_splitWords visible]
  refine ⟨⟨fun equal => ?_, same⟩, ?_, ?_⟩
  · by_contra stays
    obtain ⟨d, -, counted⟩ := more stays
    rw [equal] at counted
    exact Nat.lt_irrefl _ counted
  · intro vanishes book model
    rw [Gloss.ofLine, Gloss.ofLine, same vanishes]
  · intro stays
    obtain ⟨d, kind, counted⟩ := more stays
    have left := List.count_pos_iff.mp (Nat.zero_lt_of_lt counted)
    obtain ⟨word, inLine, member⟩ := List.mem_flatten.mp left
    exact ⟨word, inLine, d, member, kind⟩

/-- Comments may stand between terminators and the code, and between the terminators. -/
theorem words_append_eq_iff_isInert_commented
    : let line : Text := "M30 (END)"
      let suffix : List Piece := [.code ' ', .code ';', .comment ['x'], .code ';', .code ' ']
      let whole := line ++ suffix.flatMap Piece.source
      IsClosed line
      ∧ (∀ part ∈ suffix, part.IsCommentOr fun c => c = ' ' ∨ c = ';')
      ∧ IsInert (withoutComments line) (codeOf suffix)
      ∧ whole = "M30 (END) ;(x); "
      ∧ words whole = words line
      ∧ ∀ book : CodeBook,
          Gloss.ofLine (book.describe none) whole = Gloss.ofLine (book.describe none) line := by
  intro line suffix whole
  have closed : IsClosed line := by decide +kernel
  have plain : ∀ part ∈ suffix, part.IsCommentOr fun c => c = ' ' ∨ c = ';' := by
    simp [suffix, Piece.IsCommentOr]
  have code
      : withoutComments line
        = (['M', '3'] : Text) ++ ↑ '0' :: List.replicate 1 (' ' : Character) := by
    decide +kernel
  have ending : codeOf suffix = List.replicate 1 (' ' : Character) ++ terminators 1 1 := by
    decide +kernel
  have inert : IsInert (withoutComments line) (codeOf suffix) := by
    rw [ending]
    exact .afterCode code (by decide) 1 1 1 (by decide)
  obtain ⟨same, glosses, -⟩ := words_append_eq_iff_isInert closed plain
  exact ⟨closed, plain, inert, by decide +kernel, same.mpr inert,
    fun book => glosses inert book none⟩

/-- A terminator that a space parts from those at the end stays in a word, and so a code that has a
description is not found.
-/
theorem exists_terminator_in_word
    : let line : Text := "M30"
      let suffix : List Piece := [.code ';', .code ' ', .comment ['E', 'N', 'D'], .code ';']
      let whole := line ++ suffix.flatMap Piece.source
      let describe := (CodeBook.ofSupplement ⟨[(line, "end")], []⟩).describe none
      IsClosed line
      ∧ (∀ c ∈ line.getLast?, Text.isBlank c = false)
      ∧ (∀ part ∈ suffix, part.IsCommentOr fun c => c = ' ' ∨ c = ';')
      ∧ whole = "M30; (END);"
      ∧ words line = (["M30"] : List Text)
      ∧ words whole = (["M30;"] : List Text)
      ∧ Gloss.ofLine describe line = ⟨"end", []⟩
      ∧ Gloss.ofLine describe whole = ⟨"M30;", ["M30;"]⟩ := by
  intro line suffix whole describe
  have plain : ∀ part ∈ suffix, part.IsCommentOr fun c => c = ' ' ∨ c = ';' := by
    simp [suffix, Piece.IsCommentOr]
  have visible : ∀ c ∈ line.getLast?, Text.isBlank c = false := by
    rintro c ⟨⟩
    decide
  refine ⟨?_, visible, plain, ?_, ?_, ?_, ?_, ?_⟩
  all_goals decide +kernel

end LatheGloss.Program
