import Mathlib
import LatheGloss.CodeBook.Basic
import LatheGloss.Program.Gloss
import LatheGloss.Proofs.Program.Layout
import LatheGloss.Proofs.Text.Character

/-! Lines as they are written. The same words can be written with other blanks and comments around
them, with or without spaces where they can be told apart, and with or without terminators at the
end; they are read as the same words, and so they have the same gloss.
-/

namespace LatheGloss.Program

/-- A piece that is read as it stands: code of some kind, or a comment that closes at its end. -/
def Piece.IsCommentOr (kind : Character → Prop) : Piece → Prop
  | .code c => kind c
  | .comment body => ↑ ')' ∉ body ∧ ↑ '\n' ∉ body

/-- A word that nothing else on a line is taken for: no blank, no parenthesis and no terminator. -/
structure IsBareWord (word : Text) : Prop extends IsWord word where
  bare : ∀ c ∈ word, Text.isBlank c = false ∧ c ≠ '(' ∧ c ≠ ')' ∧ c ≠ ';'

/-- What comes before the words, each word with what comes after it up to the next one, the
terminators, and what comes after them.
-/
structure WrittenLine where
  lead : List Piece
  words : List (Text × List Piece)
  terminators : List Piece
  trail : List Piece

namespace WrittenLine

/-- The pieces of a line, in their order. -/
def parts (line : WrittenLine) : List Piece :=
  line.lead
  ++ (line.words.flatMap fun (word, gap) => word.map Piece.code ++ gap)
  ++ line.terminators
  ++ line.trail

def text (line : WrittenLine) : Text :=
  line.parts.flatMap Piece.source

/-- Comments may stand anywhere but in a word; spaces between words, terminators after the last one
and blanks at both ends. Words may touch where they can be told apart.
-/
structure Readable (line : WrittenLine) : Prop where
  lead : ∀ part ∈ line.lead, part.IsCommentOr (Text.isBlank · = true)
  words : ∀ word ∈ line.words, IsBareWord word.1
  gaps : ∀ word ∈ line.words, ∀ part ∈ word.2, part.IsCommentOr (· = ' ')
  parted
    : line.words.IsChain fun left right => .code ↑ ' ' ∉ left.2 → PartWhereTouching left.1 right.1
  terminators : ∀ part ∈ line.terminators, part.IsCommentOr (· = ';')
  trail : ∀ part ∈ line.trail, part.IsCommentOr (Text.isBlank · = true)

end WrittenLine

-----------------------------------------------------------------------------------------
-- Pieces are read as they are written
-----------------------------------------------------------------------------------------

theorem Piece.IsCommentOr.imp {kind other : Character → Prop} (implies : ∀ c, kind c → other c)
    {part : Piece} (plain : part.IsCommentOr kind)
    : part.IsCommentOr other := by
  cases part with
  | code c => exact implies c plain
  | comment body => exact plain

theorem pieces_code {c : Character} (notOpening : c ≠ '(') (rest : Text)
    : pieces (c :: rest) = .code c :: pieces rest := by
  rw [pieces, if_neg notOpening]

theorem pieces_closed {rest body after : Text} (closed : closeComment? rest = some (body, after))
    : pieces ('(' :: rest) = .comment body :: pieces after := by
  rw [pieces, if_pos rfl]
  split
  · next found =>
      rw [closed] at found
      cases found
      rfl
  · next unclosed =>
      rw [closed] at unclosed
      cases unclosed

theorem pieces_comment {body : Text} (closed : ↑ ')' ∉ body) (unbroken : ↑ '\n' ∉ body)
    (rest : Text)
    : pieces (Piece.source (.comment body) ++ rest) = .comment body :: pieces rest := by
  have spelled : Piece.source (.comment body) ++ rest = ↑ '(' :: (body ++ ↑ ')' :: rest) := by
    simp [Piece.source]
  rw [spelled]
  exact pieces_closed (closeComment?_eq_some_iff.mpr ⟨rfl, closed, unbroken⟩)

/-- Pieces whose code opens no comment are taken apart again, by induction over them. -/
theorem pieces_flatMap_source {parts : List Piece}
    (plain : ∀ part ∈ parts, part.IsCommentOr (· ≠ '('))
    : pieces (parts.flatMap Piece.source) = parts := by
  induction parts with
  | nil => rw [List.flatMap_nil, pieces]
  | cons part rest ih =>
      obtain ⟨first, others⟩ := List.forall_mem_cons.mp plain
      rw [List.flatMap_cons]
      cases part with
      | code c => exact (pieces_code first _).trans (congrArg _ (ih others))
      | comment body => rw [pieces_comment first.1 first.2, ih others]

/-- The code among pieces. -/
def codeOf (parts : List Piece) : Text :=
  parts.flatMap fun
    | .code c => [c]
    | .comment _ => []

theorem codeOf_append (earlier later : List Piece)
    : codeOf (earlier ++ later) = codeOf earlier ++ codeOf later :=
  List.flatMap_append

theorem codeOf_map_code (text : Text)
    : codeOf (text.map Piece.code) = text := by
  simp [codeOf, List.flatMap_map]

theorem mem_codeOf {parts : List Piece} {c : Character}
    : c ∈ codeOf parts ↔ .code c ∈ parts := by
  rw [codeOf, List.mem_flatMap]
  constructor
  · rintro ⟨part, member, inside⟩
    cases part with
    | code d =>
        obtain rfl := List.mem_singleton.mp inside
        exact member
    | comment body => cases inside
  · intro member
    exact ⟨.code c, member, List.mem_singleton_self c⟩

theorem forall_mem_codeOf {kind : Character → Prop} {parts : List Piece}
    (plain : ∀ part ∈ parts, part.IsCommentOr kind)
    : ∀ c ∈ codeOf parts, kind c :=
  fun c member => plain (.code c) (mem_codeOf.mp member)

-----------------------------------------------------------------------------------------
-- Cleaning keeps the words
-----------------------------------------------------------------------------------------

theorem rdropWhile_append_of_pos {p : Character → Bool} (left : Text) {right : Text}
    (dropped : ∀ c ∈ right, p c = true)
    : (left ++ right).rdropWhile p = left.rdropWhile p := by
  rw [List.rdropWhile, List.reverse_append, List.dropWhile_append_of_pos, List.rdropWhile]
  exact fun c member => dropped c (List.mem_reverse.mp member)

theorem rdropWhile_eq_self {p : Character → Bool} {text : Text}
    (kept : ∀ c ∈ text.getLast?, p c = false)
    : text.rdropWhile p = text := by
  refine List.rdropWhile_eq_self_iff.mpr fun full => ?_
  simpa using kept (text.getLast full) (List.getLast?_eq_getLast_of_ne_nil full)

/-- Spaces at the end separate nothing. -/
theorem splitWords_append_spaces (text : Text) (count : Nat)
    : splitWords (text ++ List.replicate count (' ' : Character)) = splitWords text := by
  cases count with
  | zero => rw [List.replicate_zero, List.append_nil]
  | succ count =>
      have none : splitWords (List.replicate count (' ' : Character)) = [] := by
        rw [← List.append_nil (List.replicate count (' ' : Character)), splitWords_spaces]
        rfl
      rw [List.replicate_succ, splitWords_append_space, none, List.append_nil]

/-- Trimming a text whose only blanks are spaces takes no word away. -/
theorem splitWords_rdropWhile {text : Text}
    (spaces : ∀ c ∈ text, Text.isBlank c = true → c = ' ')
    : splitWords (text.rdropWhile Text.isBlank) = splitWords text := by
  have split : text.rdropWhile Text.isBlank ++ text.rtakeWhile Text.isBlank = text := by
    rw [List.rdropWhile, List.rtakeWhile, ← List.reverse_append, List.takeWhile_append_dropWhile,
      List.reverse_reverse]
  have blank : ∀ c ∈ text.rtakeWhile Text.isBlank, c = ' ' := by
    intro c member
    refine spaces c ?_ (List.mem_rtakeWhile_imp member)
    rw [← split]
    exact List.mem_append_right _ member
  have trailing := List.eq_replicate_of_mem blank
  rw [trailing] at split
  conv_rhs => rw [← split]
  exact (splitWords_append_spaces _ _).symm

/-- Trimming takes away what is blank on both sides of a text that begins with something else. -/
theorem trim_blank_append {lead core trail : Text}
    (leadBlank : ∀ c ∈ lead, Text.isBlank c = true)
    (first : ∀ c ∈ core.head?, Text.isBlank c = false)
    (trailBlank : ∀ c ∈ trail, Text.isBlank c = true)
    : Text.trim Text.isBlank (lead ++ (core ++ trail)) = core.rdropWhile Text.isBlank := by
  change ((lead ++ (core ++ trail)).dropWhile Text.isBlank).rdropWhile Text.isBlank = _
  rw [List.dropWhile_append_of_pos leadBlank]
  cases core with
  | nil => rw [List.nil_append, List.dropWhile_eq_nil_iff.mpr trailBlank]
  | cons c more =>
      have kept : ¬Text.isBlank c = true := by simp [first c rfl]
      rw [List.cons_append, List.dropWhile_cons_of_neg kept, ← List.cons_append,
        rdropWhile_append_of_pos _ trailBlank]

/-- Blanks and terminators around words are cleaned away, and no word with them. -/
theorem splitWords_clean {lead body ends trail : Text}
    (leadBlank : ∀ c ∈ lead, Text.isBlank c = true)
    (bodyFirst : ∀ c ∈ body.head?, Text.isBlank c = false)
    (bodyBlank : ∀ c ∈ body, Text.isBlank c = true → c = ' ') (bodyOpen : ∀ c ∈ body, c ≠ ';')
    (endsOnly : ∀ c ∈ ends, c = ';') (trailBlank : ∀ c ∈ trail, Text.isBlank c = true)
    : splitWords
        ((Text.trim Text.isBlank (lead ++ (body ++ ends ++ trail))).trimEnd (· == ';'))
      = splitWords body := by
  have visible : ∀ c ∈ ends, Text.isBlank c = false := by
    intro c member
    rw [endsOnly c member]
    decide
  have first : ∀ c ∈ (body ++ ends).head?, Text.isBlank c = false := by
    cases body with
    | nil => exact fun c head => visible c (List.mem_of_head? head)
    | cons d more => exact bodyFirst
  have open' : ∀ c ∈ body, (c == ';') = false := fun c member => by simpa using bodyOpen c member
  rw [trim_blank_append leadBlank first trailBlank]
  change splitWords (((body ++ ends).rdropWhile Text.isBlank).rdropWhile (· == ↑ ';')) = _
  rcases List.eq_nil_or_concat ends with rfl | ⟨earlier, last, rfl⟩
  · -- Without terminators the spaces behind the last word are trimmed.
    have unended : ∀ c ∈ (body.rdropWhile Text.isBlank).getLast?, (c == ';') = false :=
      fun c final =>
        open' c ((List.rdropWhile_prefix _ _).subset (List.mem_of_getLast? final))
    rw [List.append_nil, rdropWhile_eq_self unended, splitWords_rdropWhile bodyBlank]
  · -- Terminators keep the spaces before them from being trimmed.
    have ended : ∀ c ∈ (body ++ earlier.concat last).getLast?, Text.isBlank c = false := by
      intro c final
      rw [List.concat_eq_append, ← List.append_assoc, List.getLast?_append] at final
      obtain rfl : last = c := by simpa using final
      exact visible last (by simp)
    have stripped : ∀ c ∈ earlier.concat last, (c == ';') = true :=
      fun c member => by simpa using endsOnly c member
    rw [rdropWhile_eq_self ended, rdropWhile_append_of_pos _ stripped,
      rdropWhile_eq_self fun c final => open' c (List.mem_of_getLast? final)]

-----------------------------------------------------------------------------------------
-- Words of a written line
-----------------------------------------------------------------------------------------

namespace WrittenLine

variable {line : WrittenLine}

/-- The words with the spaces that are left between them when the comments are gone. -/
def layout (line : WrittenLine) : Layout where
  indent := 0
  words := line.words.map fun (word, gap) => (word, (codeOf gap).length)

theorem text_layout (line : WrittenLine)
    : line.layout.text
      = line.words.flatMap fun (word, gap) =>
          word ++ List.replicate (codeOf gap).length (' ' : Character) := by
  rw [Layout.text, layout, List.flatMap_map]
  rfl

theorem map_fst_layout (line : WrittenLine)
    : line.layout.words.map Prod.fst = line.words.map Prod.fst := by
  rw [layout, List.map_map]
  rfl

theorem Readable.plain (readable : line.Readable)
    : ∀ part ∈ line.parts, part.IsCommentOr (· ≠ '(') := by
  have blank : ∀ c, Text.isBlank c = true → c ≠ '(' := by
    rintro c blank rfl
    exact absurd blank (by decide)
  intro part member
  simp only [parts, List.mem_append, List.mem_flatMap] at member
  rcases member with ((lead | ⟨word, inLine, inWord⟩) | ends) | trail
  · exact (readable.lead part lead).imp blank
  · rcases inWord with code | gap
    · obtain ⟨c, inside, rfl⟩ := List.mem_map.mp code
      exact ((readable.words word inLine).bare c inside).2.1
    · exact (readable.gaps word inLine part gap).imp (by rintro c rfl; decide)
  · exact (readable.terminators part ends).imp (by rintro c rfl; decide)
  · exact (readable.trail part trail).imp blank

/-- Without its comments a line is a layout of its words between blanks and terminators. -/
theorem Readable.withoutComments_text (readable : line.Readable)
    : withoutComments line.text
      = codeOf line.lead
        ++ (line.layout.text ++ codeOf line.terminators ++ codeOf line.trail) := by
  have words : codeOf (line.words.flatMap fun (word, gap) => word.map Piece.code ++ gap)
      = line.layout.text := by
    rw [text_layout, codeOf, List.flatMap_assoc]
    refine List.flatMap_congr ?_
    rintro ⟨word, gap⟩ member
    have spaces := List.eq_replicate_of_mem (forall_mem_codeOf (readable.gaps _ member))
    change codeOf (word.map Piece.code ++ gap)
      = word ++ List.replicate (codeOf gap).length (' ' : Character)
    rw [codeOf_append, codeOf_map_code, ← spaces]
  change codeOf (pieces line.text) = _
  rw [text, pieces_flatMap_source readable.plain, parts, codeOf_append, codeOf_append,
    codeOf_append, words]
  simp only [List.append_assoc]

theorem Readable.parted_layout (readable : line.Readable)
    : line.layout.Parted := by
  refine (List.isChain_map _).mpr (readable.parted.imp fun left right parts none => parts ?_)
  intro space
  have inside := mem_codeOf.mpr space
  rw [List.length_eq_zero_iff.mp none] at inside
  cases inside

theorem Readable.head?_layout (readable : line.Readable)
    : ∀ c ∈ line.layout.text.head?, Text.isBlank c = false := by
  rw [text_layout]
  cases written : line.words with
  | nil => simp
  | cons word rest =>
      have isWord := readable.words word (by simp [written])
      intro c head
      rw [List.flatMap_cons, List.append_assoc, List.head?_append_of_ne_nil _ isWord.nonempty]
        at head
      exact (isWord.bare c (List.mem_of_head? head)).1

theorem Readable.mem_layout (readable : line.Readable) {c : Character}
    (member : c ∈ line.layout.text)
    : c = ' ' ∨ (Text.isBlank c = false ∧ c ≠ ';') := by
  rw [text_layout] at member
  obtain ⟨word, inLine, inside⟩ := List.mem_flatMap.mp member
  rcases List.mem_append.mp inside with inWord | inGap
  · have bare := (readable.words word inLine).bare c inWord
    exact .inr ⟨bare.1, bare.2.2.2⟩
  · exact .inl (List.eq_of_mem_replicate inGap)

/-- The words are read off a line however it is written: comments vanish, cleaning takes away what
is around the words, and what is left is a layout of them.
-/
theorem Readable.words_text (readable : line.Readable)
    : Program.words line.text = line.words.map Prod.fst := by
  have blanks : ∀ c ∈ line.layout.text, Text.isBlank c = true → c = ' ' := by
    intro c member blank
    rcases readable.mem_layout member with space | ⟨visible, -⟩
    · exact space
    · rw [visible] at blank
      cases blank
  have unended : ∀ c ∈ line.layout.text, c ≠ ';' := by
    intro c member
    rcases readable.mem_layout member with rfl | ⟨-, other⟩
    · decide
    · exact other
  have areWords : ∀ word ∈ line.layout.words, IsWord word.1 :=
    List.forall_mem_map.mpr fun word member => (readable.words word member).toIsWord
  calc Program.words line.text
      = splitWords (clean line.text) := rfl
    _ = splitWords line.layout.text := by
        rw [clean, readable.withoutComments_text]
        exact splitWords_clean (forall_mem_codeOf readable.lead) readable.head?_layout blanks
          unended (forall_mem_codeOf readable.terminators) (forall_mem_codeOf readable.trail)
    _ = line.layout.words.map Prod.fst := splitWords_text areWords readable.parted_layout
    _ = line.words.map Prod.fst := map_fst_layout line

/-- However words are written on a line, they are read as those words, and with every code book and
for every model the line has the same gloss as any other line that they can be written on.
-/
theorem words_text_eq (line : WrittenLine) (readable : line.Readable)
    : Program.words line.text = line.words.map Prod.fst
      ∧ ∀ other : WrittenLine,
          other.Readable
          → other.words.map Prod.fst = line.words.map Prod.fst
          → ∀ (book : CodeBook) (model : Option Text),
              Gloss.ofLine (book.describe model) other.text
              = Gloss.ofLine (book.describe model) line.text := by
  refine ⟨readable.words_text, ?_⟩
  intro other otherReadable same book model
  rw [Gloss.ofLine, Gloss.ofLine, otherReadable.words_text, readable.words_text, same]

/-- A comment may hold what would end a comment or a line elsewhere, and may stand where two words
touch.
-/
theorem words_text_eq_commented
    : let line : WrittenLine :=
        {
          lead := [.code '\t', .comment "a (;"],
          words :=
            [
              (['G', '0'], [.comment ['x']]),
              (['X', '-', '1'], [.code ' ', .comment ['y'], .code ' ']),
              (['é'], [.code ' '])
            ],
          terminators := [.code ';', .comment ['z'], .code ';'],
          trail := [.code '\u3000', .comment []]
        }
      let other : WrittenLine :=
        ⟨[], [(['G', '0'], []), (['X', '-', '1'], [.code ' ']), (['é'], [])], [], []⟩
      line.text = "\t(a (;)G0(x)X-1 (y) é ;(z);\u3000()"
      ∧ line.Readable
      ∧ other.Readable
      ∧ Program.words line.text = (["G0", "X-1", "é"] : List Text)
      ∧ Gloss.ofLine (CodeBook.empty.describe none) other.text
        = Gloss.ofLine (CodeBook.empty.describe none) line.text := by
  intro line other
  have motion : IsBareWord ['G', '0'] :=
    ⟨⟨by simp, by simp, ['G'], ['0'], rfl, by simp, by simp⟩, by simp; decide⟩
  have axis : IsBareWord ['X', '-', '1'] :=
    ⟨⟨by simp, by simp, ['X'], ['-', '1'], rfl, by simp, by simp⟩, by simp; decide⟩
  have accent : IsBareWord ['é'] :=
    ⟨⟨by simp, by simp, [], ['é'], rfl, by simp, by simp⟩, by simp; decide⟩
  have readable : line.Readable := by
    refine ⟨?_, ?_, ?_, ?_, ?_, ?_⟩
    · simp [line, Piece.IsCommentOr]
      decide
    · simp [line, motion, axis, accent]
    · simp [line, Piece.IsCommentOr]
    · simp [line, PartWhereTouching]
    · simp [line, Piece.IsCommentOr]
    · simp [line, Piece.IsCommentOr]
      decide
  have otherReadable : other.Readable := by
    refine ⟨?_, ?_, ?_, ?_, ?_, ?_⟩
    all_goals simp [other, Piece.IsCommentOr, PartWhereTouching, motion, axis, accent]
  obtain ⟨read, glossed⟩ := words_text_eq line readable
  exact ⟨by decide +kernel, readable, otherReadable, read,
    glossed other otherReadable rfl .empty none⟩

end WrittenLine

end LatheGloss.Program
