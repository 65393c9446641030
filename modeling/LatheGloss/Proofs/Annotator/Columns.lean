import Mathlib
import LatheGloss.Proofs.Annotator.Issues
import LatheGloss.Proofs.Program.Columns

/-! Columns of issues. An issue stands where its word is first found in the masked line in
uppercase; these are the columns of the word itself unless the same characters stand earlier in the
line or a character before them has a longer uppercase.
-/

namespace LatheGloss

open Program

namespace Issue

/-- The columns of an issue are columns of a text. -/
structure Within (issue : Issue) (text : Text) : Prop where
  start : 0 ≤ issue.start
  nonempty : issue.start < issue.stop
  stop : issue.stop ≤ text.length

/-- What stands in the columns of an issue. -/
def excerpt (issue : Issue) (text : Text) : Text :=
  (text.take issue.stop.toNat).drop issue.start.toNat

/-- An issue can concern all of a line. -/
def Covers (issue : Issue) (text : Text) : Prop :=
  issue.start = 0 ∧ issue.stop = text.length

/-- The columns of an issue are those of the first place of its word in the masked line in
uppercase, or all columns of the line if the word stands nowhere there.
-/
inductive Located (issue : Issue) (source word : Text) : Prop
  | found (start : Nat) (starts : issue.start = start) (stops : issue.stop = start + word.length)
    (occurs : Text.OccursAt word (Text.upper (maskComments source)) start)
    (first : ∀ earlier < start, ¬Text.OccursAt word (Text.upper (maskComments source)) earlier)
  | missing (covers : issue.Covers source)
    (nowhere : ∀ start, ¬Text.OccursAt word (Text.upper (maskComments source)) start)

end Issue

-----------------------------------------------------------------------------------------
-- Places in a text and in its uppercase
-----------------------------------------------------------------------------------------

namespace Text

theorem OccursAt.upper {needle text : Text} {start : Nat} (occurs : OccursAt needle text start)
    (bound : start ≤ text.length)
    (single : ∀ c ∈ text.take start, (upperChar c).length = 1)
    : OccursAt (Text.upper needle) (Text.upper text) start := by
  obtain ⟨rest, same⟩ := occurs
  refine ⟨Text.upper rest, ?_⟩
  rw [(upper_take_drop bound single).2, ← same, upper_append]

/-- What is found in the uppercase of a text is the uppercase of what stands there in the text. -/
theorem OccursAt.of_upper {needle text : Text} {start : Nat}
    (occurs : OccursAt needle (Text.upper text) start) (nonempty : needle ≠ [])
    (single : ∀ c ∈ text.take (start + needle.length), (upperChar c).length = 1)
    : start + needle.length ≤ text.length
      ∧ Text.upper ((text.take (start + needle.length)).drop start) = needle := by
  have bound : start + needle.length ≤ text.length := by
    by_contra beyond
    have whole : text.take (start + needle.length) = text := List.take_of_length_le (by omega)
    have width := length_upper (whole ▸ single)
    have stop := occurs.stop_le nonempty
    omega
  have earlier : ∀ c ∈ (text.take (start + needle.length)).take start, (upperChar c).length = 1 :=
    fun c member => single c (List.mem_of_mem_take member)
  have inside : start ≤ (text.take (start + needle.length)).length := by
    rw [List.length_take_of_le bound]
    omega
  refine ⟨bound, ?_⟩
  calc Text.upper ((text.take (start + needle.length)).drop start)
      = (Text.upper (text.take (start + needle.length))).drop start :=
        (upper_take_drop inside earlier).2.symm
    _ = ((Text.upper text).take (start + needle.length)).drop start := by
        rw [(upper_take_drop bound single).1]
    _ = ((Text.upper text).drop start).take needle.length := by
        rw [List.drop_take, Nat.add_sub_cancel_left]
    _ = needle := occurs.slice

end Text

-----------------------------------------------------------------------------------------
-- Where a word is found
-----------------------------------------------------------------------------------------

theorem located_unknownWordIssue (line : AnnotatedLine) (word : Text)
    : (unknownWordIssue line word).Located line.source word := by
  obtain ⟨starts, stops⟩ := columns_unknownWordIssue line word
  unfold wordColumns at starts stops
  split at starts
  · next start found =>
      obtain ⟨occurs, first⟩ := Text.occursAt_of_find? found
      exact .found start starts (by simpa [found] using stops) occurs first
  · next missed =>
      exact .missing ⟨starts, by simpa [missed] using stops⟩ (Text.not_occursAt_of_find? missed)

/-- Columns that show no space in the masked line show the same in the line. -/
theorem excerpt_maskComments {issue : Issue} {source : Text}
    (visible : ↑ ' ' ∉ issue.excerpt (maskComments source))
    : issue.excerpt (maskComments source) = issue.excerpt source := by
  have masks : Masks (issue.excerpt (maskComments source)) (issue.excerpt source) :=
    List.forall₂_drop _ (List.forall₂_take _ (masks_maskComments source))
  exact masks.eq_of_visible visible

namespace Issue

variable {issue : Issue} {source word : Text} {start : Nat}

theorem Covers.within (covers : issue.Covers source) (full : source ≠ [])
    : issue.Within source := by
  obtain ⟨starts, stops⟩ := covers
  have positive := List.length_pos_of_ne_nil full
  exact ⟨by omega, by omega, by omega⟩

/-- Columns that a word takes up in a text show it there. -/
theorem shows_of_occursAt {text : Text} (starts : issue.start = start)
    (stops : issue.stop = start + word.length) (occurs : Text.OccursAt word text start)
    (nonempty : word ≠ [])
    : issue.Within text ∧ issue.excerpt text = word := by
  have positive := List.length_pos_of_ne_nil nonempty
  have bound := occurs.stop_le nonempty
  have stop : issue.stop.toNat = start + word.length := by omega
  refine ⟨⟨by omega, by omega, by omega⟩, ?_⟩
  rw [excerpt, starts, stop, Int.toNat_natCast, List.drop_take, Nat.add_sub_cancel_left]
  exact occurs.slice

/-- Columns of a word in the masked line in uppercase show it in the masked line, where there is
then no space in them.
-/
theorem shows_masked_of_occursAt_upper (starts : issue.start = start)
    (stops : issue.stop = start + word.length)
    (occurs : Text.OccursAt word (Text.upper (maskComments source)) start) (nonempty : word ≠ [])
    (spaceless : ↑ ' ' ∉ word)
    (single : ∀ c ∈ (maskComments source).take issue.stop.toNat, (Text.upperChar c).length = 1)
    : issue.Within source
      ∧ Text.upper (issue.excerpt (maskComments source)) = word
      ∧ ↑ ' ' ∉ issue.excerpt (maskComments source) := by
  have positive := List.length_pos_of_ne_nil nonempty
  have stop : issue.stop.toNat = start + word.length := by omega
  rw [stop] at single
  obtain ⟨bound, shown⟩ := occurs.of_upper nonempty single
  have masked : Text.upper (issue.excerpt (maskComments source)) = word := by
    rwa [excerpt, starts, stop, Int.toNat_natCast]
  have visible : ↑ ' ' ∉ issue.excerpt (maskComments source) := by
    rwa [← Text.space_mem_upper_iff, masked]
  rw [length_maskComments] at bound
  exact ⟨⟨by omega, by omega, by omega⟩, masked, visible⟩

/-- Columns of a word in the masked line in uppercase show it in the line too, if no character
before their end has a longer uppercase.
-/
theorem shows_of_occursAt_upper (starts : issue.start = start)
    (stops : issue.stop = start + word.length)
    (occurs : Text.OccursAt word (Text.upper (maskComments source)) start) (nonempty : word ≠ [])
    (spaceless : ↑ ' ' ∉ word)
    (single : ∀ c ∈ (maskComments source).take issue.stop.toNat, (Text.upperChar c).length = 1)
    : issue.Within source ∧ Text.upper (issue.excerpt source) = word := by
  obtain ⟨within, masked, visible⟩ :=
    shows_masked_of_occursAt_upper starts stops occurs nonempty spaceless single
  rw [excerpt_maskComments visible] at masked
  exact ⟨within, masked⟩

end Issue

namespace Issue.Located

variable {issue : Issue} {source word : Text}

/-- An issue shows its word in the masked line in uppercase, and in the line itself if no character
before its end has a longer uppercase; or it covers a line in which the word stands nowhere.
-/
theorem shows (located : issue.Located source word) (full : source ≠ []) (nonempty : word ≠ [])
    (spaceless : ↑ ' ' ∉ word)
    : let shown := Text.upper (maskComments source)
      issue.Within shown
        ∧ issue.excerpt shown = word
        ∧ ((∀ c ∈ (maskComments source).take issue.stop.toNat, (Text.upperChar c).length = 1)
          → issue.Within source ∧ Text.upper (issue.excerpt source) = word)
      ∨ issue.Within source
        ∧ issue.Covers source
        ∧ ∀ start, ¬Text.OccursAt word shown start := by
  intro shown
  cases located with
  | found start starts stops occurs first =>
      obtain ⟨within, excerpt⟩ := shows_of_occursAt starts stops occurs nonempty
      exact .inl ⟨within, excerpt,
        shows_of_occursAt_upper starts stops occurs nonempty spaceless⟩
  | missing covers nowhere => exact .inr ⟨covers.within full, covers, nowhere⟩

/-- A place where the word stands is the issue's own unless the word stands before it too. -/
theorem of_occursAt (located : issue.Located source word) {first : Nat}
    (stands : Text.OccursAt word (Text.upper (maskComments source)) first)
    : issue.start ≤ first
      ∧ issue.stop = issue.start + word.length
      ∧ (issue.start = first
        ↔ ∀ earlier < first, ¬Text.OccursAt word (Text.upper (maskComments source)) earlier) := by
  cases located with
  | missing covers nowhere => exact absurd stands (nowhere first)
  | found start starts stops occurs earliest =>
      have reached : start ≤ first := by
        by_contra beyond
        exact earliest first (by omega) stands
      refine ⟨by omega, by omega, ?_, ?_⟩
      · intro same earlier less
        exact earliest earlier (by omega)
      · intro nowhere
        by_contra differs
        exact nowhere start (by omega) occurs

end Issue.Located

-----------------------------------------------------------------------------------------
-- The issues of an annotated line
-----------------------------------------------------------------------------------------

section Annotate

variable {annotator : Annotator} {program : Text} {model : Option Text} {line : AnnotatedLine}

theorem onLine_annotate (member : line ∈ (annotator.annotate program model).1.lines)
    : (annotator.annotate program model).1.issues.onLine line.number
      = line.gloss.unknowns.map (unknownWordIssue line) := by
  refine onLine_issuesOf ?_ member
  rw [numbers_annotate]
  exact List.nodup_range'

/-- Every unknown word is the uppercase of a word of its line. -/
theorem exists_original (member : line ∈ (annotator.annotate program model).1.lines) {word : Text}
    (unknown : word ∈ line.gloss.unknowns)
    : ∃ original ∈ words line.source, Text.upper original = word := by
  rw [gloss_of_mem_annotate member, Gloss.ofLine, unknowns_ofWords] at unknown
  obtain ⟨original, reported, same⟩ := List.mem_map.mp unknown
  exact ⟨original, (List.mem_filter.mp reported).1, same⟩

/-- The issue of an unknown word follows those of the unknown words before it on its line. -/
theorem getElem?_onLine_annotate (member : line ∈ (annotator.annotate program model).1.lines)
    {before after : List Placed} {word : Placed}
    (split : placedWords line.source = before ++ word :: after)
    (unknown : isUnknownWord (annotator.book.describe model) word.text = true)
    : ((annotator.annotate program model).1.issues.onLine line.number)[before.countP fun other =>
          isUnknownWord (annotator.book.describe model) other.text]?
      = some (unknownWordIssue line (Text.upper word.text)) := by
  rw [onLine_annotate member, gloss_of_mem_annotate member, Gloss.ofLine, unknowns_ofWords,
    ← map_text_placedWords, split, List.countP_eq_length_filter]
  simp [List.filter_map, Function.comp_def, List.filter_cons_of_pos unknown]

end Annotate

theorem source_ne_nil {source word : Text} (inLine : word ∈ words source)
    : source ≠ [] := by
  rintro rfl
  simp [words, clean, withoutComments, pieces, Text.trim, Text.trimEnd, unglue] at inLine

/-- Every issue of an annotated line has columns of the masked line in uppercase that show its word,
and of the line itself if no character before their end has a longer uppercase; or it covers a line
in which the word stands nowhere outside of comments.
-/
theorem annotate_issues_within (annotator : Annotator) (program : Text) (model : Option Text)
    : let annotated := (annotator.annotate program model).1
      ∀ line ∈ annotated.lines,
        List.Forall₂
          (fun (issue : Issue) (word : Text) =>
            let source := line.source
            let shown := Text.upper (maskComments source)
            issue.Within shown
              ∧ issue.excerpt shown = word
              ∧ ((∀ c ∈ (maskComments source).take issue.stop.toNat,
                    (Text.upperChar c).length = 1)
                → issue.Within source ∧ Text.upper (issue.excerpt source) = word)
            ∨ issue.Within source
              ∧ issue.Covers source
              ∧ ∀ start, ¬Text.OccursAt word shown start)
          (annotated.issues.onLine line.number) line.gloss.unknowns := by
  intro annotated line member
  rw [onLine_annotate member]
  refine List.forall₂_map_left_iff.mpr (List.forall₂_same.mpr fun word unknown => ?_)
  obtain ⟨original, inLine, rfl⟩ := exists_original member unknown
  have isWord := isWord_of_mem_words inLine
  have located := located_unknownWordIssue line (Text.upper original)
  exact located.shows (source_ne_nil inLine) isWord.upper_ne_nil isWord.space_notMem_upper

/-- An expanding character does no harm in a comment or after the word. -/
theorem annotate_issues_within_commentBefore
    : let annotated := ((Annotator.ofCodeBook .empty).annotate "(ß) g7 X1 ß" none).1
      ∃ line ∈ annotated.lines,
        ∃ issue ∈ annotated.issues.onLine line.number,
          (∀ c ∈ (maskComments line.source).take issue.stop.toNat, (Text.upperChar c).length = 1)
          ∧ issue.Within line.source
          ∧ Text.upper (issue.excerpt line.source) = "G7" := by
  intro annotated
  let source : Text := "(ß) g7 X1 ß"
  let line : AnnotatedLine := ⟨1, source, Gloss.ofLine (CodeBook.empty.describe none) source⟩
  let issue := unknownWordIssue line "G7"
  have member : line ∈ annotated.lines :=
    List.mem_map.mpr ⟨(source, 1), by decide +kernel, rfl⟩
  have pairs := annotate_issues_within (.ofCodeBook .empty) source none line member
  have words : line.gloss.unknowns = (["G7", "SS"] : List Text) := by decide +kernel
  have issues
      : annotated.issues.onLine line.number
        = (["G7", "SS"] : List Text).map (unknownWordIssue line) := by
    rw [onLine_annotate member, words]
  have reported : issue ∈ annotated.issues.onLine line.number := by simp [issues, issue]
  have single
      : ∀ c ∈ (maskComments line.source).take issue.stop.toNat, (Text.upperChar c).length = 1 := by
    have ascii : ∀ c ∈ (maskComments line.source).take issue.stop.toNat, c.toNat < 128 :=
      List.all_iff_forall_prop.mp (by decide +kernel)
    exact fun c before => Text.length_upperChar_of_ascii (ascii c before)
  rw [issues, words, List.map_cons] at pairs
  rcases (List.forall₂_cons.mp pairs).1 with ⟨-, -, inSource⟩ | ⟨-, covers, -⟩
  · obtain ⟨within, shows⟩ := inSource single
    exact ⟨line, member, issue, reported, single, within, shows⟩
  · exact absurd covers.1 (by decide +kernel)

/-- The sharp s alone is two columns wide in uppercase, one more than the line has. -/
theorem exists_issue_beyond_sharpS
    : let annotated := ((Annotator.ofCodeBook .empty).annotate "ß" none).1
      ∃ line ∈ annotated.lines,
        ∃ issue ∈ annotated.issues.onLine line.number, ¬issue.Within line.source := by
  intro annotated
  let line : AnnotatedLine :=
    ⟨1, "ß", Gloss.ofLine (CodeBook.empty.describe none) "ß"⟩
  have member : line ∈ annotated.lines := by decide +kernel
  have reported : unknownWordIssue line "SS" ∈ annotated.issues.onLine line.number := by
    decide +kernel
  refine ⟨line, member, _, reported, fun within => ?_⟩
  exact absurd within.stop (by decide +kernel)

-----------------------------------------------------------------------------------------
-- Lines without longer uppercase
-----------------------------------------------------------------------------------------

theorem single_maskComments_of_single {source : Text}
    (single : ∀ c ∈ source, (Text.upperChar c).length = 1)
    : ∀ c ∈ maskComments source, (Text.upperChar c).length = 1 :=
  (masks_maskComments source).forall_mem (by decide) single

/-- A word without a comment inside stands in its columns also in uppercase. -/
theorem occursAt_upper_maskComments_of_single {source : Text}
    (single : ∀ c ∈ source, (Text.upperChar c).length = 1) {word : Placed}
    (member : word ∈ placedWords source) {first : Nat} (fills : word.FillsFrom first)
    : Text.OccursAt (Text.upper word.text) (Text.upper (maskComments source)) first := by
  have occurs := occursAt_maskComments member fills
  have inLine : word.text ∈ words source := map_text_placedWords source ▸ List.mem_map_of_mem member
  have bound := occurs.stop_le (isWord_of_mem_words inLine).nonempty
  refine occurs.upper (by omega) fun c before => ?_
  exact single_maskComments_of_single single c (List.mem_of_mem_take before)

-----------------------------------------------------------------------------------------
-- Lines of ASCII characters
-----------------------------------------------------------------------------------------

theorem single_maskComments {source : Text} (ascii : ∀ c ∈ source, c.toNat < 128)
    : ∀ c ∈ maskComments source, (Text.upperChar c).length = 1 :=
  single_maskComments_of_single fun c member => Text.length_upperChar_of_ascii (ascii c member)

theorem occursAt_upper_maskComments {source : Text} (ascii : ∀ c ∈ source, c.toNat < 128)
    {word : Placed} (member : word ∈ placedWords source) {first : Nat}
    (fills : word.FillsFrom first)
    : Text.OccursAt (Text.upper word.text) (Text.upper (maskComments source)) first :=
  occursAt_upper_maskComments_of_single
    (fun c known => Text.length_upperChar_of_ascii (ascii c known)) member fills

theorem length_upper_of_mem_placedWords {source : Text} (ascii : ∀ c ∈ source, c.toNat < 128)
    {word : Placed} (member : word ∈ placedWords source)
    : (Text.upper word.text).length = word.length := by
  have single : ∀ c ∈ word.text, (Text.upperChar c).length = 1 := by
    intro c inWord
    obtain ⟨one, inside, rfl⟩ := List.mem_map.mp inWord
    have stands := getElem?_source_of_mem_word member one inside
    exact Text.length_upperChar_of_ascii (ascii _ (List.mem_of_getElem? stands))
  rw [Text.length_upper single, Placed.text, List.length_map]

/-- On a line of ASCII characters the issue of an unknown word that no comment interrupts has the
width of the word, shows its characters, and begins where these first stand outside of comments. So
it has the columns of the word just when they stand nowhere before it, and then none of any other
word of the line.
-/
theorem annotate_issue_firstPlace (annotator : Annotator) (program : Text) (model : Option Text)
    : let annotated := (annotator.annotate program model).1
      let reported := fun word : Placed => isUnknownWord (annotator.book.describe model) word.text
      ∀ line ∈ annotated.lines,
        (∀ c ∈ line.source, c.toNat < 128)
        → ∀ before word after first,
            placedWords line.source = before ++ word :: after
            → reported word = true
            → word.FillsFrom first
            → ∃ issue : Issue,
                (annotated.issues.onLine line.number)[before.countP reported]? = some issue
                ∧ issue.Within line.source
                ∧ Text.upper (issue.excerpt line.source) = Text.upper word.text
                ∧ issue.start ≤ first
                ∧ issue.stop = issue.start + word.length
                ∧ (issue.start = first
                  ↔ ∀ earlier < first,
                      ¬Text.OccursAt (Text.upper word.text)
                        (Text.upper (maskComments line.source)) earlier)
                ∧ (issue.start = first
                  → ∀ other ∈ before ++ after, ∀ column ∈ other.columns,
                      ¬(issue.start ≤ column ∧ column < issue.stop)) := by
  intro annotated reported line member ascii before word after first split unknown fills
  refine ⟨_, getElem?_onLine_annotate member split unknown, ?_⟩
  have placed : word ∈ placedWords line.source := by simp [split]
  have inLine : word.text ∈ words line.source :=
    map_text_placedWords line.source ▸ List.mem_map_of_mem placed
  have isWord := isWord_of_mem_words inLine
  have stands := occursAt_upper_maskComments ascii placed fills
  have located := located_unknownWordIssue line (Text.upper word.text)
  generalize unknownWordIssue line (Text.upper word.text) = issue at located ⊢
  obtain ⟨reached, stops, own⟩ := located.of_occursAt stands
  rw [length_upper_of_mem_placedWords ascii placed] at stops
  have apart
      : issue.start = first
        → ∀ other ∈ before ++ after, ∀ column ∈ other.columns,
            ¬(issue.start ≤ column ∧ column < issue.stop) := by
    intro same other known column inside between
    refine columns_apart split other known column inside ?_
    rw [fills, List.mem_range'_1]
    omega
  rcases located.shows (source_ne_nil inLine) isWord.upper_ne_nil isWord.space_notMem_upper with
    ⟨-, -, inSource⟩ | ⟨-, -, nowhere⟩
  · obtain ⟨within, shows⟩ := inSource fun c shown =>
      single_maskComments ascii c (List.mem_of_mem_take shown)
    exact ⟨within, shows, reached, stops, own, apart⟩
  · exact absurd stands (nowhere first)

/-- What a comment holds does not stand before the word. -/
theorem annotate_issue_firstPlace_commentBefore
    : let source : Text := "(1) #7 1"
      let annotated := ((Annotator.ofCodeBook .empty).annotate source none).1
      let macroVar : Placed := [('#', 4), ('7', 5)]
      let number : Placed := [('1', 7)]
      ∃ line ∈ annotated.lines,
        (∀ c ∈ line.source, c.toNat < 128)
        ∧ placedWords line.source = [macroVar] ++ number :: []
        ∧ isUnknownWord (CodeBook.empty.describe none) number.text = true
        ∧ number.FillsFrom 7
        ∧ ∃ issue : Issue,
            (annotated.issues.onLine line.number)[0]? = some issue
            ∧ issue.start = 7
            ∧ issue.stop = 8 := by
  intro source annotated macroVar number
  let line : AnnotatedLine := ⟨1, source, Gloss.ofLine (CodeBook.empty.describe none) source⟩
  have member : line ∈ annotated.lines :=
    List.mem_map.mpr ⟨(source, 1), by decide +kernel, rfl⟩
  have ascii : ∀ c ∈ line.source, c.toNat < 128 :=
    List.all_iff_forall_prop.mp (by decide +kernel)
  have split : placedWords line.source = [macroVar] ++ number :: [] := by decide +kernel
  have unknown : isUnknownWord (CodeBook.empty.describe none) number.text = true := by
    decide +kernel
  have fills : number.FillsFrom 7 := rfl
  have found : Text.find? (Text.upper number.text) (Text.upper (maskComments source)) = some 7 := by
    decide +kernel
  obtain ⟨issue, recorded, -, -, -, stop, own, -⟩ :=
    annotate_issue_firstPlace (.ofCodeBook .empty) source none line member ascii
      [macroVar] number [] 7 split unknown fills
  have start : issue.start = 7 := own.mpr (Text.occursAt_of_find? found).2
  have width : issue.stop = 8 := by rw [stop, start]; rfl
  exact ⟨line, member, ascii, split, unknown, fills, issue, recorded, start, width⟩

/-- The issue of a number has columns inside a variable that holds the same digit. -/
theorem exists_issue_inside_variable
    : let source : Text := "#100 1"
      let annotated := ((Annotator.ofCodeBook .empty).annotate source none).1
      let macroVar : Placed := [('#', 0), ('1', 1), ('0', 2), ('0', 3)]
      let number : Placed := [('1', 5)]
      ∃ line ∈ annotated.lines,
        (∀ c ∈ line.source, c.toNat < 128)
        ∧ placedWords line.source = [macroVar] ++ number :: []
        ∧ isUnknownWord (CodeBook.empty.describe none) number.text = true
        ∧ number.FillsFrom 5
        ∧ ∃ issue : Issue,
            (annotated.issues.onLine line.number)[0]? = some issue
            ∧ issue.start = 1
            ∧ issue.stop = 2
            ∧ 1 ∈ macroVar.columns := by
  intro source annotated macroVar number
  let line : AnnotatedLine := ⟨1, source, Gloss.ofLine (CodeBook.empty.describe none) source⟩
  have member : line ∈ annotated.lines :=
    List.mem_map.mpr ⟨(source, 1), by decide +kernel, rfl⟩
  have ascii : ∀ c ∈ line.source, c.toNat < 128 :=
    List.all_iff_forall_prop.mp (by decide +kernel)
  have split : placedWords line.source = [macroVar] ++ number :: [] := by decide +kernel
  have unknown : isUnknownWord (CodeBook.empty.describe none) number.text = true := by
    decide +kernel
  have recorded := getElem?_onLine_annotate member split unknown
  refine ⟨line, member, ascii, split, unknown, rfl, _, recorded, ?_, ?_, ?_⟩
  · decide +kernel
  · decide +kernel
  · decide

end LatheGloss
