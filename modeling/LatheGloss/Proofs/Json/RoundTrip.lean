import Mathlib
import LatheGloss.Proofs.Json.Scalars
import LatheGloss.Proofs.Table

/-! Written values are read back. What stands between two items is skipped by the reader, and
behind a value nothing follows that it could take for a part of it; so an array or an object is
read back if everything in it is.
-/

namespace LatheGloss.Json

-----------------------------------------------------------------------------------------
-- Values that keep their meaning
-----------------------------------------------------------------------------------------

mutual

/-- A value that is read back as it was: it has no floating numbers, no integers with more digits
than the reader takes, and no two fields of one name in one object.
-/
def Faithful : Json → Prop
  | null | bool _ | str _ => True
  | int value => (Text.ofNat value.natAbs).length ≤ digitLimit
  | float _ => False
  | arr items => ItemsFaithful items
  | obj fields => (fields.map Prod.fst).Nodup ∧ FieldsFaithful fields

def ItemsFaithful : List Json → Prop
  | [] => True
  | item :: rest => Faithful item ∧ ItemsFaithful rest

def FieldsFaithful : List (Text × Json) → Prop
  | [] => True
  | (_, value) :: rest => Faithful value ∧ FieldsFaithful rest

end

theorem itemsFaithful_iff {items : List Json}
    : ItemsFaithful items ↔ ∀ item ∈ items, Faithful item := by
  induction items with
  | nil => simp [ItemsFaithful]
  | cons item rest ih => simp [ItemsFaithful, ih]

theorem fieldsFaithful_iff {fields : List (Text × Json)}
    : FieldsFaithful fields ↔ ∀ field ∈ fields, Faithful field.2 := by
  induction fields with
  | nil => simp [FieldsFaithful]
  | cons field rest ih => simp [FieldsFaithful, ih]

theorem depth_le_itemsDepth {items : List Json}
    : ∀ item ∈ items, item.depth ≤ itemsDepth items := by
  induction items with
  | nil => simp
  | cons item rest ih =>
      intro other member
      rcases List.mem_cons.mp member with rfl | later
      · exact Nat.le_max_left _ _
      · exact Nat.le_trans (ih other later) (Nat.le_max_right _ _)

theorem depth_le_fieldsDepth {fields : List (Text × Json)}
    : ∀ field ∈ fields, field.2.depth ≤ fieldsDepth fields := by
  induction fields with
  | nil => simp
  | cons field rest ih =>
      intro other member
      rcases List.mem_cons.mp member with rfl | later
      · exact Nat.le_max_left _ _
      · exact Nat.le_trans (ih other later) (Nat.le_max_right _ _)

-----------------------------------------------------------------------------------------
-- Layouts
-----------------------------------------------------------------------------------------

/-- Items are indented by characters of one kind only. -/
def Layout.IndentsBy (kind : Character → Prop) : Layout → Prop
  | oneLine => True
  | indented step => ∀ c ∈ step, kind c

theorem Layout.indentsBy_ofIndentation {kind : Character → Prop} (space : kind ' ')
    (indentation : Option Int)
    : (ofIndentation indentation).IndentsBy kind := by
  cases indentation with
  | none => trivial
  | some width =>
      intro c member
      rwa [List.eq_of_mem_replicate member]

/-- A line break and the indentation of a line are of the kind too if line breaks are. -/
theorem forall_mem_newline {kind : Character → Prop} (newline : kind '\n') {step : Text}
    (indents : ∀ c ∈ step, kind c) (level : Nat)
    : ∀ c ∈ ↑ '\n' :: (List.replicate level step).flatten, kind c := by
  intro c member
  rcases List.mem_cons.mp member with rfl | indented
  · exact newline
  · obtain ⟨part, isStep, inPart⟩ := List.mem_flatten.mp indented
    rw [List.eq_of_mem_replicate isStep] at inPart
    exact indents c inPart

theorem Layout.IndentsBy.margin {kind : Character → Prop} {layout : Layout}
    (indents : layout.IndentsBy kind) (newline : kind '\n') (level : Nat)
    : ∀ c ∈ layout.margin level, kind c := by
  cases layout with
  | oneLine => exact fun _ none => nomatch none
  | indented step => exact forall_mem_newline newline indents level

/-- A separator is a comma, and what stands behind it is of the kind too. -/
theorem Layout.IndentsBy.separator {kind : Character → Prop} {layout : Layout}
    (indents : layout.IndentsBy kind) (space : kind ' ') (newline : kind '\n') (level : Nat)
    : ∃ gap : Text, layout.separator level = ↑ ',' :: gap ∧ ∀ c ∈ gap, kind c := by
  cases layout with
  | oneLine => exact ⟨[' '], rfl, List.forall_mem_singleton.mpr space⟩
  | indented step => exact ⟨_, rfl, forall_mem_newline newline indents level⟩

/-- Items are indented by nothing but what the reader skips. -/
def Layout.Blank (layout : Layout) : Prop :=
  layout.IndentsBy fun c => isSpace c = true

theorem Layout.blank_ofIndentation (indentation : Option Int)
    : (ofIndentation indentation).Blank :=
  @indentsBy_ofIndentation (isSpace · = true) rfl indentation

theorem skipSpace_append {blank : Text} (skipped : ∀ c ∈ blank, isSpace c = true) (text : Text)
    : skipSpace (blank ++ text) = skipSpace text :=
  List.dropWhile_append_of_pos skipped

theorem skipSpace_cons {c : Character} (seen : isSpace c = false) (rest : Text)
    : skipSpace (c :: rest) = c :: rest := by
  simp [skipSpace, seen]

theorem skipSpace_margin {layout : Layout} (blank : layout.Blank) (level : Nat) (rest : Text)
    : skipSpace (layout.margin level ++ rest) = skipSpace rest :=
  skipSpace_append (blank.margin rfl level) rest

-----------------------------------------------------------------------------------------
-- What written values begin with, and what follows them
-----------------------------------------------------------------------------------------

/-- A character that a value can begin with. It is not skipped, and it is no closing bracket and
no byte order mark.
-/
structure Opens (c : Character) : Prop where
  seen : isSpace c = false
  noBracket : c ≠ ']'
  noBrace : c ≠ '}'
  noMark : c ≠ '\uFEFF'

theorem ne_of_digit {c : Character} (digit : c.isDigit = true) (other : Character)
    (noDigit : other.isDigit = false)
    : c ≠ other := by
  rintro rfl
  exact Bool.false_ne_true (noDigit.symm.trans digit)

theorem opens_of_digit {c : Character} (digit : c.isDigit = true)
    : Opens c := by
  refine ⟨?_, ne_of_digit digit _ rfl, ne_of_digit digit _ rfl, ne_of_digit digit _ rfl⟩
  have space := ne_of_digit digit ' ' rfl
  have tab := ne_of_digit digit '\t' rfl
  have newline := ne_of_digit digit '\n' rfl
  have ret := ne_of_digit digit '\r' rfl
  simp [isSpace, space, tab, newline, ret]

/-- An integer begins with a minus or a digit. -/
theorem head?_ofInt (value : Int)
    : ∃ c, (Text.ofInt value).head? = some c ∧ (c = '-' ∨ c.isDigit = true) := by
  cases value with
  | ofNat n =>
      obtain ⟨c, tail, spelled, digit⟩ := exists_digit_cons n
      exact ⟨c, by simp [Text.ofInt, spelled], .inr digit⟩
  | negSucc n => exact ⟨'-', rfl, .inl rfl⟩

/-- How a written value begins, by cases of the value. Only arrays and objects begin with a
bracket or a brace.
-/
theorem head?_writeAt (layout : Layout) (level : Nat) {value : Json} (faithful : value.Faithful)
    : ∃ c, (writeAt layout level value).head? = some c
      ∧ Opens c
      ∧ (value.depth = 0 → c ≠ '{' ∧ c ≠ '[') := by
  have letter (c : Character)
      (opens : isSpace c = false ∧ c ≠ ']' ∧ c ≠ '}' ∧ c ≠ '\uFEFF')
      : Opens c :=
    ⟨opens.1, opens.2.1, opens.2.2.1, opens.2.2.2⟩
  cases value with
  | null => exact ⟨'n', rfl, letter 'n' (by decide), fun _ => by decide⟩
  | bool flag =>
      cases flag with
      | false => exact ⟨'f', rfl, letter 'f' (by decide), fun _ => by decide⟩
      | true => exact ⟨'t', rfl, letter 't' (by decide), fun _ => by decide⟩
  | int value =>
      obtain ⟨c, head, rfl | digit⟩ := head?_ofInt value
      · exact ⟨'-', by simpa only [writeAt] using head, letter '-' (by decide), fun _ => by decide⟩
      · refine ⟨c, by simpa only [writeAt] using head, opens_of_digit digit, ?_⟩
        exact fun _ => ⟨ne_of_digit digit _ rfl, ne_of_digit digit _ rfl⟩
  | float value => exact faithful.elim
  | str text =>
      exact ⟨'"', by simp [writeAt, writeString], letter '"' (by decide), fun _ => by decide⟩
  | arr items =>
      refine ⟨'[', by cases items <;> simp [writeAt], letter '[' (by decide), ?_⟩
      intro scalar
      simp [depth] at scalar
  | obj fields =>
      refine ⟨'{', by cases fields <;> simp [writeAt], letter '{' (by decide), ?_⟩
      intro scalar
      simp [depth] at scalar

theorem opens_writeAt (layout : Layout) (level : Nat) {value : Json} (faithful : value.Faithful)
    : ∃ c tail, writeAt layout level value = c :: tail ∧ Opens c := by
  obtain ⟨c, head, opens, -⟩ := head?_writeAt layout level faithful
  obtain ⟨tail, spelled⟩ := List.head?_eq_some_iff.mp head
  exact ⟨c, tail, spelled, opens⟩

/-- Nothing is skipped before a written value. -/
theorem skipSpace_writeAt (layout : Layout) (level : Nat) {value : Json}
    (faithful : value.Faithful) (rest : Text)
    : skipSpace (writeAt layout level value ++ rest) = writeAt layout level value ++ rest := by
  obtain ⟨c, tail, spelled, opens⟩ := opens_writeAt layout level faithful
  rw [spelled, List.cons_append, skipSpace_cons opens.seen]

/-- A numeral ends at anything that is neither a digit nor a point nor an exponent. -/
theorem endsNumeral_cons {c : Character} (rest : Text)
    (other : c.isDigit = false ∧ c ≠ '.' ∧ c ≠ 'e' ∧ c ≠ 'E')
    : EndsNumeral (c :: rest) := by
  intro head same
  obtain rfl := Option.some.inj same
  exact other

theorem endsNumeral_margin (layout : Layout) (level : Nat) {rest : Text}
    (ends : EndsNumeral rest)
    : EndsNumeral (layout.margin level ++ rest) := by
  cases layout with
  | oneLine => exact ends
  | indented step => exact endsNumeral_cons _ (by decide)

theorem endsNumeral_separator (layout : Layout) (level : Nat) (rest : Text)
    : EndsNumeral (layout.separator level ++ rest) := by
  cases layout with
  | oneLine => exact endsNumeral_cons _ (by decide)
  | indented step => exact endsNumeral_cons _ (by decide)

theorem endsNumeral_writeItems (layout : Layout) (level : Nat) (items : List Json) {rest : Text}
    (ends : EndsNumeral rest)
    : EndsNumeral (writeItems layout level items ++ rest) := by
  cases items with
  | nil => exact ends
  | cons item more =>
      rw [writeItems, List.append_assoc, List.append_assoc]
      exact endsNumeral_separator layout level _

theorem endsNumeral_writeFields (layout : Layout) (level : Nat) (fields : List (Text × Json))
    {rest : Text} (ends : EndsNumeral rest)
    : EndsNumeral (writeFields layout level fields ++ rest) := by
  cases fields with
  | nil => exact ends
  | cons field more =>
      rw [writeFields, List.append_assoc, List.append_assoc, List.append_assoc]
      exact endsNumeral_separator layout level _

/-- Every item after the first takes at least the comma before it. -/
theorem length_le_writeItems (layout : Layout) (level : Nat) (items : List Json)
    : items.length ≤ (writeItems layout level items).length := by
  induction items with
  | nil => simp
  | cons item rest ih =>
      have comma : 0 < (layout.separator level).length := by
        cases layout <;> simp [Layout.separator]
      simp only [writeItems, List.length_cons, List.length_append]
      omega

theorem length_le_writeFields (layout : Layout) (level : Nat) (fields : List (Text × Json))
    : fields.length ≤ (writeFields layout level fields).length := by
  induction fields with
  | nil => simp
  | cons field rest ih =>
      have comma : 0 < (layout.separator level).length := by
        cases layout <;> simp [Layout.separator]
      simp only [writeFields, List.length_cons, List.length_append]
      omega

-----------------------------------------------------------------------------------------
-- Arrays and objects
-----------------------------------------------------------------------------------------

/-- A reader takes a value from what is written at a level, and nothing of what follows. -/
def ReadsBack (item : Text → Scan Json) (layout : Layout) (level : Nat) (value : Json) : Prop :=
  ∀ rest, EndsNumeral rest → item (writeAt layout level value ++ rest) = .ok (value, rest)

variable {item : Text → Scan Json} {layout : Layout} {level : Nat}

theorem skipSpace_closing (blank : layout.Blank) (level : Nat) {c : Character}
    (seen : isSpace c = false) (after : Text)
    : skipSpace (layout.margin level ++ c :: after) = c :: after := by
  rw [skipSpace_margin blank, skipSpace_cons seen]

/-- Written items are read back up to the closing bracket, by induction over them. -/
theorem scanItems_writeItems (blank : layout.Blank) (outer : Nat) (after : Text)
    {rest : List Json} {first : Json}
    (faithful : ∀ value ∈ first :: rest, value.Faithful)
    (reads : ∀ value ∈ first :: rest, ReadsBack item layout level value)
    (read : List Json) {bound : Text} (long : rest.length < bound.length)
    : scanItems item read bound
        (writeAt layout level first
          ++ (writeItems layout level rest ++ (layout.margin outer ++ ↑ ']' :: after)))
      = .ok (.arr (read.reverse ++ first :: rest), after) := by
  have closing : EndsNumeral (layout.margin outer ++ ↑ ']' :: after) :=
    endsNumeral_margin layout outer (endsNumeral_cons after (by decide))
  induction rest generalizing first read bound with
  | nil =>
      cases bound with
      | nil => simp at long
      | cons _ bound =>
          have here := reads first List.mem_cons_self _ closing
          rw [writeItems, List.nil_append, scanItems, here]
          simp only [skipSpace_closing blank outer (c := ']') rfl]
          simp
  | cons next more ih =>
      cases bound with
      | nil => simp at long
      | cons _ bound =>
          have here := reads first List.mem_cons_self _
            (endsNumeral_writeItems layout level (next :: more) closing)
          obtain ⟨gap, separated, skipped⟩ := blank.separator rfl rfl level
          have nextFaithful := faithful next (by simp)
          have stillLong : more.length < bound.length := by simpa using long
          have later := ih
            (fun value member => faithful value (List.mem_cons_of_mem _ member))
            (fun value member => reads value (List.mem_cons_of_mem _ member))
            (first :: read) stillLong
          rw [scanItems, here]
          simp only [writeItems, separated, List.cons_append, List.append_assoc,
            skipSpace_cons (c := ',') rfl, skipSpace_append skipped,
            skipSpace_writeAt layout level nextFaithful]
          simpa using later

/-- A written field is read back with its name and its value. -/
theorem scanField_writeField (name : Text) {value : Json} (faithful : value.Faithful)
    (reads : ReadsBack item layout level value) {rest : Text} (ends : EndsNumeral rest)
    : scanField item
        (writeString name ++ ↑ ':' :: ↑ ' ' :: (writeAt layout level value ++ rest))
      = .ok ((name, value), rest) := by
  have space : ∀ c ∈ ([' '] : Text), isSpace c = true := List.forall_mem_singleton.mpr rfl
  have gap := skipSpace_append space (writeAt layout level value ++ rest)
  rw [List.singleton_append, skipSpace_writeAt layout level faithful] at gap
  simp [writeString, scanField, scanString_escaped, skipSpace_cons (c := ':') rfl, gap,
    reads rest ends, Except.map]

/-- Written fields are read back up to the closing brace, by induction over them. -/
theorem scanFields_writeFields (blank : layout.Blank) (outer : Nat) (after : Text)
    {rest : List (Text × Json)} {first : Text × Json}
    (faithful : ∀ field ∈ first :: rest, field.2.Faithful)
    (reads : ∀ field ∈ first :: rest, ReadsBack item layout level field.2)
    (read : Table Json) {bound : Text} (long : rest.length < bound.length)
    : scanFields item read bound
        (writeString first.1 ++ ↑ ':' :: ↑ ' ' :: (writeAt layout level first.2
          ++ (writeFields layout level rest ++ (layout.margin outer ++ ↑ '}' :: after))))
      = .ok (.obj (read.insertAll (first :: rest)).entries, after) := by
  have closing : EndsNumeral (layout.margin outer ++ ↑ '}' :: after) :=
    endsNumeral_margin layout outer (endsNumeral_cons after (by decide))
  induction rest generalizing first read bound with
  | nil =>
      cases bound with
      | nil => simp at long
      | cons _ bound =>
          have here := scanField_writeField first.1
            (faithful first List.mem_cons_self) (reads first List.mem_cons_self) closing
          rw [writeFields, List.nil_append, scanFields, here]
          simp only [skipSpace_closing blank outer (c := '}') rfl]
          simp
  | cons next more ih =>
      cases bound with
      | nil => simp at long
      | cons _ bound =>
          have here := scanField_writeField first.1
            (faithful first List.mem_cons_self) (reads first List.mem_cons_self)
            (endsNumeral_writeFields layout level (next :: more) closing)
          obtain ⟨gap, separated, skipped⟩ := blank.separator rfl rfl level
          have stillLong : more.length < bound.length := by simpa using long
          have later := ih
            (fun field member => faithful field (List.mem_cons_of_mem _ member))
            (fun field member => reads field (List.mem_cons_of_mem _ member))
            (read.insert first.1 first.2) stillLong
          have quote (rest : Text) : skipSpace (writeString next.1 ++ rest)
              = writeString next.1 ++ rest := skipSpace_cons rfl _
          rw [scanFields, here]
          simp only [writeFields, separated, List.cons_append, List.append_assoc,
            skipSpace_cons (c := ',') rfl, skipSpace_append skipped, quote]
          simpa using later

/-- An array is read back behind its opening bracket if its items are. -/
theorem scanArray_writeAt (blank : layout.Blank) (level : Nat) {first : Json} {rest : List Json}
    (faithful : ∀ value ∈ first :: rest, value.Faithful)
    (reads : ∀ value ∈ first :: rest, ReadsBack item layout (level + 1) value) (after : Text)
    : scanArray item
        (layout.margin (level + 1) ++ (writeAt layout (level + 1) first
          ++ (writeItems layout (level + 1) rest ++ (layout.margin level ++ ↑ ']' :: after))))
      = .ok (.arr (first :: rest), after) := by
  have firstFaithful := faithful first List.mem_cons_self
  obtain ⟨c, tail, spelled, opens⟩ := opens_writeAt layout (level + 1) firstFaithful
  rw [scanArray, skipSpace_margin blank, skipSpace_writeAt layout (level + 1) firstFaithful]
  split
  · next closed =>
      rw [spelled, List.cons_append] at closed
      exact absurd (List.cons.inj closed).1 opens.noBracket
  · refine scanItems_writeItems blank level after faithful reads [] ?_
    have counted := length_le_writeItems layout (level + 1) rest
    simp only [List.length_append, List.length_cons]
    omega

/-- An object is read back behind its opening brace if its fields are. -/
theorem scanObject_writeAt (blank : layout.Blank) (level : Nat) {first : Text × Json}
    {rest : List (Text × Json)} (distinct : ((first :: rest).map Prod.fst).Nodup)
    (faithful : ∀ field ∈ first :: rest, field.2.Faithful)
    (reads : ∀ field ∈ first :: rest, ReadsBack item layout (level + 1) field.2) (after : Text)
    : scanObject item
        (layout.margin (level + 1) ++ (writeString first.1
          ++ ↑ ':' :: ↑ ' ' :: (writeAt layout (level + 1) first.2
          ++ (writeFields layout (level + 1) rest ++ (layout.margin level ++ ↑ '}' :: after)))))
      = .ok (.obj (first :: rest), after) := by
  have quote (rest : Text) : skipSpace (writeString first.1 ++ rest)
      = writeString first.1 ++ rest := skipSpace_cons rfl _
  rw [scanObject, skipSpace_margin blank, quote]
  split
  · next closed => simp [writeString] at closed
  · have long : rest.length < (writeString first.1
        ++ ↑ ':' :: ↑ ' ' :: (writeAt layout (level + 1) first.2
        ++ (writeFields layout (level + 1) rest
        ++ (layout.margin level ++ ↑ '}' :: after)))).length := by
      have counted := length_le_writeFields layout (level + 1) rest
      simp only [List.length_append, List.length_cons]
      omega
    have fields := scanFields_writeFields blank level after faithful reads .empty long
    rwa [Table.empty_insertAll distinct] at fields

-----------------------------------------------------------------------------------------
-- Values
-----------------------------------------------------------------------------------------

/-- A value without items is read back, however items would be read. -/
theorem scanWith_scalar (item : Container → Text → Scan Json) {value : Json}
    (faithful : value.Faithful) (scalar : value.depth = 0)
    : ReadsBack (scanWith item) layout level value := by
  intro rest ends
  cases value with
  | null => rfl
  | bool flag => cases flag <;> rfl
  | int value => simpa only [writeAt] using scanWith_ofInt item faithful ends
  | float value => exact faithful.elim
  | str text => simpa only [writeAt] using scanWith_writeString item text rest
  | arr items => simp [depth] at scalar
  | obj fields => simp [depth] at scalar

/-- At the depth limit a value without items is still read. -/
theorem scanValue_zero {value : Json} (faithful : value.Faithful) (scalar : value.depth = 0)
    : ReadsBack (scanValue 0) layout level value := by
  intro rest ends
  obtain ⟨c, head, -, other⟩ := head?_writeAt layout level faithful
  obtain ⟨noBrace, noBracket⟩ := other scalar
  obtain ⟨tail, spelled⟩ := List.head?_eq_some_iff.mp head
  rw [scanValue]
  · exact scanWith_scalar _ faithful scalar rest ends
  · intro other same
    rw [spelled] at same
    exact noBrace (List.cons.inj same).1
  · intro other same
    rw [spelled] at same
    exact noBracket (List.cons.inj same).1

/-- A value is read back if it is nested no deeper than the reader goes, by induction over the
depth.
-/
theorem scanValue_writeAt (blank : layout.Blank) (level : Nat) {value : Json}
    (faithful : value.Faithful) {depth : Nat} (bounded : value.depth ≤ depth)
    : ReadsBack (scanValue depth) layout level value := by
  induction depth generalizing value level with
  | zero => exact scanValue_zero faithful (Nat.le_zero.mp bounded)
  | succ depth ih =>
      cases value with
      | arr items =>
          intro rest ends
          rw [Faithful, itemsFaithful_iff] at faithful
          have inner : ∀ item ∈ items, item.depth ≤ depth := by
            intro item member
            have below := depth_le_itemsDepth item member
            rw [Json.depth] at bounded
            omega
          cases items with
          | nil =>
              rw [writeAt, scanValue, List.cons_append, scanWith_bracket]
              simp [scanArray, skipSpace_cons (c := ']') rfl]
          | cons first more =>
              have reads (value : Json) (member : value ∈ first :: more)
                  : ReadsBack (scanValue depth) layout (level + 1) value :=
                ih (level + 1) (faithful value member) (inner value member)
              have array := scanArray_writeAt blank level faithful reads rest
              rw [← scanWith_bracket fun _ => scanValue depth] at array
              simpa [writeAt, scanValue] using array
      | obj fields =>
          intro rest ends
          rw [Faithful, fieldsFaithful_iff] at faithful
          have inner : ∀ field ∈ fields, field.2.depth ≤ depth := by
            intro field member
            have below := depth_le_fieldsDepth field member
            rw [Json.depth] at bounded
            omega
          cases fields with
          | nil =>
              rw [writeAt, scanValue, List.cons_append, scanWith_brace]
              simp [scanObject, skipSpace_cons (c := '}') rfl]
          | cons first more =>
              have reads (field : Text × Json) (member : field ∈ first :: more)
                  : ReadsBack (scanValue depth) layout (level + 1) field.2 :=
                ih (level + 1) (faithful.2 field member) (inner field member)
              have object := scanObject_writeAt blank level faithful.1 faithful.2 reads rest
              rw [← scanWith_brace fun _ => scanValue depth] at object
              simpa [writeAt, scanValue] using object
      | _ =>
          intro rest ends
          rw [scanValue]
          exact scanWith_scalar _ faithful rfl rest ends

/-- Whatever is written is read as what it was, in every layout that indents by what the reader
skips.
-/
theorem read_write {layout : Layout} (blank : layout.Blank) {value : Json}
    (faithful : value.Faithful) (bounded : value.depth ≤ depthLimit)
    : read (value.write layout) = .ok value := by
  have found := scanValue_writeAt blank 0 faithful bounded [] (fun _ none => nomatch none)
  have start := skipSpace_writeAt layout 0 faithful []
  obtain ⟨c, head, opens, -⟩ := head?_writeAt layout 0 faithful
  rw [List.append_nil] at found start
  have noMark : (value.write layout).head? ≠ some ('\uFEFF' : Character) := by
    rw [write, head]
    exact fun same => opens.noMark (Option.some.inj same)
  rw [read, scanDocument, if_neg noMark, write, start, found]
  rfl

end LatheGloss.Json
