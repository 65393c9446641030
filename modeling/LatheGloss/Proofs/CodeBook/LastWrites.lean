import Mathlib
import LatheGloss.Proofs.CodeBook.History
import LatheGloss.Proofs.Text.Uppercase

/-! What a code book answers after any history. A code has the text that was last written to the
layer of the model, or else the one that was last written to the common layer; codes and models
stand in the order in which they first came.
-/

namespace LatheGloss

namespace Writing

/-- The text that holds for a model: the one that was last written to its layer, or else the one
that was last written to the common layer.
-/
def textFor (model : Option Text) (code : Text) (writings : List Writing) : Option Text :=
  (model.bind fun name => lastText (some name) code writings).or (lastText none code writings)

theorem lastText_append (model : Option Text) (code : Text) (earlier later : List Writing)
    : lastText model code (earlier ++ later)
      = (lastText model code later).or (lastText model code earlier) := by
  rw [lastText, List.reverse_append, List.find?_append, Option.map_or]
  rfl

theorem exists_of_lastText {model : Option Text} {code text : Text} {writings : List Writing}
    (found : lastText model code writings = some text)
    : ∃ writing ∈ writings, writing.model = model ∧ writing.code = code ∧ writing.text = text := by
  obtain ⟨writing, known, rfl⟩ := Option.map_eq_some_iff.mp found
  have place := List.find?_some known
  simp only [decide_eq_true_eq] at place
  exact ⟨writing, List.mem_reverse.mp (List.mem_of_find?_eq_some known), place.1, place.2, rfl⟩

theorem lastText_eq_none_iff {model : Option Text} {code : Text} {writings : List Writing}
    : lastText model code writings = none
      ↔ ∀ writing ∈ writings, ¬(writing.model = model ∧ writing.code = code) := by
  simp [lastText, List.find?_eq_none]

end Writing

namespace CodeBook

/-- The common layer, or the layer of a model, which is empty if nothing is known of the model. -/
def layer (book : CodeBook) : Option Text → Layer
  | none => book.base
  | some name => (book.models.get? name).getD .empty

/-- The layer that lies over the common one for a model. -/
def overrides (book : CodeBook) : Option Text → Layer
  | none => .empty
  | some name => book.layer (some name)

-----------------------------------------------------------------------------------------
-- Layers in terms of their writings
-----------------------------------------------------------------------------------------

theorem MadeOf.layer_eq {book : CodeBook} {writings : List Writing} {mentions : List Text}
    (made : MadeOf book writings mentions) (model : Option Text)
    : book.layer model = .ofList (Writing.entriesFor model writings) := by
  cases model with
  | none => exact made.base
  | some name => exact made.models.layer name

theorem lookup_reverse_entriesFor (model : Option Text) (code : Text) (writings : List Writing)
    : (Writing.entriesFor model writings).reverse.lookup code
      = Writing.lastText model code writings := by
  rw [Writing.entriesFor, Writing.lastText, ← List.map_reverse, ← List.filter_reverse]
  induction writings.reverse with
  | nil => rfl
  | cons writing rest ih =>
      by_cases here : writing.model = model
      · by_cases same : writing.code = code
        · simp [here, same]
        · simp [here, same, Table.lookup_cons_ite, Ne.symm same, ih]
      · simp [here, ih]

theorem MadeOf.get?_layer {book : CodeBook} {writings : List Writing} {mentions : List Text}
    (made : MadeOf book writings mentions) (model : Option Text) (code : Text)
    : (book.layer model).get? code = Writing.lastText model code writings := by
  rw [made.layer_eq, Table.ofList, Table.get?_insertAll, lookup_reverse_entriesFor]
  exact Option.or_none

theorem MadeOf.keys_layer {book : CodeBook} {writings : List Writing} {mentions : List Text}
    (made : MadeOf book writings mentions) (model : Option Text)
    : (book.layer model).keys = Writing.firstCodes model writings := by
  rw [made.layer_eq, Table.ofList, Table.keys_insertAll]
  simp [Table.keys, Table.empty, Writing.entriesFor, Writing.firstCodes, Function.comp_def]

theorem MadeOf.nodup_keys_layer {book : CodeBook} {writings : List Writing}
    {mentions : List Text} (made : MadeOf book writings mentions) (model : Option Text)
    : (book.layer model).keys.Nodup := by
  have bare : (Table.empty : Layer).keys.Nodup := List.nodup_nil
  rw [made.layer_eq]
  exact Table.nodup_keys_insertAll bare _

/-- Every code is written in uppercase. -/
theorem upper_code_of_mem_writings {initial : Supplement} {calls : List Call}
    {writing : Writing} (member : writing ∈ writings initial calls)
    : Text.upper writing.code = writing.code := by
  obtain ⟨supplement, -, member⟩ := List.mem_flatMap.mp member
  rcases List.mem_append.mp member with common | own
  · obtain ⟨entry, -, rfl⟩ := List.mem_map.mp common
    exact Text.upper_upper entry.1
  · obtain ⟨model, -, member⟩ := List.mem_flatMap.mp own
    obtain ⟨entry, -, rfl⟩ := List.mem_map.mp member
    exact Text.upper_upper entry.1

theorem upper_of_mem_firstCodes {initial : Supplement} {calls : List Call}
    {model : Option Text} {code : Text}
    (member : code ∈ Writing.firstCodes model (writings initial calls))
    : Text.upper code = code := by
  obtain ⟨writing, known, rfl⟩ := List.mem_map.mp (List.mem_eraseDups.mp member)
  exact upper_code_of_mem_writings (List.mem_filter.mp known).1

-----------------------------------------------------------------------------------------
-- The effective layer
-----------------------------------------------------------------------------------------

/-- The descriptions that hold for a model are the common ones under its own, also where those
are none and the common layer is taken as it is.
-/
theorem effective_eq_overlay (book : CodeBook) (model : Option Text)
    : book.effective model = book.base.overlay (book.overrides model) := by
  cases model with
  | none => rfl
  | some name =>
      simp only [effective, overrides, layer, Option.bind_some]
      cases book.models.get? name with
      | none => rfl
      | some own =>
          by_cases bare : own.isEmpty
          · have nothing : own.entries = [] := List.isEmpty_iff.mp bare
            simp [bare, Layer.overlay, nothing]
          · simp [bare]

/-- A layer with distinct codes gives its text for a code before the layer under it does. -/
theorem get?_overlay (under : Layer) {above : Layer} (distinct : above.keys.Nodup) (code : Text)
    : (under.overlay above).get? code = (above.get? code).or (under.get? code) := by
  have same : above.entries.reverse.lookup code = above.get? code := by
    have rebuilt := Table.get?_insertAll .empty above.entries code
    rw [Table.empty_insertAll distinct] at rebuilt
    exact (rebuilt.trans Option.or_none).symm
  rw [Layer.overlay, Table.get?_insertAll, same]

theorem eraseDups_of_nodup {codes : List Text} (distinct : codes.Nodup)
    : codes.eraseDups = codes := by
  induction codes with
  | nil => rfl
  | cons code rest ih =>
      obtain ⟨absent, restDistinct⟩ := List.nodup_cons.mp distinct
      have kept : rest.filter (fun other => !other == code) = rest := by
        rw [List.filter_eq_self]
        intro other member
        have apart : other ≠ code := fun same => absent (same ▸ member)
        simp [apart]
      rw [List.eraseDups_cons, kept, ih restDistinct]

theorem keys_overlay (under : Layer) {above : Layer} (distinct : above.keys.Nodup)
    : (under.overlay above).keys = under.keys ++ above.keys.filter (· ∉ under.keys) := by
  rw [Layer.overlay, Table.keys_insertAll]
  exact congrArg _ (eraseDups_of_nodup (distinct.filter _))

theorem MadeOf.nodup_keys_overrides {book : CodeBook} {writings : List Writing}
    {mentions : List Text} (made : MadeOf book writings mentions) (model : Option Text)
    : (book.overrides model).keys.Nodup := by
  cases model with
  | none => exact List.nodup_nil
  | some name => exact made.nodup_keys_layer (some name)

theorem MadeOf.get?_effective {book : CodeBook} {writings : List Writing} {mentions : List Text}
    (made : MadeOf book writings mentions) (model : Option Text) (code : Text)
    : (book.effective model).get? code = Writing.textFor model code writings := by
  rw [effective_eq_overlay, get?_overlay _ (made.nodup_keys_overrides model)]
  have common := made.get?_layer none code
  cases model with
  | none => exact congrArg _ common
  | some name => exact congrArg₂ _ (made.get?_layer (some name) code) common

theorem MadeOf.lookup_eq {book : CodeBook} {writings : List Writing} {mentions : List Text}
    (made : MadeOf book writings mentions) (code : Text) (model : Option Text)
    : book.lookup code model = Writing.textFor model (Text.upper code) writings :=
  made.get?_effective model (Text.upper code)

theorem MadeOf.describe_eq {book : CodeBook} {writings : List Writing} {mentions : List Text}
    (made : MadeOf book writings mentions) (model : Option Text) (code : Text)
    : book.describe model code = (Writing.textFor model code writings).filter (!·.isEmpty) := by
  rw [describe, made.get?_effective]

/-- The codes that were written first for a model; there are none without a model. -/
def ownCodes (model : Option Text) (writings : List Writing) : List Text :=
  model.elim [] fun name => Writing.firstCodes (some name) writings

theorem MadeOf.keys_effective {book : CodeBook} {writings : List Writing} {mentions : List Text}
    (made : MadeOf book writings mentions) (model : Option Text)
    : (book.effective model).keys
      = Writing.firstCodes none writings
        ++ (ownCodes model writings).filter (· ∉ Writing.firstCodes none writings) := by
  have common : book.base.keys = Writing.firstCodes none writings := made.keys_layer none
  rw [effective_eq_overlay, keys_overlay _ (made.nodup_keys_overrides model), common]
  cases model with
  | none => rfl
  | some name => rw [overrides, made.keys_layer, ownCodes, Option.elim_some]

-----------------------------------------------------------------------------------------
-- Any history
-----------------------------------------------------------------------------------------

/-- Later calls mention more models and lose none, since the list of mentions only grows. -/
theorem modelNames_prefix (initial : Supplement) (earlier later : List Call)
    : ((ofSupplement initial).run earlier).modelNames
      <+: ((ofSupplement initial).run (earlier ++ later)).modelNames := by
  rw [modelNames, modelNames, (madeOf_run initial earlier).models.names,
    (madeOf_run initial (earlier ++ later)).models.names, mentions, mentions, history, history,
    List.filterMap_append, ← List.cons_append, List.flatMap_append, List.eraseDups_append]
  exact List.prefix_append _ _

/-- After any history, with calls that fail among the others, the last writing of a code counts,
the layer of the model before the common one. Codes are stored in uppercase and once each, models
are listed in the order in which they were first mentioned and never lost, and the descriptions
that hold for a model come in the order of first writings, the common codes before the others.
-/
theorem run_answers_lastWrites (initial : Supplement) (calls : List Call)
    : let book := (ofSupplement initial).run calls
      let written := writings initial calls
      (∀ (reached : CodeBook) (call : Call),
        (call.perform reached).book? = call.supplement?.map reached.merge)
      ∧ (∀ code model,
          book.lookup code model
            = (model.bind fun name => Writing.lastText (some name) (Text.upper code) written).or
                (Writing.lastText none (Text.upper code) written))
      ∧ (∀ model, ∀ code ∈ (book.layer model).keys, Text.upper code = code)
      ∧ (∀ model, ((book.layer model).keys.map Text.upper).Nodup)
      ∧ book.modelNames = (mentions initial calls).eraseDups
      ∧ (∀ later, book.modelNames <+: ((ofSupplement initial).run (calls ++ later)).modelNames)
      ∧ (∀ model,
          (book.effective model).keys
            = Writing.firstCodes none written
              ++ (ownCodes model written).filter (· ∉ Writing.firstCodes none written))
      ∧ ∀ model, book.effective model = book.base.overlay (book.overrides model) := by
  intro book written
  have made : MadeOf book written (mentions initial calls) := madeOf_run initial calls
  have uppercase (model : Option Text)
      : ∀ code ∈ (book.layer model).keys, Text.upper code = code := by
    rw [made.keys_layer]
    exact fun code member => upper_of_mem_firstCodes member
  refine ⟨book?_perform, made.lookup_eq, uppercase, ?_, made.models.names,
    modelNames_prefix initial calls, made.keys_effective, effective_eq_overlay book⟩
  intro model
  rw [List.map_congr_left (uppercase model), List.map_id']
  exact made.nodup_keys_layer model

/-- The sharp s is two letters in uppercase, and an array is no document and merges nothing. Escapes
for two surrogates that stand alone are two codes.
-/
theorem run_answers_lastWrites_sharpS
    : let initial : Supplement := ⟨[("ß", "a")], [("A", [("m1", "b")])]⟩
      let surrogates : Text :=
        "\x7b\"baseDict\": \x7b\"\\ud800\": \"a\", \"\\ud801\": \"b\"\x7d\x7d"
      let calls : List Call :=
        [
          .importJson "[]" none, .merge ⟨[("sS", "c"), ("M1", "d")], []⟩,
          .importJson surrogates none
        ]
      let book := (ofSupplement initial).run calls
      ("SS" : Text) ∈ (book.layer none).keys
      ∧ Text.upper "SS" = "SS"
      ∧ book.lookup "ss" (some "A") = some ↑ "c"
      ∧ book.lookup [.surrogate 0] none = some ↑ "a"
      ∧ book.lookup [.surrogate 1] none = some ↑ "b"
      ∧ book.lookup "\uFFFD" none = none := by
  intro initial surrogates calls book
  obtain ⟨-, lookup, uppercase, -⟩ := run_answers_lastWrites initial calls
  have stored : ("SS" : Text) ∈ (book.layer none).keys := by decide +kernel
  refine ⟨stored, uppercase none _ stored, ?_, ?_, ?_, ?_⟩
  all_goals
    rw [lookup]
    decide +kernel

end CodeBook

end LatheGloss
