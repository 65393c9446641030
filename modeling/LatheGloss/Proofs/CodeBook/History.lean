import Mathlib
import LatheGloss.CodeBook.Exchange
import LatheGloss.Proofs.Table

/-! Histories of code books. A call that succeeds comes down to the descriptions that it writes,
and a call that fails to none; a layer is made by the descriptions that were ever written to it,
whatever calls they came with.
-/

namespace LatheGloss

/-- A description is written under its code in uppercase, to the layer of a model or to the
common one.
-/
structure Writing where
  model : Option Text
  code : Text
  text : Text
  deriving DecidableEq

namespace Writing

def ofEntry (model : Option Text) (entry : Text × Text) : Writing :=
  ⟨model, Text.upper entry.1, entry.2⟩

/-- What writings put into a layer, one entry after the other. -/
def entriesFor (model : Option Text) (writings : List Writing) : List (Text × Text) :=
  (writings.filter (·.model = model)).map fun writing => (writing.code, writing.text)

/-- The text that was last written to a layer under a code. -/
def lastText (model : Option Text) (code : Text) (writings : List Writing) : Option Text :=
  (writings.reverse.find? fun writing => writing.model = model ∧ writing.code = code).map (·.text)

/-- The codes that were written to a layer, in the order of their first writings. -/
def firstCodes (model : Option Text) (writings : List Writing) : List Text :=
  ((writings.filter (·.model = model)).map (·.code)).eraseDups

end Writing

namespace Supplement

/-- The descriptions of a supplement in its order. -/
def writings (supplement : Supplement) : List Writing :=
  supplement.base.map (Writing.ofEntry none)
  ++ supplement.models.flatMap fun (model, entries) => entries.map (Writing.ofEntry (some model))

/-- The models that a supplement mentions, also those for which it describes nothing. -/
def mentions (supplement : Supplement) : List Text :=
  supplement.models.map Prod.fst

end Supplement

namespace CodeBook

/-- The code book that a change ends with, if it succeeds. -/
def Change.book? (change : Change) : Option CodeBook :=
  change.toOption.map Prod.fst

/-- A call that merges descriptions: given as such, or in a document, a text or a file. -/
inductive Call where
  | merge (supplement : Supplement)
  | importDocument (document : Json) (source : Option Text)
  | importJson (text : Text) (source : Option Text)
  | load (disk : Disk) (path : Text)

namespace Call

def perform (book : CodeBook) : Call → Change
  | merge supplement => .ok (book.extend supplement)
  | importDocument document source => book.importDocument document source
  | importJson text source => book.importJson text source
  | load disk path => book.load disk path

/-- The supplement that a text spells, if it is a document. -/
def supplementOfText (text : Text) : Option Supplement :=
  (Json.read text).toOption.bind fun document => (Document.supplement document).toOption

/-- What a call has to merge, if it can be read. -/
def supplement? : Call → Option Supplement
  | merge supplement => some supplement
  | importDocument document _ => (Document.supplement document).toOption
  | importJson text _ => supplementOfText text
  | load disk path => (disk.readText path).toOption.bind supplementOfText

end Call

/-- The code book after a call; one that fails leaves it as it was. -/
def after (book : CodeBook) (call : Call) : CodeBook :=
  (call.perform book).book?.getD book

def run (book : CodeBook) (calls : List Call) : CodeBook :=
  calls.foldl after book

/-- The supplements merged by calls, after the one that a code book was made of. -/
def history (initial : Supplement) (calls : List Call) : List Supplement :=
  initial :: calls.filterMap Call.supplement?

/-- All that was written to the layers of a code book. -/
def writings (initial : Supplement) (calls : List Call) : List Writing :=
  (history initial calls).flatMap Supplement.writings

/-- All models that were mentioned to a code book. -/
def mentions (initial : Supplement) (calls : List Call) : List Text :=
  (history initial calls).flatMap Supplement.mentions

-----------------------------------------------------------------------------------------
-- Calls merge supplements
-----------------------------------------------------------------------------------------

theorem book?_importDocument (book : CodeBook) (document : Json) (source : Option Text)
    : (book.importDocument document source).book?
      = (Document.supplement document).toOption.map book.merge := by
  unfold importDocument
  cases Document.supplement document <;> rfl

theorem book?_importJson (book : CodeBook) (text : Text) (source : Option Text)
    : (book.importJson text source).book? = (Call.supplementOfText text).map book.merge := by
  unfold importJson Call.supplementOfText
  cases Json.read text with
  | error fault => cases fault <;> rfl
  | ok document => exact book?_importDocument book document source

theorem book?_importFrom (book : CodeBook) (file : Except FileFault Text) (source : Text)
    : (book.importFrom file source).book?
      = (file.toOption.bind Call.supplementOfText).map book.merge := by
  match file with
  | .error (.disk fault) => cases refusal : fault.isRefusal <;> simp [importFrom, refusal] <;> rfl
  | .error (.openFile _) | .error (.encoding _) => rfl
  | .ok text =>
      refine Eq.trans ?_ (book?_importJson book text (some source))
      cases read : book.importJson text (some source) <;>
        simp [importFrom, read, Change.book?] <;> rfl

theorem book?_load (book : CodeBook) (disk : Disk) (path : Text)
    : (book.load disk path).book?
      = ((disk.readText path).toOption.bind Call.supplementOfText).map book.merge :=
  book?_importFrom book (disk.readText path) path

/-- A call succeeds just when it has something to merge, and then it merges that. -/
theorem book?_perform (book : CodeBook) (call : Call)
    : (call.perform book).book? = call.supplement?.map book.merge := by
  cases call with
  | merge supplement => rfl
  | importDocument document source => exact book?_importDocument book document source
  | importJson text source => exact book?_importJson book text source
  | load disk path => exact book?_load book disk path

theorem after_eq (book : CodeBook) (call : Call)
    : book.after call = (call.supplement?.map book.merge).getD book := by
  rw [after, book?_perform]

/-- A run merges the supplements of its history, by induction over the calls. -/
theorem run_eq_foldl_merge (book : CodeBook) (calls : List Call)
    : book.run calls = (calls.filterMap Call.supplement?).foldl merge book := by
  induction calls generalizing book with
  | nil => rfl
  | cons call rest ih =>
      rw [run, List.foldl_cons, after_eq, List.filterMap_cons]
      cases call.supplement? with
      | none => exact ih book
      | some supplement => exact ih (book.merge supplement)

-----------------------------------------------------------------------------------------
-- What is written to one layer
-----------------------------------------------------------------------------------------

theorem entriesFor_append (model : Option Text) (earlier later : List Writing)
    : Writing.entriesFor model (earlier ++ later)
      = Writing.entriesFor model earlier ++ Writing.entriesFor model later := by
  simp [Writing.entriesFor]

/-- Descriptions that come for one layer are written to that layer and to no other. -/
theorem entriesFor_map_ofEntry (model other : Option Text) (entries : List (Text × Text))
    : Writing.entriesFor model (entries.map (Writing.ofEntry other))
      = if other = model then entries.map fun (code, text) => (Text.upper code, text) else [] := by
  simp only [Writing.entriesFor, List.filter_map, List.map_map]
  by_cases same : other = model
  · simp [same, Function.comp_def, Writing.ofEntry]
  · simp [same, Function.comp_def, Writing.ofEntry]

theorem write_ofList (earlier : List (Text × Text)) (entries : List (Text × Text))
    : Layer.write (.ofList earlier) entries
      = .ofList (earlier ++ entries.map fun (code, text) => (Text.upper code, text)) :=
  (Table.insertAll_append _ _ _).symm

-----------------------------------------------------------------------------------------
-- Code books are made of what was written to them
-----------------------------------------------------------------------------------------

/-- The layers of models hold just what was written to them, and there is one for every model
that was mentioned, in the order of first mentions.
-/
structure ModelsMadeOf (models : Table Layer) (writings : List Writing) (mentions : List Text)
    : Prop where
  layer
    : ∀ name,
        (models.get? name).getD .empty = .ofList (Writing.entriesFor (some name) writings)
  names : models.keys = mentions.eraseDups

/-- The same of all layers of a code book. -/
structure MadeOf (book : CodeBook) (writings : List Writing) (mentions : List Text) : Prop where
  base : book.base = .ofList (Writing.entriesFor none writings)
  models : ModelsMadeOf book.models writings mentions

/-- Merging for one model adds to its layer and mentions it, and leaves the others alone. -/
theorem ModelsMadeOf.mergeModel {models : Table Layer} {writings : List Writing}
    {mentions : List Text} (made : ModelsMadeOf models writings mentions)
    (name : Text) (entries : List (Text × Text))
    : ModelsMadeOf (CodeBook.mergeModel models (name, entries))
        (writings ++ entries.map (Writing.ofEntry (some name))) (mentions ++ [name]) := by
  refine ⟨?_, ?_⟩
  · intro other
    rw [CodeBook.mergeModel, Table.get?_insert, entriesFor_append, entriesFor_map_ofEntry]
    by_cases same : other = name
    · subst other
      rw [if_pos rfl, if_pos rfl, Option.getD_some, made.layer, write_ofList]
    · have apart : some name ≠ some other := fun h => same (Option.some.inj h).symm
      rw [if_neg same, if_neg apart, List.append_nil, made.layer]
  · rw [CodeBook.mergeModel, Table.keys_insert, made.names, List.eraseDups_append]
    by_cases known : name ∈ mentions
    · simp [known, List.removeAll]
    · simp [known, List.removeAll, List.eraseDups_cons]

/-- Merging for several models one after the other, by induction over them. -/
theorem ModelsMadeOf.foldl {models : Table Layer} {writings : List Writing}
    {mentions : List Text} (made : ModelsMadeOf models writings mentions)
    (more : List (Text × List (Text × Text)))
    : ModelsMadeOf (more.foldl CodeBook.mergeModel models)
        (writings
          ++ more.flatMap fun (model, entries) => entries.map (Writing.ofEntry (some model)))
        (mentions ++ more.map Prod.fst) := by
  induction more generalizing models writings mentions with
  | nil => simpa using made
  | cons model rest ih =>
      have next := ih (made.mergeModel model.1 model.2)
      simpa only [List.foldl_cons, List.flatMap_cons, List.map_cons, List.append_assoc,
        List.singleton_append] using next

/-- Writings to the common layer concern no model. -/
theorem ModelsMadeOf.writeBase {models : Table Layer} {writings : List Writing}
    {mentions : List Text} (made : ModelsMadeOf models writings mentions)
    (entries : List (Text × Text))
    : ModelsMadeOf models (writings ++ entries.map (Writing.ofEntry none)) mentions := by
  refine ⟨?_, made.names⟩
  intro name
  rw [entriesFor_append, entriesFor_map_ofEntry, if_neg (by simp), List.append_nil, made.layer]

/-- What is for models leaves the common layer alone. -/
theorem entriesFor_none_flatMap (models : List (Text × List (Text × Text)))
    : Writing.entriesFor none
        (models.flatMap fun (model, entries) => entries.map (Writing.ofEntry (some model)))
      = [] := by
  induction models with
  | nil => rfl
  | cons model rest ih =>
      rw [List.flatMap_cons, entriesFor_append, ih, entriesFor_map_ofEntry, if_neg (by simp)]
      rfl

/-- A merge adds the writings and mentions of its supplement. -/
theorem MadeOf.merge {book : CodeBook} {writings : List Writing} {mentions : List Text}
    (made : MadeOf book writings mentions) (supplement : Supplement)
    : MadeOf (book.merge supplement) (writings ++ supplement.writings)
        (mentions ++ supplement.mentions) := by
  refine ⟨?_, ?_⟩
  · rw [CodeBook.merge, made.base, write_ofList, Supplement.writings, entriesFor_append,
      entriesFor_append, entriesFor_map_ofEntry, if_pos rfl, entriesFor_none_flatMap,
      List.append_nil]
  · have models := (made.models.writeBase supplement.base).foldl supplement.models
    rwa [List.append_assoc] at models

theorem MadeOf.foldl_merge {book : CodeBook} {writings : List Writing} {mentions : List Text}
    (made : MadeOf book writings mentions) (supplements : List Supplement)
    : MadeOf (supplements.foldl CodeBook.merge book)
        (writings ++ supplements.flatMap Supplement.writings)
        (mentions ++ supplements.flatMap Supplement.mentions) := by
  induction supplements generalizing book writings mentions with
  | nil => simpa using made
  | cons supplement rest ih =>
      simpa only [List.foldl_cons, List.flatMap_cons, List.append_assoc]
        using ih (made.merge supplement)

theorem madeOf_empty
    : MadeOf .empty [] [] :=
  ⟨rfl, fun _ => rfl, rfl⟩

/-- Every code book that is reached is made of what was ever written to it. -/
theorem madeOf_run (initial : Supplement) (calls : List Call)
    : MadeOf ((ofSupplement initial).run calls) (writings initial calls)
        (mentions initial calls) := by
  have made := madeOf_empty.foldl_merge (history initial calls)
  rw [run_eq_foldl_merge]
  exact made

end CodeBook

end LatheGloss
