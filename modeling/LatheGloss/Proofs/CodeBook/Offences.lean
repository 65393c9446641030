import Mathlib
import LatheGloss.CodeBook.Exchange
import LatheGloss.Proofs.CodeBook.DocumentShape

/-! Offences of a document. Everything that is wrong with a document can be listed in the order in
which a document is looked at: its common descriptions before those of the models, and an object
before what is in it. An import merges just what a document holds without an offence, and otherwise
it is refused with the first one, by a message that names where the wrong value stands.
-/

namespace LatheGloss.Document

-----------------------------------------------------------------------------------------
-- What a document holds and what is wrong with it
-----------------------------------------------------------------------------------------

/-- The fields of an object; there are none in anything else. -/
def fieldsOf : Option Json → List (Text × Json)
  | some (.obj fields) => fields
  | _ => []

/-- Descriptions as fields of an object. -/
def texts (entries : List (Text × Text)) : List (Text × Json) :=
  entries.map fun (code, text) => (code, .str text)

/-- The supplement has the descriptions of the document, and no others. -/
structure Holds (document : Json) (supplement : Supplement) : Prop where
  base : fieldsOf (document.field? baseField) = texts supplement.base
  models
    : fieldsOf (document.field? modelsField)
      = supplement.models.map fun (name, entries) => (name, .obj (texts entries))

/-- A value that is there and not null has to be an object. -/
def objectOffences (offence : Offence) : Option Json → List Offence
  | none | some .null | some (.obj _) => []
  | some _ => [offence]

/-- The value of a field has to be a text. -/
def textOffences (offence : Text → Offence) : Text × Json → List Offence
  | (_, .str _) => []
  | (code, _) => [offence code]

/-- The value for a model has to be an object of texts. -/
def modelOffences : Text × Json → List Offence
  | (name, .obj fields) => fields.flatMap (textOffences (.modelEntry name))
  | (name, _) => [.model name]

/-- All offences of a document, in the order in which it is looked at. -/
def offences (document : Json) : List Offence :=
  match document with
  | .obj _ =>
      objectOffences .base (document.field? baseField)
      ++ (fieldsOf (document.field? baseField)).flatMap (textOffences .baseEntry)
      ++ objectOffences .models (document.field? modelsField)
      ++ (fieldsOf (document.field? modelsField)).flatMap modelOffences
  | _ => [.document]

/-- The value that stands in a document at a path of names. -/
inductive Stands (document : Json) : List Text → Json → Prop
  | whole : Stands document [] document
  | field {name value} (found : document.field? name = some value)
    : Stands document [name] value
  | entry {name fields key value} (found : document.field? name = some (.obj fields))
    (member : (key, value) ∈ fields)
    : Stands document [name, key] value
  | inner {name fields key entries code value}
    (found : document.field? name = some (.obj fields)) (member : (key, .obj entries) ∈ fields)
    (inside : (code, value) ∈ entries)
    : Stands document [name, key, code] value

namespace Offence

/-- Where the value stands that is wrong. -/
def path : Offence → List Text
  | document => []
  | base => [baseField]
  | baseEntry code => [baseField, code]
  | models => [modelsField]
  | model name => [modelsField, name]
  | modelEntry name code => [modelsField, name, code]

/-- What the value would have to be. -/
def Demands : Offence → Json → Prop
  | document, value | model _, value => ∃ fields, value = .obj fields
  | base, value | models, value => value = .null ∨ ∃ fields, value = .obj fields
  | baseEntry _, value | modelEntry _ _, value => IsText value

theorem intercalate_two (field name : Text)
    : (['.'] : Text).intercalate [field, name] = field ++ ↑ '.' :: name := by
  rw [List.intercalate_cons_cons, List.intercalate_singleton, List.append_assoc,
    List.singleton_append]

theorem intercalate_three (field name code : Text)
    : (['.'] : Text).intercalate [field, name, code] = field ++ ↑ '.' :: name ++ ↑ '.' :: code := by
  rw [List.intercalate_cons_cons, intercalate_two]
  simp only [List.append_assoc, List.cons_append, List.nil_append]

/-- Whatever is wrong within a document is named by its path. -/
theorem subject_eq_path {offence : Offence} (within : offence ≠ document)
    : offence.subject = ↑ '\'' :: (['.'] : Text).intercalate offence.path ++ (['\''] : Text) := by
  cases offence with
  | document => exact absurd rfl within
  | base => exact congrArg (_ :: · ++ _) List.intercalate_singleton.symm
  | models => exact congrArg (_ :: · ++ _) List.intercalate_singleton.symm
  | baseEntry code => exact congrArg (_ :: · ++ _) (intercalate_two baseField code).symm
  | model name => exact congrArg (_ :: · ++ _) (intercalate_two modelsField name).symm
  | modelEntry name code =>
      exact congrArg (_ :: · ++ _) (intercalate_three modelsField name code).symm

end Offence

-----------------------------------------------------------------------------------------
-- Checks that report their first offence
-----------------------------------------------------------------------------------------

section Reports

variable {ε α β : Type}

/-- A check reports offences when it fails with the first of them, and otherwise finds what it
should. -/
def Reports (offences : List ε) (holds : α → Prop) : Except ε α → Prop
  | .ok value => offences = [] ∧ holds value
  | .error offence => offences.head? = some offence

namespace Reports

variable {earlier later : List ε} {holds : α → Prop} {holdsNext : β → Prop} {check : Except ε α}

theorem eq_ok_iff (reports : Reports earlier holds check)
    : (∃ value, check = .ok value) ↔ earlier = [] := by
  cases check with
  | ok value => simpa using reports.1
  | error offence =>
      have some : earlier ≠ [] := fun none => by simp [Reports, none] at reports
      simp [some]

theorem eq_error_iff (reports : Reports earlier holds check) {offence : ε}
    : check = .error offence ↔ earlier.head? = some offence := by
  cases check with
  | ok value => simp [reports.1]
  | error first => rw [show earlier.head? = some first from reports]; simp

theorem map (reports : Reports earlier holds check) {f : α → β}
    (passes : ∀ value, holds value → holdsNext (f value))
    : Reports earlier holdsNext (check.map f) := by
  cases check with
  | ok value => exact ⟨reports.1, passes value reports.2⟩
  | error offence => exact reports

/-- A check after another reports its offences after those of the other. -/
theorem bind (reports : Reports earlier holds check) {next : α → Except ε β}
    (reportsNext : ∀ value, holds value → Reports later holdsNext (next value))
    : Reports (earlier ++ later) holdsNext (check.bind next) := by
  cases check with
  | ok value =>
      rw [reports.1, List.nil_append]
      exact reportsNext value reports.2
  | error offence =>
      exact List.mem_head?_append_of_mem_head? reports

/-- A check of each item reports the offences of one item after those of the other, by induction
over the items. -/
theorem mapM {offences : α → List ε} {step : α → Except ε β} {original : β → α}
    (each : ∀ item, Reports (offences item) (fun result => item = original result) (step item))
    (items : List α)
    : Reports (items.flatMap offences) (fun results => items = results.map original)
        (items.mapM step) := by
  induction items with
  | nil => exact ⟨rfl, rfl⟩
  | cons item rest ih =>
      rw [List.mapM_cons, List.flatMap_cons]
      refine (each item).bind fun first isFirst => ?_
      exact ih.map fun others areOthers => by rw [isFirst, areOthers, List.map_cons]

end Reports

end Reports

theorem reports_optionalFields (offence : Offence) (value : Option Json)
    : Reports (objectOffences offence value) (fieldsOf value = ·)
        (optionalFields offence value) := by
  match value with
  | none | some .null | some (.obj _) => exact ⟨rfl, rfl⟩
  | some (.bool _) | some (.int _) | some (.float _) | some (.str _) | some (.arr _) => rfl

theorem reports_descriptions (offence : Text → Offence) (fields : List (Text × Json))
    : Reports (fields.flatMap (textOffences offence)) (fields = texts ·)
        (descriptions offence fields) := by
  refine Reports.mapM (fun ⟨code, value⟩ => ?_) fields
  cases value with
  | str text => exact ⟨rfl, rfl⟩
  | _ => rfl

theorem reports_modelDescriptions (model : Text × Json)
    : Reports (modelOffences model) (fun layer => model = (layer.1, .obj (texts layer.2)))
        (modelDescriptions model) := by
  obtain ⟨name, value⟩ := model
  cases value with
  | obj fields =>
      exact (reports_descriptions (.modelEntry name) fields).map fun entries held => by rw [held]
  | _ => rfl

/-- A document is read up to its first offence, and to what it holds when there is none. -/
theorem reports_supplement (document : Json)
    : Reports (offences document) (Holds document) (supplement document) := by
  cases document with
  | obj fields =>
      rw [supplement_obj, offences, List.append_assoc, List.append_assoc]
      refine (reports_optionalFields _ _).bind fun base isBase => ?_
      rw [isBase]
      refine (reports_descriptions _ _).bind fun entries areEntries => ?_
      refine (reports_optionalFields _ _).bind fun models areModels => ?_
      rw [areModels]
      refine (Reports.mapM reports_modelDescriptions models).map fun layers areLayers => ?_
      exact ⟨isBase.trans areEntries, areModels.trans areLayers⟩
  | _ => rfl

-----------------------------------------------------------------------------------------
-- Offences and where they stand
-----------------------------------------------------------------------------------------

theorem mem_fieldsOf_iff {field : Text × Json} {value : Option Json}
    : field ∈ fieldsOf value ↔ ∃ fields, value = some (.obj fields) ∧ field ∈ fields := by
  match value with
  | some (.obj fields) => simp [fieldsOf]
  | none | some .null | some (.bool _) | some (.int _) | some (.float _) | some (.str _)
  | some (.arr _) => simp [fieldsOf]

section Stands

variable {document value : Json} {name key code : Text}

theorem stands_nil_iff : Stands document [] value ↔ value = document :=
  ⟨by rintro ⟨⟩; rfl, by rintro rfl; exact .whole⟩

theorem stands_one_iff : Stands document [name] value ↔ document.field? name = some value :=
  ⟨by rintro ⟨⟩; assumption, .field⟩

theorem stands_two_iff
    : Stands document [name, key] value ↔ (key, value) ∈ fieldsOf (document.field? name) := by
  rw [mem_fieldsOf_iff]
  constructor
  · rintro (_ | _ | ⟨found, member⟩)
    exact ⟨_, found, member⟩
  · rintro ⟨fields, found, member⟩
    exact .entry found member

theorem stands_three_iff
    : Stands document [name, key, code] value
      ↔ ∃ entries, (key, .obj entries) ∈ fieldsOf (document.field? name)
          ∧ (code, value) ∈ entries := by
  simp only [mem_fieldsOf_iff]
  constructor
  · rintro (_ | _ | _ | ⟨found, member, inside⟩)
    exact ⟨_, ⟨_, found, member⟩, inside⟩
  · rintro ⟨entries, ⟨fields, found, member⟩, inside⟩
    exact .inner found member inside

end Stands

section Members

variable {offence : Offence}

theorem mem_objectOffences_iff {named : Offence} {value : Option Json}
    : offence ∈ objectOffences named value
      ↔ offence = named ∧ ∃ given, value = some given
          ∧ ¬(given = .null ∨ ∃ fields, given = .obj fields) := by
  match value with
  | none | some .null | some (.obj _) => simp [objectOffences]
  | some (.bool _) | some (.int _) | some (.float _) | some (.str _) | some (.arr _) =>
      simp [objectOffences]

theorem mem_textOffences_iff {named : Text → Offence} {field : Text × Json}
    : offence ∈ textOffences named field ↔ offence = named field.1 ∧ ¬IsText field.2 := by
  obtain ⟨code, value⟩ := field
  cases value <;> simp [textOffences, IsText]

theorem mem_modelOffences_iff {model : Text × Json}
    : offence ∈ modelOffences model
      ↔ (offence = .model model.1 ∧ ¬∃ fields, model.2 = .obj fields)
        ∨ ∃ entries, model.2 = .obj entries ∧ ∃ field ∈ entries,
            offence = .modelEntry model.1 field.1 ∧ ¬IsText field.2 := by
  obtain ⟨name, value⟩ := model
  cases value with
  | obj fields => simp [modelOffences, mem_textOffences_iff]
  | _ => simp [modelOffences]

/-- Whatever stands in a document and is not as it has to be is an offence, and there are no
others. -/
theorem mem_offences_iff {document : Json}
    : offence ∈ offences document
      ↔ ∃ value, Stands document offence.path value ∧ ¬offence.Demands value := by
  cases document with
  | obj fields =>
      rw [offences, List.mem_append, List.mem_append, List.mem_append, List.mem_flatMap,
        List.mem_flatMap]
      simp only [mem_objectOffences_iff, mem_textOffences_iff, mem_modelOffences_iff]
      cases offence with
      | document => simp [Offence.path, Offence.Demands, stands_nil_iff]
      | base => simp [Offence.path, Offence.Demands, stands_one_iff]
      | baseEntry code => simp [Offence.path, Offence.Demands, stands_two_iff]
      | models => simp [Offence.path, Offence.Demands, stands_one_iff]
      | model name => simp [Offence.path, Offence.Demands, stands_two_iff]
      | modelEntry name code =>
          simp only [Offence.path, Offence.Demands, stands_three_iff, reduceCtorEq, false_and,
            and_false, exists_false, or_false, false_or]
          constructor
          · rintro ⟨⟨_, _⟩, member, entries, rfl, ⟨_, value⟩, inside, ⟨⟩, wrong⟩
            exact ⟨value, ⟨entries, member, inside⟩, wrong⟩
          · rintro ⟨value, ⟨entries, member, inside⟩, wrong⟩
            exact ⟨(name, .obj entries), member, entries, rfl, (code, value), inside, rfl, wrong⟩
  | _ =>
      cases offence <;>
        simp [offences, Offence.path, Offence.Demands, stands_nil_iff, stands_one_iff,
          stands_two_iff, stands_three_iff, Json.field?, fieldsOf]

end Members

/-- A document has the shape of one just when nothing is wrong with it. -/
theorem offences_eq_nil_iff {document : Json} : offences document = [] ↔ WellShaped document :=
  (reports_supplement document).eq_ok_iff.symm.trans exists_supplement_iff

theorem texts_injective : Function.Injective texts :=
  List.map_injective_iff.mpr fun first second same => by
    obtain ⟨sameCode, sameText⟩ := Prod.mk.inj same
    exact Prod.ext sameCode (Json.str.inj sameText)

/-- A document has the descriptions of one supplement at most. -/
theorem Holds.eq {document : Json} {first second : Supplement} (holdsFirst : Holds document first)
    (holdsSecond : Holds document second)
    : first = second := by
  have sameBase := texts_injective (holdsFirst.base.symm.trans holdsSecond.base)
  have sameModels := holdsFirst.models.symm.trans holdsSecond.models
  have layersInjective : Function.Injective fun layer : Text × List (Text × Text) =>
      (layer.1, Json.obj (texts layer.2)) := fun one other same => by
    obtain ⟨sameName, sameTexts⟩ := Prod.mk.inj same
    exact Prod.ext sameName (texts_injective (Json.obj.inj sameTexts))
  obtain ⟨base, models⟩ := first
  rw [Supplement.mk.injEq]
  exact ⟨sameBase, List.map_injective_iff.mpr layersInjective sameModels⟩

end LatheGloss.Document

namespace LatheGloss.CodeBook

open Document (Holds Offence Stands WellShaped offences)

variable {document : Json}

theorem importDocument_eq_ok_iff {book : CodeBook} {source : Option Text}
    {change : CodeBook × List Notice}
    : book.importDocument document source = .ok change
      ↔ WellShaped document ∧ ∃ supplement, Holds document supplement
          ∧ change = book.extend supplement := by
  have reports := Document.reports_supplement document
  rw [← Document.offences_eq_nil_iff, ← reports.eq_ok_iff, importDocument]
  cases found : Document.supplement document with
  | error offence => simp
  | ok held =>
      rw [found] at reports
      simp only [Except.ok.injEq, exists_eq', true_and]
      constructor
      · rintro rfl
        exact ⟨held, reports.2, rfl⟩
      · rintro ⟨supplement, holds, rfl⟩
        rw [holds.eq reports.2]

theorem importDocument_eq_error_iff {book : CodeBook} {source : Option Text} {fault : Fault}
    : book.importDocument document source = .error fault
      ↔ ∃ offence, (offences document).head? = some offence
          ∧ fault = .importRefused (.misshapen offence) source := by
  simp only [← (Document.reports_supplement document).eq_error_iff]
  rw [importDocument]
  cases Document.supplement document <;> simp [eq_comm]

/-- Importing a document merges what it holds just when it has the shape of one, and otherwise it is
refused with the first of its offences: the values that stand in it and are not what they have to
be, in the order in which they are listed. The reason tells where that value stands and what it has
to be. -/
theorem importDocument_firstOffence (book : CodeBook) (document : Json) (source : Option Text)
    : ((∃ change, book.importDocument document source = .ok change) ↔ WellShaped document)
      ∧ (∀ change, book.importDocument document source = .ok change
          ↔ WellShaped document ∧ ∃ supplement, Holds document supplement
              ∧ change = book.extend supplement)
      ∧ (∀ fault, book.importDocument document source = .error fault
          ↔ ∃ offence, (offences document).head? = some offence
              ∧ fault = .importRefused (.misshapen offence) source)
      ∧ (∀ offence, offence ∈ offences document
          ↔ ∃ value, Stands document offence.path value ∧ ¬offence.Demands value)
      ∧ (∀ offence, offence ≠ .document →
          (ImportCause.misshapen offence).message
            = ↑ '\'' :: (['.'] : Text).intercalate offence.path
              ++ ↑ '\'' :: ↑ ' ' :: offence.demand) := by
  refine ⟨?_, fun change => importDocument_eq_ok_iff, fun fault => importDocument_eq_error_iff,
    fun offence => Document.mem_offences_iff, fun offence within => ?_⟩
  · rw [← Document.offences_eq_nil_iff, ← (Document.reports_supplement document).eq_ok_iff,
      importDocument]
    cases Document.supplement document <;> simp
  · refine (congrArg (· ++ ↑ ' ' :: offence.demand) (Offence.subject_eq_path within)).trans ?_
    rw [List.append_assoc, List.singleton_append]

/-- The common descriptions come first, although the document has those of the models before them,
and the null in a model is found in spite of the one that is not an object. -/
theorem importDocument_firstOffence_ofThree
    : let document : Json :=
        .obj [
          ("x", .int 0),
          (Document.modelsField,
            .obj [("A", .int 1), ("B", .obj [("M1", .null)])]),
          (Document.baseField, .obj [("g1", .str ['a']), ("G2", .int 5)])
        ]
      let offence : Offence := .baseEntry "G2"
      offences document = [offence, .model "A", .modelEntry "B" "M1"]
      ∧ CodeBook.empty.importDocument document none
        = .error (.importRefused (.misshapen offence) none)
      ∧ (¬∃ change, CodeBook.empty.importDocument document none = .ok change)
      ∧ (∃ value, Stands document offence.path value ∧ ¬offence.Demands value)
      ∧ (ImportCause.misshapen offence).message = "'baseDict.G2' must be a string" := by
  intro document offence
  have listed
      : offences document = [offence, .model "A", .modelEntry "B" "M1"] := by
    decide +kernel
  obtain ⟨-, -, refused, stand, message⟩ :=
    importDocument_firstOffence CodeBook.empty document none
  have isRefused := (refused _).mpr ⟨offence, by rw [listed]; rfl, rfl⟩
  have isOffence : offence ∈ offences document := by rw [listed]; exact List.mem_cons_self
  refine ⟨listed, isRefused, ?_, (stand offence).mp isOffence, ?_⟩
  · rintro ⟨change, merged⟩
    rw [isRefused] at merged
    cases merged
  · rw [message offence (by decide)]
    decide +kernel

end LatheGloss.CodeBook
