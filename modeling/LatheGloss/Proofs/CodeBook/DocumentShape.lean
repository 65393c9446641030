import Mathlib
import LatheGloss.CodeBook.Document

/-! The shape of a document. A document holds a supplement just when it is an object, its common
descriptions are missing, null or an object of texts, and so are those of every model in the object
of models, which may be missing or null as well; one wrong value anywhere spoils all of it.
-/

namespace LatheGloss.Document

/-- An object all of whose values are as they have to be. -/
def IsObjectOf (kind : Json → Prop) (value : Json) : Prop :=
  ∃ fields, value = .obj fields ∧ ∀ field ∈ fields, kind field.2

def IsText (value : Json) : Prop :=
  ∃ text, value = .str text

/-- The shape of a document, whatever further fields it has. -/
structure WellShaped (document : Json) : Prop where
  object : ∃ fields, document = .obj fields
  base : ∀ value ∈ document.field? baseField, value = .null ∨ IsObjectOf IsText value
  models
    : ∀ value ∈ document.field? modelsField, value = .null ∨ IsObjectOf (IsObjectOf IsText) value

theorem isObjectOf_obj_iff {kind : Json → Prop} {fields : List (Text × Json)}
    : IsObjectOf kind (.obj fields) ↔ ∀ field ∈ fields, kind field.2 := by
  simp [IsObjectOf]

-----------------------------------------------------------------------------------------
-- Steps that may fail
-----------------------------------------------------------------------------------------

section Steps

variable {ε α β : Type}

theorem bind_eq_ok_iff {value : Except ε α} {next : α → Except ε β} {result : β}
    : value.bind next = .ok result ↔ ∃ found, value = .ok found ∧ next found = .ok result := by
  cases value <;> simp [Except.bind]

theorem exists_map_eq_ok_iff {value : Except ε α} {f : α → β}
    : (∃ result, value.map f = .ok result) ↔ ∃ found, value = .ok found := by
  cases value <;> simp [Except.map]

/-- A step for each item succeeds when all of them do, by induction over the items. -/
theorem exists_mapM_eq_ok_iff {step : α → Except ε β} {items : List α}
    : (∃ results, items.mapM step = .ok results) ↔ ∀ item ∈ items, ∃ result, step item = .ok result
    := by
  induction items with
  | nil => simp [pure, Except.pure]
  | cons item rest ih =>
      rw [List.forall_mem_cons, ← ih, List.mapM_cons]
      constructor
      · rintro ⟨results, done⟩
        obtain ⟨first, found, others⟩ := bind_eq_ok_iff.mp done
        obtain ⟨later, foundLater, -⟩ := bind_eq_ok_iff.mp others
        exact ⟨⟨first, found⟩, later, foundLater⟩
      · rintro ⟨⟨first, found⟩, later, foundLater⟩
        exact ⟨first :: later, bind_eq_ok_iff.mpr
          ⟨first, found, bind_eq_ok_iff.mpr ⟨later, foundLater, rfl⟩⟩⟩

end Steps

-----------------------------------------------------------------------------------------
-- Fields of a document
-----------------------------------------------------------------------------------------

/-- Fields with a property are there when the value is missing, null or an object of such fields. -/
theorem exists_optionalFields_iff {offence : Offence} {value : Option Json} {kind : Json → Prop}
    : (∃ fields, optionalFields offence value = .ok fields ∧ ∀ field ∈ fields, kind field.2)
      ↔ ∀ given ∈ value, given = .null ∨ IsObjectOf kind given := by
  match value with
  | none => simp [optionalFields]
  | some .null => simp [optionalFields]
  | some (.obj fields) => simp [optionalFields, IsObjectOf]
  | some (.bool _) | some (.int _) | some (.float _) | some (.str _) | some (.arr _) =>
      simp [optionalFields, IsObjectOf]

theorem exists_descriptions_iff {offence : Text → Offence} {fields : List (Text × Json)}
    : (∃ entries, descriptions offence fields = .ok entries)
      ↔ ∀ field ∈ fields, IsText field.2 := by
  refine exists_mapM_eq_ok_iff.trans (forall₂_congr ?_)
  rintro ⟨code, value⟩ -
  cases value <;> simp [IsText]

theorem exists_modelDescriptions_iff {model : Text × Json}
    : (∃ entries, modelDescriptions model = .ok entries) ↔ IsObjectOf IsText model.2 := by
  obtain ⟨name, value⟩ := model
  cases value with
  | obj fields =>
      rw [isObjectOf_obj_iff]
      exact exists_map_eq_ok_iff.trans exists_descriptions_iff
  | _ => simp [modelDescriptions, IsObjectOf]

/-- The parts of an object are looked at one after the other. -/
theorem supplement_obj (fields : List (Text × Json))
    : supplement (.obj fields)
      = (optionalFields .base ((Json.obj fields).field? baseField)).bind fun base =>
          (descriptions .baseEntry base).bind fun base =>
            (optionalFields .models ((Json.obj fields).field? modelsField)).bind fun models =>
              (models.mapM modelDescriptions).bind fun models => .ok ⟨base, models⟩ :=
  rfl

/-- A document holds a supplement just when it has the shape of one. -/
theorem exists_supplement_iff {document : Json}
    : (∃ supplement, Document.supplement document = .ok supplement) ↔ WellShaped document := by
  constructor
  · rintro ⟨held, found⟩
    cases document with
    | obj fields =>
        rw [supplement_obj] at found
        obtain ⟨base, baseFound, found⟩ := bind_eq_ok_iff.mp found
        obtain ⟨entries, entriesFound, found⟩ := bind_eq_ok_iff.mp found
        obtain ⟨models, modelsFound, found⟩ := bind_eq_ok_iff.mp found
        obtain ⟨layers, layersFound, -⟩ := bind_eq_ok_iff.mp found
        refine ⟨⟨fields, rfl⟩, ?_, ?_⟩
        · exact exists_optionalFields_iff.mp
            ⟨base, baseFound, exists_descriptions_iff.mp ⟨entries, entriesFound⟩⟩
        · refine exists_optionalFields_iff.mp ⟨models, modelsFound, fun model member => ?_⟩
          exact exists_modelDescriptions_iff.mp
            (exists_mapM_eq_ok_iff.mp ⟨layers, layersFound⟩ model member)
    | _ => cases found
  · rintro ⟨⟨fields, rfl⟩, baseShape, modelsShape⟩
    obtain ⟨base, baseFound, texts⟩ := exists_optionalFields_iff.mpr baseShape
    obtain ⟨entries, entriesFound⟩ := exists_descriptions_iff.mpr texts
    obtain ⟨models, modelsFound, layered⟩ := exists_optionalFields_iff.mpr modelsShape
    obtain ⟨layers, layersFound⟩ := exists_mapM_eq_ok_iff.mpr fun model member =>
      exists_modelDescriptions_iff.mpr (layered model member)
    refine ⟨⟨entries, layers⟩, ?_⟩
    rw [supplement_obj, baseFound, Except.bind, entriesFound, Except.bind, modelsFound, Except.bind,
      layersFound, Except.bind]

end LatheGloss.Document
