import LatheGloss.CodeBook.Basic
import LatheGloss.Json.Basic

/-! The exchange document of a code book: an object with the common descriptions in one field
and those of the models in another. Fields may be missing or null, further fields are ignored,
and every description has to be a text.
-/

namespace LatheGloss

namespace Document

def baseField : Text :=
  "baseDict"

def modelsField : Text :=
  "modelDicts"

/-- The first thing in a document that is not as it has to be. -/
inductive Offence where
  | document
  | base
  | baseEntry (code : Text)
  | models
  | model (name : Text)
  | modelEntry (name code : Text)
  deriving DecidableEq

namespace Offence

def subject : Offence → Text
  | document => "document"
  | base => ↑ '\'' :: baseField ++ (['\''] : Text)
  | baseEntry code => ↑ '\'' :: baseField ++ ↑ '.' :: code ++ (['\''] : Text)
  | models => ↑ '\'' :: modelsField ++ (['\''] : Text)
  | model name => ↑ '\'' :: modelsField ++ ↑ '.' :: name ++ (['\''] : Text)
  | modelEntry name code =>
      ↑ '\'' :: modelsField ++ ↑ '.' :: name ++ ↑ '.' :: code ++ (['\''] : Text)

def demand : Offence → Text
  | document => "must be a JSON object"
  | base | models | model _ => "must be an object"
  | baseEntry _ | modelEntry _ _ => "must be a string"

def message (offence : Offence) : Text :=
  offence.subject ++ ↑ ' ' :: offence.demand

end Offence

/-- The fields of an object; a missing or null value counts as an empty one. -/
def optionalFields (offence : Offence) : Option Json → Except Offence (List (Text × Json))
  | none | some .null => .ok []
  | some (.obj fields) => .ok fields
  | some _ => .error offence

/-- Descriptions by code, all of them texts. -/
def descriptions (offence : Text → Offence) (fields : List (Text × Json))
    : Except Offence (List (Text × Text)) :=
  fields.mapM fun (code, value) =>
    match value with
    | .str text => .ok (code, text)
    | _ => .error (offence code)

/-- The descriptions of a model. -/
def modelDescriptions (model : Text × Json) : Except Offence (Text × List (Text × Text)) :=
  match model with
  | (name, .obj fields) =>
      (descriptions (.modelEntry name) fields).map fun entries => (name, entries)
  | (name, _) => .error (.model name)

/-- The supplement that a document holds, or its first offence. -/
def supplement (document : Json) : Except Offence Supplement :=
  match document with
  | .obj _ => do
      let base ← optionalFields .base (document.field? baseField)
      let base ← descriptions .baseEntry base
      let models ← optionalFields .models (document.field? modelsField)
      let models ← models.mapM modelDescriptions
      return { base, models }
  | _ => .error .document

def ofLayer (layer : Layer) : Json :=
  .obj (layer.entries.map fun (code, text) => (code, .str text))

/-- The document of a code book. -/
def ofCodeBook (book : CodeBook) : Json :=
  .obj
    [
      (baseField, ofLayer book.base),
      (modelsField, .obj (book.models.entries.map fun (model, layer) => (model, ofLayer layer)))
    ]

end Document

end LatheGloss
