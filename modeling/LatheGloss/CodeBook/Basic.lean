import LatheGloss.CodeBook.Layer

/-! A code book has a common layer of descriptions and one more for each machine model. For a
model the descriptions in its own layer win over the common ones.
-/

namespace LatheGloss

structure CodeBook where
  base : Layer
  models : Table Layer

/-- Descriptions to be merged into a code book: common ones, and some for each of several
models. -/
structure Supplement where
  base : List (Text × Text)
  models : List (Text × List (Text × Text))

/-- How many descriptions there are for models. -/
def Supplement.modelEntries (supplement : Supplement) : Nat :=
  (supplement.models.flatMap Prod.snd).length

namespace CodeBook

def empty : CodeBook :=
  ⟨.empty, .empty⟩

/-- The layers of models with descriptions for one more model, which may be a new one. -/
def mergeModel (models : Table Layer) (supplement : Text × List (Text × Text)) : Table Layer :=
  let (model, entries) := supplement
  models.insert model (((models.get? model).getD .empty).write entries)

/-- Merging writes every description of the supplement and keeps all others. -/
def merge (book : CodeBook) (supplement : Supplement) : CodeBook where
  base := book.base.write supplement.base
  models := supplement.models.foldl mergeModel book.models

/-- A code book with the given descriptions. -/
def ofSupplement (supplement : Supplement) : CodeBook :=
  empty.merge supplement

/-- The models in the order in which they were first mentioned. -/
def modelNames (book : CodeBook) : List Text :=
  book.models.keys

def hasModel (book : CodeBook) (model : Text) : Bool :=
  book.models.contains model

/-- The descriptions that hold for a model. Without a model, and for one that is not known, they
are the common ones. -/
def effective (book : CodeBook) (model : Option Text) : Layer :=
  match model.bind book.models.get? with
  | none => book.base
  | some layer => if layer.isEmpty then book.base else book.base.overlay layer

/-- The description of a code for a model. -/
def lookup (book : CodeBook) (code : Text) (model : Option Text) : Option Text :=
  (book.effective model).get? (Text.upper code)

/-- The description of a code in uppercase; an empty one describes nothing. -/
def describe (book : CodeBook) (model : Option Text) (code : Text) : Option Text :=
  ((book.effective model).get? code).filter (!·.isEmpty)

end CodeBook

end LatheGloss
