import LatheGloss.Text.Basic

/-! Tables keep their entries in the order in which the keys were first written. Writing a key
again replaces its value and leaves it in its place.
-/

namespace LatheGloss

structure Table (α : Type) where
  entries : List (Text × α)

namespace Table

variable {α : Type}

def empty : Table α :=
  ⟨[]⟩

def keys (table : Table α) : List Text :=
  table.entries.map Prod.fst

def isEmpty (table : Table α) : Bool :=
  table.entries.isEmpty

def get? (table : Table α) (key : Text) : Option α :=
  table.entries.lookup key

def contains (table : Table α) (key : Text) : Bool :=
  table.keys.contains key

/-- The entries with the key's value replaced, or with the key added at the end. -/
def write (key : Text) (value : α) : List (Text × α) → List (Text × α)
  | [] => [(key, value)]
  | entry :: rest =>
      if entry.1 = key then (key, value) :: rest
      else entry :: write key value rest

def insert (table : Table α) (key : Text) (value : α) : Table α :=
  ⟨write key value table.entries⟩

/-- Writes entries one after the other, so that of several with one key the last one counts. -/
def insertAll (table : Table α) (entries : List (Text × α)) : Table α :=
  entries.foldl (fun written entry => written.insert entry.1 entry.2) table

def ofList (entries : List (Text × α)) : Table α :=
  empty.insertAll entries

end Table

end LatheGloss
