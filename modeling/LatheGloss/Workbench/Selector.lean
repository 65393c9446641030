import LatheGloss.Text.Basic

/-! The model selector of the workbench: a list of models, one of which is selected unless there
are none.
-/

namespace LatheGloss

structure Selector where
  items : List Text
  current : Option Nat
  deriving DecidableEq

namespace Selector

def empty : Selector :=
  ⟨[], none⟩

/-- The selected item; no text if there is none. -/
def text (selector : Selector) : Text :=
  (selector.current.bind fun index => selector.items[index]?).getD []

/-- Adds items; the first one is selected if none was. -/
def add (selector : Selector) (items : List Text) : Selector :=
  let items := selector.items ++ items
  ⟨items, selector.current.or (if items.isEmpty then none else some 0)⟩

/-- Selects the first item with a text, if there is one. -/
def select (selector : Selector) (text : Text) : Selector :=
  { selector with current := (selector.items.idxOf? text).or selector.current }

/-- Replaces the items and keeps the selected text where it is still there. -/
def refill (selector : Selector) (items : List Text) : Selector :=
  (empty.add items).select selector.text

end Selector

end LatheGloss
