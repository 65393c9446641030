import Mathlib
import LatheGloss.Program.Gloss
import LatheGloss.Proofs.CodeBook.LastWrites

/-! Merges in any order. Supplements that have no code of a layer with different texts can be merged
in whatever order: every code book that comes of it has all their descriptions and mentions the same
models, and every line has one gloss with all of them.
-/

namespace LatheGloss

namespace Supplement

/-- The text that a supplement has for a code in a layer. Of several the last one counts. -/
def text? (supplement : Supplement) (model : Option Text) (code : Text) : Option Text :=
  Writing.lastText model code supplement.writings

/-- No code of a layer has different texts in two supplements. -/
def Agrees (left right : Supplement) : Prop :=
  ∀ model code, ∀ text ∈ left.text? model code, ∀ other ∈ right.text? model code, text = other

theorem agrees_refl (supplement : Supplement)
    : supplement.Agrees supplement :=
  fun _ _ _ found _ foundOther => Option.mem_unique found foundOther

instance : Std.Symm Agrees where
  symm _ _ agrees model code text found other foundOther :=
    (agrees model code other foundOther text found).symm

/-- Only the codes that are written by the first supplement have to be looked at. -/
theorem agrees_iff {left right : Supplement}
    : left.Agrees right
      ↔ ∀ writing ∈ left.writings,
          right.text? writing.model writing.code = none
          ∨ right.text? writing.model writing.code = left.text? writing.model writing.code := by
  constructor
  · intro agrees writing member
    cases foundRight : right.text? writing.model writing.code with
    | none => exact .inl rfl
    | some other =>
        cases foundLeft : left.text? writing.model writing.code with
        | none =>
            exact absurd ⟨rfl, rfl⟩ (Writing.lastText_eq_none_iff.mp foundLeft writing member)
        | some text => exact .inr (congrArg some (agrees _ _ text foundLeft other foundRight).symm)
  · intro same model code text found other foundOther
    obtain ⟨writing, member, rfl, rfl, -⟩ := Writing.exists_of_lastText found
    rcases same writing member with none | equal
    · rw [Option.mem_def, none] at foundOther
      cases foundOther
    · exact Option.mem_unique found (equal ▸ foundOther)

instance (left right : Supplement) : Decidable (left.Agrees right) :=
  decidable_of_iff _ agrees_iff.symm

end Supplement

namespace CodeBook

variable {supplements : List Supplement}

-----------------------------------------------------------------------------------------
-- Texts of several supplements
-----------------------------------------------------------------------------------------

theorem lastText_flatMap_eq_none_iff {model : Option Text} {code : Text}
    : Writing.lastText model code (supplements.flatMap Supplement.writings) = none
      ↔ ∀ supplement ∈ supplements, supplement.text? model code = none := by
  simp only [Supplement.text?, Writing.lastText_eq_none_iff, List.mem_flatMap]
  exact ⟨fun h supplement member writing inside => h writing ⟨supplement, member, inside⟩,
    fun h writing ⟨supplement, member, inside⟩ => h supplement member writing inside⟩

/-- What was written last came with one of the supplements, by induction over them. -/
theorem exists_text?_of_lastText_flatMap {model : Option Text} {code text : Text}
    (found : Writing.lastText model code (supplements.flatMap Supplement.writings) = some text)
    : ∃ supplement ∈ supplements, supplement.text? model code = some text := by
  induction supplements with
  | nil => cases found
  | cons supplement rest ih =>
      rw [List.flatMap_cons, Writing.lastText_append, Option.or_eq_some_iff] at found
      rcases found with later | ⟨-, here⟩
      · obtain ⟨other, member, foundOther⟩ := ih later
        exact ⟨other, List.mem_cons_of_mem _ member, foundOther⟩
      · exact ⟨supplement, List.mem_cons_self, here⟩

/-- Where no two supplements differ, any of them has what was written last. -/
theorem lastText_flatMap_eq_some_iff
    (agree : ∀ left ∈ supplements, ∀ right ∈ supplements, left.Agrees right)
    {model : Option Text} {code text : Text}
    : Writing.lastText model code (supplements.flatMap Supplement.writings) = some text
      ↔ ∃ supplement ∈ supplements, supplement.text? model code = some text := by
  refine ⟨exists_text?_of_lastText_flatMap, ?_⟩
  rintro ⟨supplement, member, found⟩
  cases last : Writing.lastText model code (supplements.flatMap Supplement.writings) with
  | none =>
      rw [lastText_flatMap_eq_none_iff.mp last supplement member] at found
      cases found
  | some other =>
      obtain ⟨source, sourceMember, foundOther⟩ := exists_text?_of_lastText_flatMap last
      rw [agree supplement member source sourceMember model code text found other foundOther]

theorem lastText_flatMap_of_perm {order : List Supplement} (perm : order.Perm supplements)
    (agree : ∀ left ∈ supplements, ∀ right ∈ supplements, left.Agrees right)
    (model : Option Text) (code : Text)
    : Writing.lastText model code (order.flatMap Supplement.writings)
      = Writing.lastText model code (supplements.flatMap Supplement.writings) := by
  have agreeInOrder : ∀ left ∈ order, ∀ right ∈ order, left.Agrees right :=
    fun left leftMember right rightMember =>
      agree left (perm.mem_iff.mp leftMember) right (perm.mem_iff.mp rightMember)
  refine Option.ext fun text => ?_
  rw [lastText_flatMap_eq_some_iff agreeInOrder, lastText_flatMap_eq_some_iff agree]
  simp only [perm.mem_iff]

-----------------------------------------------------------------------------------------
-- Merges one after the other
-----------------------------------------------------------------------------------------

theorem MadeOf.run_merges {book : CodeBook} {writings : List Writing} {mentions : List Text}
    (made : MadeOf book writings mentions) (supplements : List Supplement)
    : MadeOf (book.run (supplements.map .merge))
        (writings ++ supplements.flatMap Supplement.writings)
        (mentions ++ supplements.flatMap Supplement.mentions) := by
  have merged : (supplements.map Call.merge).filterMap Call.supplement? = supplements := by
    rw [List.filterMap_map]
    exact List.filterMap_some
  rw [run_eq_foldl_merge, merged]
  exact made.foldl_merge supplements

/-- Merging supplements of which no two have a code of a layer with different texts comes to the
same in every order. Every code has the same description for every model, the same models are known,
every description of every supplement is in its layer, and every line has the same gloss.
-/
theorem run_merges_of_perm (initial : Supplement) (calls : List Call)
    (supplements : List Supplement) (agree : supplements.Pairwise Supplement.Agrees)
    (order : List Supplement) (perm : order.Perm supplements)
    : let book := (ofSupplement initial).run calls
      let merged := book.run (supplements.map .merge)
      let mergedInOrder := book.run (order.map .merge)
      (∀ code model, mergedInOrder.lookup code model = merged.lookup code model)
      ∧ (∀ name, name ∈ mergedInOrder.modelNames ↔ name ∈ merged.modelNames)
      ∧ (∀ supplement ∈ supplements,
          ∀ model code text,
            supplement.text? model code = some text
            → (mergedInOrder.layer model).get? code = some text)
      ∧ ∀ model line,
          Program.Gloss.ofLine (mergedInOrder.describe model) line
          = Program.Gloss.ofLine (merged.describe model) line := by
  intro book merged mergedInOrder
  have made : MadeOf book (writings initial calls) (mentions initial calls) :=
    madeOf_run initial calls
  have agreeAll : ∀ left ∈ supplements, ∀ right ∈ supplements, left.Agrees right :=
    agree.forall_of_forall fun supplement _ => supplement.agrees_refl
  have texts (model : Option Text) (code : Text)
      : Writing.textFor model code
          (writings initial calls ++ order.flatMap Supplement.writings)
        = Writing.textFor model code
            (writings initial calls ++ supplements.flatMap Supplement.writings) := by
    simp only [Writing.textFor, Writing.lastText_append, lastText_flatMap_of_perm perm agreeAll]
  refine ⟨?_, ?_, ?_, ?_⟩
  · intro code model
    rw [(made.run_merges order).lookup_eq, (made.run_merges supplements).lookup_eq, texts]
  · intro name
    rw [modelNames, modelNames, (made.run_merges order).models.names,
      (made.run_merges supplements).models.names, List.mem_eraseDups, List.mem_eraseDups,
      List.mem_append, List.mem_append, List.mem_flatMap, List.mem_flatMap]
    simp only [perm.mem_iff]
  · intro supplement member model code text found
    have last : Writing.lastText model code (supplements.flatMap Supplement.writings) = some text :=
      (lastText_flatMap_eq_some_iff agreeAll).mpr ⟨supplement, member, found⟩
    rw [(made.run_merges order).get?_layer, Writing.lastText_append,
      lastText_flatMap_of_perm perm agreeAll, last]
    rfl
  · intro model line
    have same : mergedInOrder.describe model = merged.describe model := by
      funext code
      rw [(made.run_merges order).describe_eq, (made.run_merges supplements).describe_eq, texts]
    rw [same]

/-- A supplement may have several texts for one code as long as the last of them is the one that the
others have.
-/
theorem run_merges_of_perm_sharpS
    : let initial : Supplement := ⟨[("SS", ['a'])], []⟩
      let first : Supplement := ⟨[("ß", ['b']), ("ss", ['c'])], []⟩
      let second : Supplement := ⟨[("SS", ['c'])], [("A", [("m1", ['d'])])]⟩
      let third : Supplement := ⟨[], [("B", []), ("A", [("M1", ['d'])])]⟩
      let book := ofSupplement initial
      let mergedInOrder := book.run ([third, second, first].map .merge)
      [first, second, third].Pairwise Supplement.Agrees
      ∧ [third, second, first].Perm [first, second, third]
      ∧ first.text? none "SS" = some (['c'] : Text)
      ∧ (mergedInOrder.layer none).get? "SS" = some (['c'] : Text)
      ∧ mergedInOrder.modelNames ≠ (book.run ([first, second, third].map .merge)).modelNames
      ∧ ∀ line,
          Program.Gloss.ofLine (mergedInOrder.describe (some "A")) line
          = Program.Gloss.ofLine
              ((book.run ([first, second, third].map .merge)).describe (some "A")) line := by
  intro initial first second third book mergedInOrder
  have agree : [first, second, third].Pairwise Supplement.Agrees := by decide +kernel
  have perm : [third, second, first].Perm [first, second, third] :=
    List.reverse_perm [first, second, third]
  have counts : first.text? none "SS" = some (['c'] : Text) := by decide +kernel
  obtain ⟨-, -, kept, glosses⟩ :=
    run_merges_of_perm initial [] [first, second, third] agree [third, second, first] perm
  exact ⟨agree, perm, counts, kept first (by simp) none _ _ counts, by decide +kernel,
    glosses (some "A")⟩

end CodeBook

end LatheGloss
