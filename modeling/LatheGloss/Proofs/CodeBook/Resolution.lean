import Mathlib
import LatheGloss.Proofs.CodeBook.LastWrites
import LatheGloss.Proofs.Program.Gloss

/-! Words that a merge makes known. As long as a supplement holds no empty description, merging it
can only make commands known that were not, and never hides one that was: the unknown words of a
line after the merge are those before it, without the commands that have a description now.
-/

namespace LatheGloss

/-- The supplement has a description of the code that concerns the model, be it in the model's own
layer or in the common one.
-/
def Supplement.Names (supplement : Supplement) (model : Option Text) (code : Text) : Prop :=
  ∃ writing ∈ supplement.writings,
    writing.code = code ∧ (writing.model = none ∨ writing.model = model)

/-- The word has the shape of a command, and a description. -/
def IsDescribedCode (describe : Text → Option Text) (word : Text) : Prop :=
  Program.IsCode word ∧ (describe word).isSome = true

instance (describe : Text → Option Text) (word : Text)
    : Decidable (IsDescribedCode describe word) :=
  inferInstanceAs (Decidable (_ ∧ _))

namespace CodeBook

open Program

variable {book : CodeBook} {writings : List Writing} {mentions : List Text}

-----------------------------------------------------------------------------------------
-- Descriptions before and after a merge
-----------------------------------------------------------------------------------------

theorem textFor_append_of_not_names {supplement : Supplement} {model : Option Text} {code : Text}
    (unnamed : ¬supplement.Names model code) (writings : List Writing)
    : Writing.textFor model code (writings ++ supplement.writings)
      = Writing.textFor model code writings := by
  have none : Writing.lastText none code supplement.writings = none :=
    Writing.lastText_eq_none_iff.mpr fun writing member place =>
      unnamed ⟨writing, member, place.2, .inl place.1⟩
  have own (name : Text) (same : model = some name)
      : Writing.lastText (some name) code supplement.writings = Option.none :=
    Writing.lastText_eq_none_iff.mpr fun writing member place =>
      unnamed ⟨writing, member, place.2, .inr (place.1.trans same.symm)⟩
  cases model with
  | none => simp [Writing.textFor, Writing.lastText_append, none]
  | some name => simp [Writing.textFor, Writing.lastText_append, none, own name rfl]

theorem MadeOf.describe_merge_of_not_names (made : MadeOf book writings mentions)
    {supplement : Supplement} {model : Option Text} {code : Text}
    (unnamed : ¬supplement.Names model code)
    : (book.merge supplement).describe model code = book.describe model code := by
  rw [(made.merge supplement).describe_eq, made.describe_eq, textFor_append_of_not_names unnamed]

/-- Texts that are not empty, put over others layer by layer, leave something that is not empty
where there was such a text.
-/
theorem exists_or_or {own common newOwn newCommon : Option Text}
    (newOwnFull : ∀ text ∈ newOwn, text ≠ []) (newCommonFull : ∀ text ∈ newCommon, text ≠ [])
    (known : ∃ text ∈ own.or common, text ≠ [])
    : ∃ text ∈ (newOwn.or own).or (newCommon.or common), text ≠ [] := by
  cases newOwn with
  | some text => exact ⟨text, rfl, newOwnFull text rfl⟩
  | none =>
      cases own with
      | some text => exact known
      | none =>
          cases newCommon with
          | some text => exact ⟨text, rfl, newCommonFull text rfl⟩
          | none => exact known

theorem isSome_filter_iff {text? : Option Text}
    : (text?.filter (!·.isEmpty)).isSome = true ↔ ∃ text ∈ text?, text ≠ [] := by
  cases text? <;> simp [Option.filter, apply_ite Option.isSome]

/-- A code that had a description still has one after descriptions were merged that are not empty.
-/
theorem MadeOf.isSome_describe_merge (made : MadeOf book writings mentions)
    {supplement : Supplement} (full : ∀ writing ∈ supplement.writings, writing.text ≠ [])
    {model : Option Text} {code : Text} (known : (book.describe model code).isSome = true)
    : ((book.merge supplement).describe model code).isSome = true := by
  have new (layer : Option Text)
      : ∀ text ∈ Writing.lastText layer code supplement.writings, text ≠ [] := by
    intro text found
    obtain ⟨writing, member, -, -, rfl⟩ := Writing.exists_of_lastText found
    exact full writing member
  rw [made.describe_eq, isSome_filter_iff, Writing.textFor] at known
  rw [(made.merge supplement).describe_eq, isSome_filter_iff, Writing.textFor,
    Writing.lastText_append]
  cases model with
  | none =>
      have none : ∀ text ∈ (Option.none : Option Text), text ≠ [] := fun _ found => nomatch found
      exact exists_or_or none (new Option.none) known
  | some name =>
      rw [Option.bind_some, Writing.lastText_append]
      exact exists_or_or (new (some name)) (new none) known

-----------------------------------------------------------------------------------------
-- Unknown words before and after a merge
-----------------------------------------------------------------------------------------

theorem MadeOf.isUnknownWord_merge (made : MadeOf book writings mentions)
    {supplement : Supplement} (full : ∀ writing ∈ supplement.writings, writing.text ≠ [])
    (model : Option Text) (word : Text)
    : isUnknownWord ((book.merge supplement).describe model) word
      = (!decide (IsDescribedCode ((book.merge supplement).describe model) (Text.upper word))
        && isUnknownWord (book.describe model) word) := by
  by_cases shape : IsCode (Text.upper word)
  · have described
        : decide (IsDescribedCode ((book.merge supplement).describe model) (Text.upper word))
          = ((book.merge supplement).describe model (Text.upper word)).isSome := by
      simp [IsDescribedCode, shape]
    have kept (known : (book.describe model (Text.upper word)).isSome = true)
        : ((book.merge supplement).describe model (Text.upper word)).isSome = true :=
      made.isSome_describe_merge full known
    rw [isUnknownWord_of_isCode shape, isUnknownWord_of_isCode shape, described]
    cases before : book.describe model (Text.upper word) with
    | none => rw [Option.isNone_none, Bool.and_true, Option.not_isSome]
    | some text =>
        rw [before] at kept
        simp [kept rfl]
  · rw [isUnknownWord_congr shape _ (book.describe model)]
    simp [IsDescribedCode, shape]

theorem MadeOf.phrase?_merge (made : MadeOf book writings mentions) {supplement : Supplement}
    {model : Option Text} {token : Token}
    (unnamed : ∀ code, token = .command code → ¬supplement.Names model code)
    : Gloss.phrase? ((book.merge supplement).describe model) token
      = Gloss.phrase? (book.describe model) token := by
  cases token with
  | command code =>
      rw [Gloss.phrase?, Gloss.phrase?, made.describe_merge_of_not_names (unnamed code rfl)]
  | _ => rfl

/-- Merging descriptions that are not empty takes from the unknown words of a line the commands that
have a description then, and does nothing else to them. The gloss of the line keeps its parameters,
and of its phrases all but those for commands that the supplement names.
-/
theorem unknowns_merge (initial : Supplement) (calls : List Call) (supplement : Supplement)
    (full : ∀ writing ∈ supplement.writings, writing.text ≠ []) (model : Option Text) (line : Text)
    : let book := (ofSupplement initial).run calls
      let before := book.describe model
      let after := (book.merge supplement).describe model
      let tokens := (words line).map classify
      (Gloss.ofLine after line).unknowns
        = (Gloss.ofLine before line).unknowns.filter (¬IsDescribedCode after ·)
      ∧ ((Gloss.ofLine before line).hasUnknown = false
        → (Gloss.ofLine after line).hasUnknown = false)
      ∧ ∃ parameters,
          (Gloss.ofLine before line).text
            = Gloss.joinParts (tokens.filterMap (Gloss.phrase? before)) parameters
          ∧ (Gloss.ofLine after line).text
            = Gloss.joinParts (tokens.filterMap (Gloss.phrase? after)) parameters
          ∧ ∀ token ∈ tokens,
              (∀ code, token = .command code → ¬supplement.Names model code)
              → Gloss.phrase? after token = Gloss.phrase? before token := by
  intro book before after tokens
  have made : MadeOf book (writings initial calls) (mentions initial calls) :=
    madeOf_run initial calls
  have filtered
      : (Gloss.ofLine after line).unknowns
        = (Gloss.ofLine before line).unknowns.filter (¬IsDescribedCode after ·) := by
    rw [Gloss.ofLine, Gloss.ofLine, unknowns_ofWords, unknowns_ofWords, List.filter_map,
      List.filter_filter]
    refine congrArg _ (List.filter_congr fun word _ => ?_)
    rw [made.isUnknownWord_merge full, Function.comp_apply, decide_not]
  refine ⟨filtered, ?_, _, rfl, rfl, fun token _ unnamed => made.phrase?_merge unnamed⟩
  intro known
  have none : (Gloss.ofLine before line).unknowns = [] := by simpa [Gloss.hasUnknown] using known
  simp [Gloss.hasUnknown, filtered, none]

/-- An empty description of the model hides the common one for M1 before the merge and after it. -/
theorem unknowns_merge_hidden
    : let initial : Supplement :=
        ⟨[("M1", ['a'])], [("A", [("m1", []), ("M3", ['c'])])]⟩
      let supplement : Supplement := ⟨[("m2", ['b']), ("M1", ['d'])], []⟩
      let book := (ofSupplement initial).run []
      let model : Option Text := some "A"
      let before := book.describe model
      let after := (book.merge supplement).describe model
      let line : Text := "m1 M2 T1 M2 M3 M1"
      (∀ writing ∈ supplement.writings, writing.text ≠ [])
      ∧ (Gloss.ofLine before line).unknowns
        = (["M1", "M2", "T1", "M2", "M1"] : List Text)
      ∧ (Gloss.ofLine after line).unknowns = (["M1", "T1", "M1"] : List Text)
      ∧ ¬supplement.Names model "M3"
      ∧ Gloss.phrase? after (.command "M3")
        = Gloss.phrase? before (.command "M3") := by
  intro initial supplement book model before after line
  have full : ∀ writing ∈ supplement.writings, writing.text ≠ [] := by decide +kernel
  have unnamed : ¬supplement.Names model "M3" := by
    unfold Supplement.Names
    decide +kernel
  have known
      : (Gloss.ofLine before line).unknowns
        = (["M1", "M2", "T1", "M2", "M1"] : List Text) := by
    decide +kernel
  obtain ⟨unknowns, -, -, -, -, phrases⟩ := unknowns_merge initial [] supplement full model line
  refine ⟨full, known, ?_, unnamed, ?_⟩
  · refine unknowns.trans ?_
    rw [known]
    decide +kernel
  · refine phrases _ (by decide +kernel) fun code same => ?_
    obtain rfl := Token.command.inj same
    exact unnamed

end CodeBook

end LatheGloss
