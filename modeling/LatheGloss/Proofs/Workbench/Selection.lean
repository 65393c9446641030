import Mathlib
import LatheGloss.Proofs.CodeBook.Import
import LatheGloss.Proofs.Workbench.Freshness

/-! The selected model. The selector offers the models of the code book in their order; an import
only adds models behind them. So the selected one is found again in its place, and what the settings
have for the default model follows the selection.
-/

namespace LatheGloss

-----------------------------------------------------------------------------------------
-- Models of a merged code book
-----------------------------------------------------------------------------------------

/-- A write leaves all keys in their places. -/
theorem Table.keys_isPrefix_insert {α : Type} (table : Table α) (key : Text) (value : α)
    : table.keys <+: (table.insert key value).keys := by
  rw [keys_insert]
  split
  · exact List.prefix_rfl
  · exact List.prefix_append _ _

namespace CodeBook

/-- Merging adds models behind the others, by induction over those of the supplement. -/
theorem modelNames_isPrefix_merge (book : CodeBook) (supplement : Supplement)
    : book.modelNames <+: (book.merge supplement).modelNames := by
  have models (more : List (Text × List (Text × Text))) (table : Table Layer)
      : table.keys <+: (more.foldl mergeModel table).keys := by
    induction more generalizing table with
    | nil => exact List.prefix_rfl
    | cons model rest ih => exact (table.keys_isPrefix_insert _ _).trans (ih _)
  exact models supplement.models book.models

theorem nodup_modelNames_merge {book : CodeBook} (distinct : book.modelNames.Nodup)
    (supplement : Supplement)
    : (book.merge supplement).modelNames.Nodup := by
  have models (more : List (Text × List (Text × Text))) (table : Table Layer)
      : table.keys.Nodup → (more.foldl mergeModel table).keys.Nodup := by
    induction more generalizing table with
    | nil => exact id
    | cons model rest ih => exact fun known => ih _ (Table.nodup_keys_insert known _ _)
  exact models supplement.models book.models distinct

/-- What is loaded from a file is merged. -/
theorem exists_merge_of_load {book merged : CodeBook} {disk : Disk} {path : Text}
    {notices : List Notice} (loaded : book.load disk path = .ok (merged, notices))
    : ∃ supplement, merged = book.merge supplement := by
  have change := book?_load book disk path
  rw [loaded] at change
  obtain ⟨supplement, -, same⟩ := Option.map_eq_some_iff.mp change.symm
  exact ⟨supplement, same.symm⟩

end CodeBook

-----------------------------------------------------------------------------------------
-- The selector
-----------------------------------------------------------------------------------------

namespace Selector

/-- A model is selected in a place of the list. -/
structure Selects (selector : Selector) (index : Nat) (model : Text) : Prop where
  current : selector.current = some index
  item : selector.items[index]? = some model

theorem Selects.text_eq {selector : Selector} {index : Nat} {model : Text}
    (selects : selector.Selects index model)
    : selector.text = model := by
  rw [text, selects.current, Option.bind_some, selects.item, Option.getD_some]

/-- Of distinct items each is found in its own place. -/
theorem idxOf?_of_getElem? {items : List Text} (distinct : items.Nodup) {index : Nat}
    {model : Text} (item : items[index]? = some model)
    : items.idxOf? model = some index := by
  obtain ⟨bound, here⟩ := List.getElem?_eq_some_iff.mp item
  apply List.idxOf?_eq_some_iff.mpr
  refine ⟨bound, here, ?_⟩
  intro earlier before same
  have places := distinct.getElem_inj_iff.mp (same.trans here.symm)
  omega

theorem selects_of_idxOf? {selector : Selector} {index : Nat} {model : Text}
    (found : selector.items.idxOf? model = some index)
    : (selector.select model).Selects index model := by
  obtain ⟨bound, here, -⟩ := List.idxOf?_eq_some_iff.mp found
  refine ⟨?_, List.getElem?_eq_some_iff.mpr ⟨bound, here⟩⟩
  rw [select, found, Option.some_or]

/-- A model that is offered is selected when it is asked for. -/
theorem exists_selects_of_mem {selector : Selector} {model : Text}
    (offered : model ∈ selector.items)
    : ∃ index, (selector.select model).Selects index model := by
  obtain ⟨index, found⟩ := Option.isSome_iff_exists.mp (List.isSome_idxOf?.mpr offered)
  exact ⟨index, selects_of_idxOf? found⟩

/-- Only a model that is offered moves the selection. -/
theorem mem_of_select_ne {selector : Selector} {model : Text}
    (moved : (selector.select model).current ≠ selector.current)
    : model ∈ selector.items := by
  by_contra absent
  apply moved
  rw [select, List.idxOf?_eq_none_iff.mpr absent, Option.none_or]

/-- The first of new items is selected unless one is already. -/
theorem exists_selects_add_empty {items : List Text} (some : items ≠ [])
    : ∃ index model, (empty.add items).Selects index model := by
  cases items with
  | nil => exact absurd rfl some
  | cons first rest => exact ⟨0, first, rfl, rfl⟩

/-- With items behind the old ones the selection is the same. -/
theorem Selects.refill {selector : Selector} {index : Nat} {model : Text}
    (selects : selector.Selects index model) {items : List Text} (distinct : items.Nodup)
    (grown : selector.items <+: items)
    : (selector.refill items).Selects index model := by
  have item : items[index]? = some model := by
    obtain ⟨added, rfl⟩ := grown
    rw [List.getElem?_append_left (List.getElem?_eq_some_iff.mp selects.item).1]
    exact selects.item
  rw [Selector.refill, selects.text_eq]
  exact selects_of_idxOf? (idxOf?_of_getElem? distinct item)

end Selector

namespace Workbench

-----------------------------------------------------------------------------------------
-- What events make of the selection
-----------------------------------------------------------------------------------------

/-- What an event does with the code book, the selection and the default model. -/
inductive Choice (bench after : Workbench) : Prop where
  | kept (book : after.annotator.book = bench.annotator.book)
      (selector : after.selector = bench.selector)
      (default : after.settings.defaultModel = bench.settings.defaultModel)
  | moved (model : Text) (book : after.annotator.book = bench.annotator.book)
      (offered : model ∈ bench.selector.items)
      (selector : after.selector = bench.selector.select model)
      (default : after.settings.defaultModel = .str model)
  | refilled (supplement : Supplement)
      (book : after.annotator.book = bench.annotator.book.merge supplement)
      (selector : after.selector = bench.selector.refill after.annotator.book.modelNames)
      (default : after.settings.defaultModel = bench.settings.defaultModel)

/-- All three are left alone by most events. -/
theorem Choice.refl (bench : Workbench)
    : Choice bench bench :=
  .kept rfl rfl rfl

theorem choice_loadProgram (bench : Workbench) (disk : Disk) (path : Text)
    : Choice bench (bench.loadProgram disk path).bench := by
  unfold loadProgram
  dsimp only
  split
  · exact .refl bench
  · split
    · exact .kept rfl rfl rfl
    · split
      · exact .refl bench
      · exact .refl bench

theorem choice_selectModel (bench : Workbench) (disk : Disk) (model : Text)
    : Choice bench (bench.selectModel disk model).bench := by
  unfold selectModel
  dsimp only
  split
  · exact .refl bench
  · next other => exact .moved model rfl (Selector.mem_of_select_ne other) rfl rfl

/-- The reply to an import that succeeds. -/
theorem importBook_of_ok {bench : Workbench} {disk : Disk} {path : Text} {annotator : Annotator}
    {notices : List Notice} (given : path ≠ [])
    (done : bench.annotator.importFile disk path = .ok (annotator, notices))
    : (bench.importBook disk path).bench
      = (({ bench with
          annotator,
          selector := bench.selector.refill annotator.book.modelNames,
          settings := { bench.settings with dictionaryPath := .str path }
        } : Workbench).say (.bookImported path)).refresh.1 := by
  have named : path.isEmpty = false := by simpa using given
  unfold importBook
  simp only [named, done, Bool.false_eq_true, if_false]
  rfl

theorem exists_merge_of_importFile {annotator imported : Annotator} {disk : Disk} {path : Text}
    {notices : List Notice} (done : annotator.importFile disk path = .ok (imported, notices))
    : ∃ supplement, imported.book = annotator.book.merge supplement := by
  unfold Annotator.importFile at done
  cases loaded : annotator.book.load disk path with
  | error fault =>
      rw [loaded] at done
      cases done
  | ok change =>
      rw [loaded] at done
      cases done
      exact CodeBook.exists_merge_of_load loaded

theorem choice_of_importFile {bench : Workbench} {disk : Disk} {path : Text} {annotator : Annotator}
    {notices : List Notice} (given : path ≠ [])
    (done : bench.annotator.importFile disk path = .ok (annotator, notices))
    : Choice bench (bench.importBook disk path).bench := by
  obtain ⟨supplement, merged⟩ := exists_merge_of_importFile done
  rw [importBook_of_ok given done]
  exact .refilled supplement merged rfl rfl

theorem choice_importBook (bench : Workbench) (disk : Disk) (path : Text)
    : Choice bench (bench.importBook disk path).bench := by
  by_cases given : path = []
  · subst given
    exact .refl bench
  · cases done : bench.annotator.importFile disk path with
    | ok change => exact choice_of_importFile given done
    | error fault =>
        have named : path.isEmpty = false := by simpa using given
        unfold importBook
        simp only [named, done, Bool.false_eq_true, if_false]
        split
        · exact .refl bench
        · exact .refl bench

theorem choice_exportBook (bench : Workbench) (disk : Disk) (path : Text)
    : Choice bench (bench.exportBook disk path).bench := by
  unfold exportBook
  split
  · dsimp only
    split
    · exact .refl bench
    · split
      · exact .kept rfl rfl rfl
      · split
        · exact .refl bench
        · exact .refl bench
  · exact .refl bench

theorem choice_close (bench : Workbench) (surroundings : Surroundings) (disk : Disk)
    : Choice bench (bench.close surroundings disk).bench := by
  unfold close
  dsimp only
  split
  · exact .kept rfl rfl rfl
  · exact .kept rfl rfl rfl
  · exact .kept rfl rfl rfl

/-- Only selecting and importing do anything, by cases of the event. -/
theorem choice_reply (bench : Workbench) (moment : Moment)
    : Choice bench (bench.reply moment).bench := by
  obtain ⟨surroundings, disk, event⟩ := moment
  cases event with
  | loadProgram path => exact choice_loadProgram bench disk path
  | refresh => exact .kept rfl rfl rfl
  | clear => exact .kept rfl rfl rfl
  | importBook path => exact choice_importBook bench disk path
  | exportBook path => exact choice_exportBook bench disk path
  | selectModel model => exact choice_selectModel bench disk model
  | edit text => exact .kept rfl rfl rfl
  | timeout =>
      unfold reply step
      dsimp only
      split
      · exact .kept rfl rfl rfl
      · exact .refl bench
  | activateRow row => exact .kept rfl rfl rfl
  | gotoLine line => exact .kept rfl rfl rfl
  | markLines lines => exact .kept rfl rfl rfl
  | move geometry => exact .kept rfl rfl rfl
  | close => exact choice_close bench surroundings disk

-----------------------------------------------------------------------------------------
-- The selection along a run
-----------------------------------------------------------------------------------------

/-- The selector offers the models of the code book, which are distinct, and one is selected. -/
structure Attuned (bench : Workbench) : Prop where
  offers : bench.selector.items = bench.annotator.book.modelNames
  distinct : bench.annotator.book.modelNames.Nodup
  selects : ∃ index model, bench.selector.Selects index model

/-- The default model of the settings is the selected one. -/
def FollowsSelection (bench : Workbench) : Prop :=
  bench.settings.defaultModel = .str bench.selector.text

/-- Models are only ever added behind those that are offered, and the selection stays. -/
theorem Attuned.selects_refill {bench : Workbench} (attuned : bench.Attuned)
    (supplement : Supplement) {index : Nat} {model : Text}
    (selects : bench.selector.Selects index model)
    : (bench.selector.refill (bench.annotator.book.merge supplement).modelNames).Selects index
        model := by
  apply selects.refill (CodeBook.nodup_modelNames_merge attuned.distinct supplement)
  rw [attuned.offers]
  exact CodeBook.modelNames_isPrefix_merge _ supplement

theorem Attuned.choice {bench after : Workbench} (attuned : bench.Attuned)
    (choice : Choice bench after)
    : after.Attuned := by
  obtain ⟨index, model, selects⟩ := attuned.selects
  cases choice with
  | kept book selector _ =>
      refine ⟨?_, ?_, index, model, ?_⟩
      · rw [selector, book, attuned.offers]
      · rw [book]
        exact attuned.distinct
      · rw [selector]
        exact selects
  | moved chosen book offered selector _ =>
      obtain ⟨place, found⟩ := Selector.exists_selects_of_mem offered
      refine ⟨?_, ?_, place, chosen, ?_⟩
      · rw [selector, book]
        exact attuned.offers
      · rw [book]
        exact attuned.distinct
      · rw [selector]
        exact found
  | refilled supplement book selector _ =>
      refine ⟨?_, ?_, index, model, ?_⟩
      · rw [selector]
        rfl
      · rw [book]
        exact CodeBook.nodup_modelNames_merge attuned.distinct supplement
      · rw [selector, book]
        exact attuned.selects_refill supplement selects

/-- The default model goes where the selection goes. -/
theorem FollowsSelection.choice {bench after : Workbench} (follows : bench.FollowsSelection)
    (attuned : bench.Attuned) (choice : Choice bench after)
    : after.FollowsSelection := by
  unfold FollowsSelection at follows ⊢
  cases choice with
  | kept _ selector default => rw [default, selector, follows]
  | moved chosen _ offered selector default =>
      obtain ⟨place, found⟩ := Selector.exists_selects_of_mem offered
      rw [default, selector, found.text_eq]
  | refilled supplement book selector default =>
      obtain ⟨index, model, selects⟩ := attuned.selects
      rw [default, selector, book, (attuned.selects_refill supplement selects).text_eq, follows,
        selects.text_eq]

theorem attuned_run {bench : Workbench} (attuned : bench.Attuned) (moments : List Moment)
    : (bench.run moments).Attuned := by
  induction moments generalizing bench with
  | nil => exact attuned
  | cons moment rest ih => exact ih (attuned.choice (choice_reply bench moment))

theorem followsSelection_run {bench : Workbench} (follows : bench.FollowsSelection)
    (attuned : bench.Attuned) (moments : List Moment)
    : (bench.run moments).FollowsSelection := by
  induction moments generalizing bench with
  | nil => exact follows
  | cons moment rest ih =>
      have choice := choice_reply bench moment
      exact ih (follows.choice attuned choice) (attuned.choice choice)

-----------------------------------------------------------------------------------------
-- A new workbench
-----------------------------------------------------------------------------------------

/-- A new workbench has the code book and the settings that it was opened on. -/
theorem start_keeps {annotator : Annotator} {settings : Settings} {bench : Workbench}
    {notices : List Notice} (opened : start annotator settings = .ok (bench, notices))
    : bench.annotator.book = annotator.book
      ∧ bench.selector = initialSelector annotator settings
      ∧ bench.settings = settings := by
  unfold start at opened
  split at opened
  · cases opened
  · cases opened
    exact ⟨rfl, rfl, rfl⟩

theorem items_initialSelector (annotator : Annotator) (settings : Settings)
    : (initialSelector annotator settings).items = annotator.book.modelNames := by
  unfold initialSelector
  dsimp only
  split
  · rfl
  · rfl

theorem exists_selects_initialSelector (annotator : Annotator) (settings : Settings)
    (some : annotator.book.modelNames ≠ [])
    : ∃ index model, (initialSelector annotator settings).Selects index model := by
  obtain ⟨first, model, selects⟩ := Selector.exists_selects_add_empty some
  unfold initialSelector
  dsimp only
  split
  · next chosen _ =>
      by_cases offered : chosen ∈ (Selector.empty.add annotator.book.modelNames).items
      · obtain ⟨place, found⟩ := Selector.exists_selects_of_mem offered
        exact ⟨place, chosen, found⟩
      · refine ⟨first, model, ?_, selects.item⟩
        rw [Selector.select, List.idxOf?_eq_none_iff.mpr offered, Option.none_or, selects.current]
  · exact ⟨first, model, selects⟩

theorem attuned_start {annotator : Annotator} {settings : Settings} {bench : Workbench}
    {notices : List Notice} (opened : start annotator settings = .ok (bench, notices))
    (distinct : annotator.book.modelNames.Nodup) (some : annotator.book.modelNames ≠ [])
    : bench.Attuned := by
  obtain ⟨book, selector, -⟩ := start_keeps opened
  refine ⟨?_, ?_, ?_⟩
  · rw [selector, book, items_initialSelector]
  · rwa [book]
  · rw [selector]
    exact exists_selects_initialSelector annotator settings some

/-- A default model that is offered is the first to be selected. -/
theorem followsSelection_start {annotator : Annotator} {settings : Settings} {bench : Workbench}
    {notices : List Notice} (opened : start annotator settings = .ok (bench, notices))
    {model : Text} (default : settings.defaultModel = .str model)
    (offered : model ∈ annotator.book.modelNames)
    : bench.FollowsSelection := by
  obtain ⟨-, selector, same⟩ := start_keeps opened
  have initial : settings.initialModel annotator.book.modelNames = .str model := by
    have known : settings.knowsDefault annotator.book.modelNames = true := by
      simpa [Settings.knowsDefault, default] using offered
    unfold Settings.initialModel
    rw [if_pos known, default]
  have listed : model ∈ (Selector.empty.add annotator.book.modelNames).items := offered
  obtain ⟨place, found⟩ := Selector.exists_selects_of_mem listed
  rw [FollowsSelection, selector, same, default, initialSelector]
  simp only [initial]
  rw [found.text_eq]

/-- A workbench on a code book with distinct models offers the models of its code book at any time.
An import that succeeds adds models behind those that are offered, leaves the same one selected in
its place and does not report a selection. If the default model was offered at the start, it is the
selected one after any events, whatever files they come upon and whether or not they end in a fault.
-/
theorem run_keepsSelection {annotator : Annotator} {settings : Settings} {bench : Workbench}
    {notices : List Notice} (opened : start annotator settings = .ok (bench, notices))
    (distinct : annotator.book.modelNames.Nodup) (some : annotator.book.modelNames ≠ [])
    (moments : List Moment)
    : let reached := bench.run moments
      reached.selector.items = reached.annotator.book.modelNames
      ∧ (∃ index model, reached.selector.Selects index model)
      ∧ (∀ surroundings disk path imported,
          path ≠ []
          → reached.annotator.importFile disk path = .ok imported
          → let after := (reached.reply ⟨surroundings, disk, .importBook path⟩).bench
            reached.selector.items <+: after.selector.items
            ∧ after.selector.items = after.annotator.book.modelNames
            ∧ after.selector.current = reached.selector.current
            ∧ after.selector.text = reached.selector.text
            ∧ after.console = reached.console ++ [.bookImported path]
            ∧ after.settings.defaultModel = reached.settings.defaultModel)
      ∧ ∀ model,
          settings.defaultModel = .str model
          → model ∈ annotator.book.modelNames
          → reached.settings.defaultModel = .str reached.selector.text := by
  intro reached
  have attunedStart := attuned_start opened distinct some
  have attuned : reached.Attuned := attuned_run attunedStart moments
  refine ⟨attuned.offers, attuned.selects, ?_, ?_⟩
  · intro surroundings disk path ⟨annotator, notices⟩ given done after
    obtain ⟨supplement, merged⟩ := exists_merge_of_importFile done
    obtain ⟨index, model, selects⟩ := attuned.selects
    have ends := importBook_of_ok given done
    have book : after.annotator.book = reached.annotator.book.merge supplement :=
      (congrArg (·.annotator.book) ends).trans merged
    have selector : after.selector = reached.selector.refill after.annotator.book.modelNames := by
      rw [book, ← merged]
      exact congrArg Workbench.selector ends
    have still : after.selector.Selects index model := by
      rw [selector, book]
      exact attuned.selects_refill supplement selects
    have offers : after.selector.items = after.annotator.book.modelNames := by
      rw [selector]
      rfl
    refine ⟨?_, offers, ?_, ?_, ?_, ?_⟩
    · rw [offers, book, attuned.offers]
      exact CodeBook.modelNames_isPrefix_merge _ supplement
    · rw [still.current, selects.current]
    · rw [still.text_eq, selects.text_eq]
    · exact congrArg Workbench.console ends
    · exact congrArg (·.settings.defaultModel) ends
  · intro model default offered
    have follows := followsSelection_start opened default offered
    exact followsSelection_run follows attunedStart moments

/-- The document names a new model before the selected one. -/
theorem run_keepsSelection_newModel
    : let book : CodeBook := .ofSupplement ⟨[], [("A", []), ("B", [])]⟩
      let settings : Settings := { Settings.default with defaultModel := .str "B" }
      let text : Text :=
        "\x7b\"modelDicts\": \x7b\"C\": \x7b\x7d, \"B\": \x7b\x7d\x7d\x7d"
      let disk : Disk := ⟨[([Text.Utf8.bytes "d"], .file (Text.Utf8.bytes text))]⟩
      let moment : Moment := ⟨⟨"h", "t", none⟩, disk, .importBook "d"⟩
      book.modelNames.Nodup ∧ book.modelNames ≠ []
      ∧ (∃ change, book.load disk "d" = .ok change)
      ∧ ∃ bench notices,
          start (.ofCodeBook book) settings = .ok (bench, notices)
          ∧ bench.selector.items <+: (bench.reply moment).bench.selector.items
          ∧ (bench.reply moment).bench.selector.text = bench.selector.text
          ∧ (bench.run [moment]).settings.defaultModel
            = .str (bench.run [moment]).selector.text := by
  intro book settings text disk moment
  have distinct : book.modelNames.Nodup := by decide +kernel
  have some : book.modelNames ≠ [] := by decide +kernel
  have offered : ↑ "B" ∈ book.modelNames := by decide +kernel
  have loads : (book.load disk "d").toOption.isSome = true := by decide +kernel
  obtain ⟨change, loaded⟩ := CodeBook.exists_toOption_iff.mp (Option.isSome_iff_exists.mp loads)
  have valid : Settings.validGeometry settings.windowGeometry = true := rfl
  obtain ⟨before, started⟩ := start_eq_refresh (.ofCodeBook book) valid
  generalize before.refresh = opened at started
  obtain ⟨bench, notices⟩ := opened
  have imported : bench.annotator.importFile disk "d"
      = .ok (bench.annotator.withBook change) := by
    rw [Annotator.importFile, (start_keeps started).1]
    exact congrArg (Except.map bench.annotator.withBook) loaded
  obtain ⟨-, -, imports, -⟩ := run_keepsSelection started distinct some []
  obtain ⟨-, -, -, follows⟩ := run_keepsSelection started distinct some [moment]
  obtain ⟨grown, -, -, same, -, -⟩ := imports ⟨"h", "t", none⟩ disk _ _ (by decide) imported
  exact ⟨distinct, some, ⟨change, loaded⟩, bench, notices, started, grown, same,
    follows "B" rfl offered⟩

end Workbench

end LatheGloss
