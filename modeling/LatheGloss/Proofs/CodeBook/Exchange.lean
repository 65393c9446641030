import Mathlib
import LatheGloss.Proofs.CodeBook.LastWrites
import LatheGloss.Proofs.Disk.TextFile
import LatheGloss.Proofs.Json.Characters

/-! What a code book exports is imported as that code book. Its codes are distinct and stay as
they are when they are written again, so an import into an empty code book puts every description
in its old place, and an import into the same code book moves nothing.
-/

namespace LatheGloss

/-- Codes that stand for themselves: none comes twice, and none changes in uppercase. -/
structure Layer.Settled (layer : Layer) : Prop where
  distinct : layer.keys.Nodup
  uppercase : ∀ code ∈ layer.keys, Text.upper code = code

namespace CodeBook

/-- All layers are settled, and no model comes twice. -/
structure Settled (book : CodeBook) : Prop where
  base : book.base.Settled
  names : book.models.keys.Nodup
  models : ∀ model ∈ book.models.entries, model.2.Settled

/-- All that a code book describes. -/
def supplement (book : CodeBook) : Supplement where
  base := book.base.entries
  models := book.models.entries.map fun (name, layer) => (name, layer.entries)

-----------------------------------------------------------------------------------------
-- Code books that are reached are settled
-----------------------------------------------------------------------------------------

/-- What is kept of the rest does not hold the first one again, by induction over the length. -/
theorem nodup_eraseDups
    : ∀ codes : List Text, codes.eraseDups.Nodup
  | [] => List.nodup_nil
  | code :: rest => by
      rw [List.eraseDups_cons]
      have absent : code ∉ (rest.filter fun other => !other == code).eraseDups := by
        simp [List.mem_eraseDups]
      exact List.nodup_cons.mpr ⟨absent, nodup_eraseDups _⟩
  termination_by codes => codes.length
  decreasing_by exact Nat.lt_succ_of_le (List.length_filter_le _ _)

theorem settled_layer (initial : Supplement) (calls : List Call) (model : Option Text)
    : (((ofSupplement initial).run calls).layer model).Settled := by
  have made := madeOf_run initial calls
  refine ⟨made.nodup_keys_layer model, ?_⟩
  rw [made.keys_layer]
  exact fun code member => upper_of_mem_firstCodes member

theorem settled_run (initial : Supplement) (calls : List Call)
    : ((ofSupplement initial).run calls).Settled := by
  have names : ((ofSupplement initial).run calls).models.keys.Nodup := by
    rw [(madeOf_run initial calls).models.names]
    exact nodup_eraseDups _
  refine ⟨settled_layer initial calls none, names, ?_⟩
  rintro ⟨name, own⟩ member
  have settled := settled_layer initial calls (some name)
  rwa [layer, Table.get?_of_mem names member] at settled

-----------------------------------------------------------------------------------------
-- Merging what a settled code book describes
-----------------------------------------------------------------------------------------

theorem map_upper_entries {layer : Layer} (settled : layer.Settled)
    : (layer.entries.map fun (code, text) => (Text.upper code, text)) = layer.entries := by
  have same : ∀ entry ∈ layer.entries, (Text.upper entry.1, entry.2) = entry := by
    intro entry member
    rw [settled.uppercase entry.1 (List.mem_map_of_mem member)]
  exact (List.map_congr_left same).trans (List.map_id' _)

theorem write_entries {layer : Layer} (settled : layer.Settled)
    : layer.write layer.entries = layer := by
  rw [Layer.write, map_upper_entries settled, Table.insertAll_entries settled.distinct]

theorem write_empty {layer : Layer} (settled : layer.Settled)
    : Layer.write .empty layer.entries = layer := by
  rw [Layer.write, map_upper_entries settled, Table.empty_insertAll settled.distinct]

/-- Models that were not mentioned before come behind the others, by induction over them. -/
theorem foldl_mergeModel_new {models : Table Layer} {more : List (Text × Layer)}
    (distinct : (models.keys ++ more.map Prod.fst).Nodup)
    (settled : ∀ model ∈ more, model.2.Settled)
    : (more.map fun (name, layer) => (name, layer.entries)).foldl mergeModel models
      = ⟨models.entries ++ more⟩ := by
  induction more generalizing models with
  | nil => simp
  | cons model rest ih =>
      obtain ⟨name, own⟩ := model
      have absent : name ∉ models.keys := by
        intro member
        exact (List.nodup_append.mp distinct).2.2 name member name (by simp) rfl
      have merged : mergeModel models (name, own.entries) = ⟨models.entries ++ [(name, own)]⟩ := by
        rw [mergeModel, Table.get?_eq_none_iff.mpr absent, Option.getD_none,
          write_empty (settled (name, own) List.mem_cons_self), Table.insert,
          Table.write_of_not_mem absent]
      rw [List.map_cons, List.foldl_cons, merged, ih]
      · rw [List.append_assoc, List.singleton_append]
      · simpa [Table.keys] using distinct
      · exact fun model member => settled model (List.mem_cons_of_mem _ member)

/-- Models that are described as they are already change nothing, by induction over them. -/
theorem foldl_mergeModel_same {models : Table Layer} (distinct : models.keys.Nodup)
    {more : List (Text × Layer)} (known : ∀ model ∈ more, model ∈ models.entries)
    (settled : ∀ model ∈ more, model.2.Settled)
    : (more.map fun (name, layer) => (name, layer.entries)).foldl mergeModel models = models := by
  induction more with
  | nil => rfl
  | cons model rest ih =>
      obtain ⟨name, own⟩ := model
      have found := Table.get?_of_mem distinct (known (name, own) List.mem_cons_self)
      have merged : mergeModel models (name, own.entries) = models := by
        rw [mergeModel, found, Option.getD_some,
          write_entries (settled (name, own) List.mem_cons_self), Table.insert_eq_self found]
      rw [List.map_cons, List.foldl_cons, merged]
      exact ih (fun model member => known model (List.mem_cons_of_mem _ member))
        (fun model member => settled model (List.mem_cons_of_mem _ member))

theorem Settled.merge_empty {book : CodeBook} (settled : book.Settled)
    : empty.merge book.supplement = book := by
  have base : (Layer.write .empty book.base.entries) = book.base := write_empty settled.base
  have distinct : ((Table.empty : Table Layer).keys ++ book.models.entries.map Prod.fst).Nodup :=
    settled.names
  have models := foldl_mergeModel_new distinct settled.models
  have merged : empty.merge book.supplement = ⟨book.base, ⟨[] ++ book.models.entries⟩⟩ :=
    congrArg₂ CodeBook.mk base models
  exact merged

theorem Settled.merge_self {book : CodeBook} (settled : book.Settled)
    : book.merge book.supplement = book := by
  have models := foldl_mergeModel_same settled.names (fun model member => member) settled.models
  exact congrArg₂ CodeBook.mk (write_entries settled.base) models

-----------------------------------------------------------------------------------------
-- Documents
-----------------------------------------------------------------------------------------

theorem descriptions_ofLayer (offence : Text → Document.Offence) (entries : List (Text × Text))
    : Document.descriptions offence (entries.map fun (code, text) => (code, .str text))
      = .ok entries := by
  unfold Document.descriptions
  induction entries with
  | nil => rfl
  | cons entry rest ih =>
      rw [List.map_cons, List.mapM_cons, ih]
      rfl

theorem mapM_modelDescriptions (models : List (Text × Layer))
    : (models.map fun (name, layer) => (name, Document.ofLayer layer)).mapM
        Document.modelDescriptions
      = .ok (models.map fun (name, layer) => (name, layer.entries)) := by
  induction models with
  | nil => rfl
  | cons model rest ih =>
      obtain ⟨name, own⟩ := model
      have described : Document.modelDescriptions (name, Document.ofLayer own)
          = .ok (name, own.entries) := by
        rw [Document.ofLayer, Document.modelDescriptions, descriptions_ofLayer]
        rfl
      rw [List.map_cons, List.mapM_cons, described, ih]
      rfl

/-- The document of a code book holds all that the code book describes. -/
theorem supplement_ofCodeBook (book : CodeBook)
    : Document.supplement (Document.ofCodeBook book) = .ok book.supplement := by
  have base := descriptions_ofLayer .baseEntry book.base.entries
  have models := mapM_modelDescriptions book.models.entries
  have fields : Document.supplement (Document.ofCodeBook book)
      = (Document.descriptions .baseEntry
          (book.base.entries.map fun (code, text) => (code, .str text))).bind fun base =>
        ((book.models.entries.map fun (name, layer) => (name, Document.ofLayer layer)).mapM
          Document.modelDescriptions).bind fun models => .ok ⟨base, models⟩ := rfl
  rw [fields, base, models]
  rfl

theorem faithful_ofLayer {layer : Layer} (settled : layer.Settled)
    : (Document.ofLayer layer).Faithful := by
  rw [Document.ofLayer, Json.Faithful, Json.fieldsFaithful_iff, List.map_map]
  refine ⟨settled.distinct, ?_⟩
  intro field member
  obtain ⟨entry, -, rfl⟩ := List.mem_map.mp member
  trivial

theorem Settled.faithful {book : CodeBook} (settled : book.Settled)
    : (Document.ofCodeBook book).Faithful := by
  have models : ∀ field ∈ book.models.entries.map fun (name, layer) =>
      (name, Document.ofLayer layer), field.2.Faithful := by
    intro field member
    obtain ⟨model, known, rfl⟩ := List.mem_map.mp member
    exact faithful_ofLayer (settled.models model known)
  have names : (book.models.entries.map fun (name, layer) =>
      (name, Document.ofLayer layer)).map Prod.fst = book.models.keys := by
    rw [List.map_map]
    rfl
  rw [Document.ofCodeBook, Json.Faithful, Json.fieldsFaithful_iff]
  refine ⟨?_, ?_⟩
  · have apart : Document.baseField ≠ Document.modelsField := by decide
    simpa using apart
  intro field member
  simp only [List.mem_cons, List.not_mem_nil, or_false] at member
  rcases member with rfl | rfl
  · exact faithful_ofLayer settled.base
  · rw [Json.Faithful, Json.fieldsFaithful_iff, names]
    exact ⟨settled.names, models⟩

theorem depth_obj_le (bound : Nat) {fields : List (Text × Json)}
    (bounded : ∀ field ∈ fields, field.2.depth ≤ bound)
    : (Json.obj fields).depth ≤ 1 + bound := by
  rw [Json.depth]
  refine Nat.add_le_add_left ?_ 1
  induction fields with
  | nil => exact Nat.zero_le _
  | cons field rest ih =>
      obtain ⟨here, later⟩ := List.forall_mem_cons.mp bounded
      exact Nat.max_le.mpr ⟨here, ih later⟩

/-- A layer is written as one level of descriptions. -/
theorem depth_ofLayer (layer : Layer)
    : (Document.ofLayer layer).depth ≤ 1 := by
  refine depth_obj_le 0 ?_
  intro field member
  obtain ⟨entry, -, rfl⟩ := List.mem_map.mp member
  exact Nat.le_refl 0

/-- A document has three levels at most: itself, the models and their layers. -/
theorem depth_ofCodeBook (book : CodeBook)
    : (Document.ofCodeBook book).depth ≤ 3 := by
  refine depth_obj_le 2 ?_
  intro field member
  simp only [List.mem_cons, List.not_mem_nil, or_false] at member
  rcases member with rfl | rfl
  · exact Nat.le_succ_of_le (depth_ofLayer book.base)
  · refine depth_obj_le 1 ?_
    intro field member
    obtain ⟨model, -, rfl⟩ := List.mem_map.mp member
    exact depth_ofLayer model.2

theorem read_exportJson {book : CodeBook} (settled : book.Settled) (indentation : Option Int)
    : Json.read (book.exportJson (.ofIndentation indentation))
      = .ok (Document.ofCodeBook book) :=
  Json.read_write (Json.Layout.blank_ofIndentation indentation) settled.faithful
    (Nat.le_trans (depth_ofCodeBook book) (by decide))

theorem importJson_exportJson {book : CodeBook} (settled : book.Settled) (into : CodeBook)
    (indentation : Option Int) (source : Option Text)
    : into.importJson (book.exportJson (.ofIndentation indentation)) source
      = .ok (into.extend book.supplement) := by
  rw [importJson, read_exportJson settled]
  simp only [importDocument, supplement_ofCodeBook]

/-- A code book is saved just where its text can be encoded and the disk takes the bytes. -/
theorem save_eq_ok_iff {book : CodeBook} {disk written : Disk} {path : Text}
    {notices : List Notice}
    : book.save disk path = (written, .ok notices)
      ↔ (∃ bytes, Text.Utf8.encode (book.exportJson fileLayout) = .ok bytes
          ∧ disk.writeBytes path bytes = .ok written)
        ∧ notices = [.exported path] := by
  have taken := @Disk.writeTexts_eq_none_iff disk written path [book.exportJson fileLayout]
  rw [List.flatten_singleton] at taken
  rw [← taken, save]
  generalize disk.writeTexts path [book.exportJson fileLayout] = done
  obtain ⟨saved, fault⟩ := done
  cases fault with
  | none =>
      simp only [Prod.mk.injEq, Except.ok.injEq, and_true]
      exact and_congr_right fun _ => eq_comm
  | some fault => simp

/-- A code book without lone surrogates is saved wherever the disk takes the bytes of its text. -/
theorem save_of_writeBytes {book : CodeBook} (settled : book.Settled)
    (scalar : ∀ text ∈ (Document.ofCodeBook book).texts, ∀ c ∈ text, c.isScalar = true)
    {disk written : Disk} {path : Text}
    (taken : disk.writeBytes path (Text.Utf8.bytes (book.exportJson fileLayout)) = .ok written)
    : book.save disk path = (written, .ok [.exported path]) := by
  have spelled := (Json.isScalar_write_iff settled.faithful (some 2)).mpr scalar
  have encoded := Text.Utf8.encode_eq_ok_iff.mpr ⟨spelled, rfl⟩
  exact save_eq_ok_iff.mpr ⟨⟨_, encoded, taken⟩, rfl⟩

/-- A file that was saved is loaded as the text that was written to it: it has no carriage return
that could be taken for the end of a line.
-/
theorem load_save {book : CodeBook} (settled : book.Settled) {disk written : Disk} {path : Text}
    {notices : List Notice} (saved : book.save disk path = (written, .ok notices))
    (into : CodeBook)
    : (into.load written path).book? = some (into.merge book.supplement) := by
  obtain ⟨⟨bytes, encoded, taken⟩, -⟩ := save_eq_ok_iff.mp saved
  have noReturn : ↑ '\r' ∉ book.exportJson fileLayout :=
    Json.return_not_mem_write settled.faithful (some 2)
  have read := Disk.readText_writeBytes encoded noReturn taken
  have imported := importJson_exportJson settled into (some 2) (some path)
  have text : Json.Layout.ofIndentation (some 2) = fileLayout := rfl
  rw [text] at imported
  simp only [load, importFrom, read, imported]
  rfl

-----------------------------------------------------------------------------------------
-- The round trip
-----------------------------------------------------------------------------------------

/-- Whatever was merged into a code book, its export in any indentation rebuilds it with all codes
and models in their order: an import of the text succeeds and gives the same code book, both into
an empty one and into itself, and so does loading a file that it was saved to; and without lone
surrogates it is saved wherever the disk takes the bytes of its text.
-/
theorem exchange_roundTrip (initial : Supplement) (calls : List Call)
    (indentation : Option Int)
    : let book := (ofSupplement initial).run calls
      let text := book.exportJson (.ofIndentation indentation)
      (∀ source, (empty.importJson text source).book? = some book)
      ∧ (∀ source, (book.importJson text source).book? = some book)
      ∧ (∀ disk path written notices,
          book.save disk path = (written, .ok notices)
          → (empty.load written path).book? = some book
            ∧ (book.load written path).book? = some book)
      ∧ ((∀ text ∈ (Document.ofCodeBook book).texts, ∀ c ∈ text, c.isScalar = true)
        → ∀ disk path written,
            Disk.writeBytes disk path (Text.Utf8.bytes (book.exportJson fileLayout)) = .ok written
            → book.save disk path = (written, .ok [.exported path])) := by
  intro book text
  have settled : book.Settled := settled_run initial calls
  refine ⟨?_, ?_, ?_, ?_⟩
  · intro source
    rw [importJson_exportJson settled]
    exact congrArg some settled.merge_empty
  · intro source
    rw [importJson_exportJson settled]
    exact congrArg some settled.merge_self
  · intro disk path written notices saved
    refine ⟨?_, ?_⟩
    · rw [load_save settled saved, settled.merge_empty]
    · rw [load_save settled saved, settled.merge_self]
  · intro scalar disk path written taken
    exact save_of_writeBytes settled scalar taken

/-- The sharp s is two letters in uppercase, so of the first two codes one is left. -/
theorem exchange_roundTrip_newFile
    : let initial : Supplement :=
        ⟨[("ß", ['\r', '\n']), ("sS", ['"', '\\', '\u2028'])], [("A", [])]⟩
      let book := (ofSupplement initial).run []
      let written :=
        Disk.empty.put [Text.Utf8.bytes "d"]
          (.file (Text.Utf8.bytes (book.exportJson fileLayout)))
      (∀ text ∈ (Document.ofCodeBook book).texts, ∀ c ∈ text, c.isScalar = true)
      ∧ Disk.empty.writeBytes "d" (Text.Utf8.bytes (book.exportJson fileLayout)) = .ok written
      ∧ book.save .empty "d" = (written, .ok [.exported "d"])
      ∧ (empty.load written "d").book? = some book
      ∧ (book.load written "d").book? = some book := by
  intro initial book written
  have scalar : ∀ text ∈ (Document.ofCodeBook book).texts, ∀ c ∈ text, c.isScalar = true := by
    decide
  have taken
      : Disk.empty.writeBytes "d" (Text.Utf8.bytes (book.exportJson fileLayout)) = .ok written :=
    rfl
  obtain ⟨-, -, loaded, saves⟩ := exchange_roundTrip initial [] none
  have saved := saves scalar .empty "d" written taken
  exact ⟨scalar, taken, saved, loaded .empty "d" written _ saved⟩

end CodeBook

end LatheGloss
