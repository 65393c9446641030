import Mathlib
import LatheGloss.Table

/-! What writes leave in a table. Of several writes under one key the last one gives the value
and the first one the place; a table whose keys are distinct is made by writing its own entries.
-/

namespace LatheGloss.Table

variable {α : Type}

theorem lookup_cons_ite (key name : Text) (value : α) (rest : List (Text × α))
    : ((name, value) :: rest).lookup key = if key = name then some value else rest.lookup key := by
  by_cases same : key = name
  · simp [same]
  · simp [List.lookup_cons, beq_false_of_ne same, same]

theorem get?_eq_none_iff {table : Table α} {key : Text}
    : table.get? key = none ↔ key ∉ table.keys := by
  simp only [get?, keys, List.lookup_eq_none_iff, bne_iff_ne, List.mem_map, not_exists, not_and]
  exact ⟨fun h entry member same => h entry member same.symm,
    fun h entry member same => h entry member same.symm⟩

/-- Every entry of a table with distinct keys is found, by induction over the entries. -/
theorem get?_of_mem {table : Table α} (distinct : table.keys.Nodup) {key : Text} {value : α}
    (member : (key, value) ∈ table.entries)
    : table.get? key = some value := by
  obtain ⟨entries⟩ := table
  simp only [get?, keys] at distinct member ⊢
  induction entries with
  | nil => cases member
  | cons entry rest ih =>
      obtain ⟨absent, restDistinct⟩ := List.nodup_cons.mp distinct
      rcases List.mem_cons.mp member with rfl | later
      · simp
      · have other : key ≠ entry.1 := by
          intro same
          exact absent (same ▸ List.mem_map.mpr ⟨(key, value), later, rfl⟩)
        rw [lookup_cons_ite, if_neg other]
        exact ih restDistinct later

-----------------------------------------------------------------------------------------
-- One write
-----------------------------------------------------------------------------------------

theorem map_fst_write (key : Text) (value : α) (entries : List (Text × α))
    : (write key value entries).map Prod.fst
      = if key ∈ entries.map Prod.fst then entries.map Prod.fst
        else entries.map Prod.fst ++ [key] := by
  induction entries with
  | nil => simp [write]
  | cons entry rest ih =>
      by_cases same : entry.1 = key
      · simp [write, same]
      · simp only [write, if_neg same, List.map_cons, ih, List.mem_cons, Ne.symm same, false_or]
        by_cases present : key ∈ rest.map Prod.fst
        · rw [if_pos present, if_pos present]
        · rw [if_neg present, if_neg present, List.cons_append]

theorem keys_insert (table : Table α) (key : Text) (value : α)
    : (table.insert key value).keys
      = if key ∈ table.keys then table.keys else table.keys ++ [key] :=
  map_fst_write key value table.entries

theorem get?_insert (table : Table α) (key other : Text) (value : α)
    : (table.insert key value).get? other
      = if other = key then some value else table.get? other := by
  obtain ⟨entries⟩ := table
  simp only [insert, get?]
  induction entries with
  | nil => simp [write, lookup_cons_ite]
  | cons entry rest ih =>
      obtain ⟨name, stored⟩ := entry
      by_cases same : name = key
      · subst name
        simp only [write, if_true, lookup_cons_ite]
        by_cases here : other = key <;> simp [here]
      · simp only [write, if_neg same, lookup_cons_ite, ih]
        by_cases here : other = name <;> simp [here, same]

/-- Writing what is there already changes nothing, not even the order. -/
theorem insert_eq_self {table : Table α} {key : Text} {value : α}
    (found : table.get? key = some value)
    : table.insert key value = table := by
  obtain ⟨entries⟩ := table
  simp only [get?] at found
  simp only [insert, mk.injEq]
  induction entries with
  | nil => simp at found
  | cons entry rest ih =>
      obtain ⟨name, stored⟩ := entry
      by_cases same : name = key
      · subst name
        have kept : stored = value := by simpa using found
        simp [write, kept]
      · have other : key ≠ name := Ne.symm same
        rw [lookup_cons_ite, if_neg other] at found
        simp only [write, if_neg same, ih found]

theorem nodup_keys_insert {table : Table α} (distinct : table.keys.Nodup) (key : Text) (value : α)
    : (table.insert key value).keys.Nodup := by
  rw [keys_insert]
  by_cases present : key ∈ table.keys
  · rwa [if_pos present]
  · rw [if_neg present]
    simpa only [List.concat_eq_append] using distinct.concat present

-----------------------------------------------------------------------------------------
-- Writes one after the other
-----------------------------------------------------------------------------------------

@[simp]
theorem insertAll_nil (table : Table α)
    : table.insertAll [] = table :=
  rfl

@[simp]
theorem insertAll_cons (table : Table α) (entry : Text × α) (rest : List (Text × α))
    : table.insertAll (entry :: rest) = (table.insert entry.1 entry.2).insertAll rest :=
  rfl

theorem insertAll_append (table : Table α) (earlier later : List (Text × α))
    : table.insertAll (earlier ++ later) = (table.insertAll earlier).insertAll later := by
  simp [insertAll]

/-- The last of several writes under a key gives its value. -/
theorem get?_insertAll (table : Table α) (entries : List (Text × α)) (key : Text)
    : (table.insertAll entries).get? key = (entries.reverse.lookup key).or (table.get? key) := by
  induction entries generalizing table with
  | nil => simp
  | cons entry rest ih =>
      obtain ⟨name, value⟩ := entry
      rw [insertAll_cons, ih, get?_insert, List.reverse_cons, List.lookup_append, Option.or_assoc,
        lookup_cons_ite, List.lookup_nil]
      by_cases same : key = name <;> simp [same]

theorem nodup_keys_insertAll {table : Table α} (distinct : table.keys.Nodup)
    (entries : List (Text × α))
    : (table.insertAll entries).keys.Nodup := by
  induction entries generalizing table with
  | nil => exact distinct
  | cons entry rest ih => exact ih (nodup_keys_insert distinct entry.1 entry.2)

/-- Keys keep their places, and new ones follow in the order of their first writes. -/
theorem keys_insertAll (table : Table α) (entries : List (Text × α))
    : (table.insertAll entries).keys
      = table.keys ++ ((entries.map Prod.fst).filter (· ∉ table.keys)).eraseDups := by
  induction entries generalizing table with
  | nil => simp
  | cons entry rest ih =>
      rw [insertAll_cons, ih, keys_insert, List.map_cons]
      by_cases present : entry.1 ∈ table.keys
      · simp [present]
      · simp only [present, if_false, List.mem_append, List.mem_singleton, not_or,
          Bool.decide_and, decide_not, List.append_assoc, List.singleton_append,
          List.filter_cons, decide_false, Bool.not_false, if_true, List.eraseDups_cons,
          List.filter_filter]
        congr 4
        funext key
        rw [Bool.and_comm]
        simp [beq_eq_decide]

/-- Writing what is there already changes nothing, by induction over the writes. -/
theorem insertAll_eq_self {table : Table α} {entries : List (Text × α)}
    (found : ∀ entry ∈ entries, table.get? entry.1 = some entry.2)
    : table.insertAll entries = table := by
  induction entries with
  | nil => rfl
  | cons entry rest ih =>
      rw [insertAll_cons, insert_eq_self (found entry (by simp))]
      exact ih fun later member => found later (List.mem_cons_of_mem _ member)

theorem insertAll_entries {table : Table α} (distinct : table.keys.Nodup)
    : table.insertAll table.entries = table :=
  insertAll_eq_self fun _ member => get?_of_mem distinct member

theorem write_of_not_mem {key : Text} {entries : List (Text × α)}
    (absent : key ∉ entries.map Prod.fst) (value : α)
    : write key value entries = entries ++ [(key, value)] := by
  induction entries with
  | nil => rfl
  | cons entry rest ih =>
      simp only [List.map_cons, List.mem_cons, not_or] at absent
      simp [write, Ne.symm absent.1, ih absent.2]

/-- Entries with distinct new keys are added as they are. -/
theorem insertAll_of_disjoint {table : Table α} {entries : List (Text × α)}
    (distinct : (table.keys ++ entries.map Prod.fst).Nodup)
    : table.insertAll entries = ⟨table.entries ++ entries⟩ := by
  induction entries generalizing table with
  | nil => simp
  | cons entry rest ih =>
      have absent : entry.1 ∉ table.entries.map Prod.fst := by
        intro member
        exact (List.nodup_append.mp distinct).2.2 entry.1 member entry.1 (by simp) rfl
      have written : table.insert entry.1 entry.2 = ⟨table.entries ++ [entry]⟩ := by
        rw [insert, write_of_not_mem absent]
      rw [insertAll_cons, written, ih (by simpa [keys] using distinct)]
      simp

theorem empty_insertAll {entries : List (Text × α)} (distinct : (entries.map Prod.fst).Nodup)
    : empty.insertAll entries = ⟨entries⟩ :=
  insertAll_of_disjoint (by simpa [keys, empty] using distinct)

/-- Among entries with distinct keys the last one under a key is the first one. -/
theorem lookup_reverse {entries : List (Text × α)} (distinct : (entries.map Prod.fst).Nodup)
    (key : Text)
    : entries.reverse.lookup key = entries.lookup key := by
  have last := get?_insertAll empty entries key
  rw [empty_insertAll distinct] at last
  simpa [get?, empty] using last.symm

end LatheGloss.Table
