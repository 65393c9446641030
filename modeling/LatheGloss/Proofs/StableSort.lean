import Mathlib

/-! Stable sorting by a key. A sorted list is determined by its items of each key in their order,
and stable sorting keeps these as they are; so lists in which they agree are sorted alike, and a
sorted list is made of its parts of one key.
-/

namespace LatheGloss

/-- A comparison that puts any two items in some order, and in both just if they have one key. -/
structure OrdersBy {α κ : Type} (le : α → α → Bool) (key : α → κ) : Prop where
  trans : ∀ a b c, le a b = true → le b c = true → le a c = true
  total : ∀ a b, (le a b || le b a) = true
  key_iff : ∀ a b, key a = key b ↔ le a b = true ∧ le b a = true

namespace OrdersBy

variable {α κ : Type} {le : α → α → Bool} {key : α → κ}

theorem of_le_iff [LinearOrder κ] (le_iff : ∀ a b, le a b = true ↔ key a ≤ key b)
    : OrdersBy le key where
  trans a b c aFirst bFirst :=
    (le_iff a c).mpr (((le_iff a b).mp aFirst).trans ((le_iff b c).mp bFirst))
  total a b := by
    rw [Bool.or_eq_true, le_iff, le_iff]
    exact le_total (key a) (key b)
  key_iff a b := by
    rw [le_iff, le_iff]
    exact le_antisymm_iff

theorem pairwise_mergeSort (orders : OrdersBy le key) (list : List α)
    : (list.mergeSort le).Pairwise fun a b => le a b = true :=
  List.pairwise_mergeSort orders.trans orders.total list

theorem mergeSort_mergeSort (orders : OrdersBy le key) (list : List α)
    : (list.mergeSort le).mergeSort le = list.mergeSort le :=
  List.mergeSort_of_pairwise (orders.pairwise_mergeSort list)

variable [DecidableEq κ]

/-- Sorting keeps the order of the items of a key: in the sorted list, too, they are what they are
in the list itself.
-/
theorem filter_mergeSort (orders : OrdersBy le key) (list : List α) (place : κ)
    : (list.mergeSort le).filter (key · = place) = list.filter (key · = place) := by
  have ordered : (list.filter (key · = place)).Pairwise fun a b => le a b = true := by
    refine List.pairwise_of_forall_mem_list fun a aMember b bMember => ?_
    have aKey : key a = place := by simpa using (List.mem_filter.mp aMember).2
    have bKey : key b = place := by simpa using (List.mem_filter.mp bMember).2
    exact ((orders.key_iff a b).mp (aKey.trans bKey.symm)).1
  have inSorted : (list.filter (key · = place)).Sublist (list.mergeSort le) :=
    List.sublist_mergeSort orders.trans orders.total ordered List.filter_sublist
  have among := inSorted.filter (key · = place)
  rw [List.filter_filter] at among
  simp only [Bool.and_self] at among
  have counts := ((List.mergeSort_perm list le).filter (key · = place)).length_eq
  exact (among.eq_of_length counts.symm).symm

theorem mem_of_filter_eq {left right : List α} {item : α}
    (same : left.filter (key · = key item) = right.filter (key · = key item))
    (member : item ∈ left)
    : item ∈ right := by
  have kept : item ∈ left.filter (key · = key item) := by simp [member]
  rw [same] at kept
  exact (List.mem_filter.mp kept).1

/-- Two sorted lists with the same items of each key begin with the same item, by induction over
both.
-/
theorem eq_of_filter_eq (orders : OrdersBy le key) {left right : List α}
    (leftSorted : left.Pairwise fun a b => le a b = true)
    (rightSorted : right.Pairwise fun a b => le a b = true)
    (same : ∀ item, left.filter (key · = key item) = right.filter (key · = key item))
    : left = right := by
  induction left generalizing right with
  | nil =>
      cases right with
      | nil => rfl
      | cons b more =>
          have member : b ∈ [] := mem_of_filter_eq (same b).symm List.mem_cons_self
          cases member
  | cons a rest ih =>
      cases right with
      | nil =>
          have member : a ∈ [] := mem_of_filter_eq (same a) List.mem_cons_self
          cases member
      | cons b more =>
          obtain ⟨aFirst, restSorted⟩ := List.pairwise_cons.mp leftSorted
          obtain ⟨bFirst, moreSorted⟩ := List.pairwise_cons.mp rightSorted
          have oneKey : key a = key b := by
            have aMember : a ∈ b :: more := mem_of_filter_eq (same a) List.mem_cons_self
            have bMember : b ∈ a :: rest := mem_of_filter_eq (same b).symm List.mem_cons_self
            rcases List.mem_cons.mp aMember with equal | aLater
            · rw [equal]
            rcases List.mem_cons.mp bMember with equal | bLater
            · rw [equal]
            exact (orders.key_iff a b).mpr ⟨aFirst b bLater, bFirst a aLater⟩
          have heads := same b
          rw [List.filter_cons_of_pos (by simpa using oneKey),
            List.filter_cons_of_pos (by simp)] at heads
          obtain rfl : a = b := (List.cons.inj heads).1
          have later (item : α)
              : rest.filter (key · = key item) = more.filter (key · = key item) := by
            have whole := same item
            rw [List.filter_cons, List.filter_cons] at whole
            split at whole
            · exact (List.cons.inj whole).2
            · exact whole
          rw [ih restSorted moreSorted later]

theorem mergeSort_congr (orders : OrdersBy le key) {left right : List α}
    (same : ∀ item, left.filter (key · = key item) = right.filter (key · = key item))
    : left.mergeSort le = right.mergeSort le := by
  apply orders.eq_of_filter_eq (orders.pairwise_mergeSort left) (orders.pairwise_mergeSort right)
  intro item
  rw [orders.filter_mergeSort, orders.filter_mergeSort, same item]

/-- The parts of a list can be sorted first. -/
theorem mergeSort_append (orders : OrdersBy le key) (left right : List α)
    : (left ++ right).mergeSort le = (left.mergeSort le ++ right.mergeSort le).mergeSort le := by
  refine orders.mergeSort_congr fun item => ?_
  rw [List.filter_append, List.filter_append, orders.filter_mergeSort, orders.filter_mergeSort]

end OrdersBy

-----------------------------------------------------------------------------------------
-- Lists in the order of their keys
-----------------------------------------------------------------------------------------

section Parts

variable {α κ : Type} [DecidableEq κ] (key : α → κ)

/-- The parts of a list that have the given keys, one after the other. -/
def partsBy (places : List κ) (list : List α) : List α :=
  places.flatMap fun place => list.filter (key · = place)

theorem partsBy_cons (first : κ) (rest : List κ) (list : List α)
    : partsBy key (first :: rest) list
      = list.filter (key · = first) ++ partsBy key rest list :=
  List.flatMap_cons

/-- Only its own part has items of a key, by induction over the keys. -/
theorem filter_partsBy {places : List κ} (distinct : places.Nodup) (list : List α) (place : κ)
    : (partsBy key places list).filter (key · = place)
      = if place ∈ places then list.filter (key · = place) else [] := by
  induction places with
  | nil => rfl
  | cons first rest ih =>
      obtain ⟨absent, restDistinct⟩ := List.nodup_cons.mp distinct
      rw [partsBy_cons, List.filter_append, List.filter_filter, ih restDistinct]
      by_cases here : place = first
      · subst here
        simp [absent]
      · have apart : list.filter (fun item => key item = place && key item = first) = [] := by
          refine List.filter_eq_nil_iff.mpr fun item _ => ?_
          rw [Bool.and_eq_true, decide_eq_true_eq, decide_eq_true_eq]
          exact fun both => here (both.1.symm.trans both.2)
        simp [apart, here]

end Parts

/-- A list put in order by a key: no item comes after one with a greater key, and those with the
same key stand as they stood.
-/
structure StablySorted {α κ : Type} [LinearOrder κ] (key : α → κ) (list sorted : List α)
    : Prop where
  perm : sorted.Perm list
  ordered : sorted.Pairwise fun a b => key a ≤ key b
  ties : ∀ place, sorted.filter (key · = place) = list.filter (key · = place)

section Order

variable {α κ μ : Type} [LinearOrder κ] [LinearOrder μ] {key : α → κ} {list sorted : List α}

theorem stablySorted_mergeSort {le : α → α → Bool} (le_iff : ∀ a b, le a b = true ↔ key a ≤ key b)
    (list : List α)
    : StablySorted key list (list.mergeSort le) where
  perm := List.mergeSort_perm list le
  ordered := ((OrdersBy.of_le_iff le_iff).pairwise_mergeSort list).imp (le_iff _ _).mp
  ties := (OrdersBy.of_le_iff le_iff).filter_mergeSort list

theorem eq_of_ordered {left right : List α} (leftOrdered : left.Pairwise fun a b => key a ≤ key b)
    (rightOrdered : right.Pairwise fun a b => key a ≤ key b)
    (same : ∀ place, left.filter (key · = place) = right.filter (key · = place))
    : left = right := by
  have orders : OrdersBy (fun a b => decide (key a ≤ key b)) key :=
    .of_le_iff fun _ _ => decide_eq_true_iff
  apply orders.eq_of_filter_eq
  · exact leftOrdered.imp decide_eq_true
  · exact rightOrdered.imp decide_eq_true
  · exact fun item => same (key item)

/-- There is only one way to sort a list stably by a key. -/
theorem StablySorted.eq {other : List α} (first : StablySorted key list sorted)
    (second : StablySorted key list other)
    : sorted = other := by
  refine eq_of_ordered first.ordered second.ordered fun place => ?_
  rw [first.ties, second.ties]

/-- Of a list sorted by a key and then by another one, the part of a key is sorted by the other. -/
theorem StablySorted.part {inner : α → μ}
    (whole : StablySorted (fun item => toLex (key item, inner item)) list sorted) (place : κ)
    : StablySorted inner (list.filter (key · = place)) (sorted.filter (key · = place)) where
  perm := whole.perm.filter (key · = place)
  ordered := by
    refine (whole.ordered.filter (key · = place)).imp_of_mem fun {a b} aMember bMember inOrder => ?_
    have aKey : key a = place := of_decide_eq_true (List.mem_filter.mp aMember).2
    have bKey : key b = place := of_decide_eq_true (List.mem_filter.mp bMember).2
    rcases Prod.Lex.toLex_le_toLex.mp inOrder with apart | ⟨-, inside⟩
    · exact absurd (aKey.trans bKey.symm) apart.ne
    · exact inside
  ties spot := by
    have both := whole.ties (toLex (place, spot))
    simpa [List.filter_filter, Bool.and_comm] using both

/-- A sorted list is made of its parts, in the order of the keys. -/
theorem eq_partsBy (ordered : list.Pairwise fun a b => key a ≤ key b) {places : List κ}
    (ascending : places.Pairwise (· < ·)) (known : ∀ item ∈ list, key item ∈ places)
    : list = partsBy key places list := by
  refine eq_of_ordered ordered ?_ fun place => ?_
  · refine List.pairwise_flatMap.mpr ⟨fun place _ => ordered.filter (key · = place), ?_⟩
    refine ascending.imp fun before a aMember b bMember => ?_
    rw [of_decide_eq_true (List.mem_filter.mp aMember).2,
      of_decide_eq_true (List.mem_filter.mp bMember).2]
    exact before.le
  · rw [filter_partsBy key (ascending.imp ne_of_lt)]
    split
    · rfl
    · next missing =>
        refine List.filter_eq_nil_iff.mpr fun item member => ?_
        rw [decide_eq_true_eq]
        exact fun here => missing (here ▸ known item member)

end Order

end LatheGloss
