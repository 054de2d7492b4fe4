import Freehold.Order

/-!
Rows that stand under their own keys. Every table is written under the key that its row carries, so
a row that is found tells where it was found, and a table can be rebuilt from its rows alone. Tables
of sets keep no empty set.
-/

namespace Freehold
open Std

def Keyed {κ ν : Type} [Ord κ] [TransOrd κ] (key : ν → κ) (table : ExtTreeMap κ ν) : Prop :=
  ∀ k row, table[k]? = some row → key row = k

variable {κ ν : Type} [Ord κ] [TransOrd κ] {key : ν → κ} {table : ExtTreeMap κ ν}

theorem mem_of_getElem?_eq_some {k : κ} {row : ν} (h : table[k]? = some row) : k ∈ table := by
  rw [ExtTreeMap.mem_iff_isSome_getElem?, h]
  rfl

theorem mem_iff_exists_getElem?_eq_some {k : κ} : k ∈ table ↔ ∃ row, table[k]? = some row := by
  rw [ExtTreeMap.mem_iff_isSome_getElem?, Option.isSome_iff_exists]

theorem keyed_empty : Keyed key (∅ : ExtTreeMap κ ν) := by
  intro k row h
  simp at h

theorem Keyed.erase (h : Keyed key table) (gone : κ) : Keyed key (table.erase gone) := by
  intro k row hr
  rw [ExtTreeMap.getElem?_erase] at hr
  split at hr
  · cases hr
  · exact h k row hr

theorem values_eq_map_toList (table : ExtTreeMap κ ν) : table.values = table.toList.map (·.2) := by
  have hr : table.foldr (fun _ v rest => v :: rest) [] = table.toList.map (·.2) := by
    rw [ExtTreeMap.foldr_eq_foldr_toList]
    generalize table.toList = rows
    induction rows with
    | nil => rfl
    | cons row rows ih => simp only [List.foldr_cons, ih, List.map_cons]
  rw [← hr]
  -- The list of values is itself defined by this fold over the tree under the quotient.
  obtain ⟨⟨q⟩⟩ := table
  induction q using Quotient.inductionOn with
  | h tree => rfl

variable [LawfulEqOrd κ]

theorem getElem?_insert_eq_some_iff {place k : κ} {row found : ν} :
    (table.insert place row)[k]? = some found ↔
      (place = k ∧ row = found) ∨ (place ≠ k ∧ table[k]? = some found) := by
  rw [ExtTreeMap.getElem?_insert]
  by_cases hk : place = k <;> simp [hk]

theorem getElem?_erase_eq_some_iff {place k : κ} {found : ν} :
    (table.erase place)[k]? = some found ↔ place ≠ k ∧ table[k]? = some found := by
  rw [ExtTreeMap.getElem?_erase]
  by_cases hk : place = k <;> simp [hk]

/-- A row that is put under its own key keeps the table keyed: every row stands where its key
says. -/
theorem Keyed.insert (h : Keyed key table) (row : ν) : Keyed key (table.insert (key row) row) := by
  intro k found hf
  rcases getElem?_insert_eq_some_iff.mp hf with ⟨hk,rfl⟩ | ⟨-,hf⟩
  · exact hk
  · exact h k found hf

theorem mem_values_iff (h : Keyed key table) {row : ν} :
    row ∈ table.values ↔ table[key row]? = some row := by
  rw [values_eq_map_toList]
  constructor
  · intro hm
    obtain ⟨⟨k,v⟩, hkv, rfl⟩ := List.mem_map.mp hm
    have hv := ExtTreeMap.mem_toList_iff_getElem?_eq_some.mp hkv
    rw [h k v hv]
    exact hv
  · intro hr
    exact List.mem_map.mpr ⟨(key row,row), ExtTreeMap.mem_toList_iff_getElem?_eq_some.mpr hr, rfl⟩

section Fold
variable {α : Type} {place : α → κ} {entry : α → ν}

theorem getElem?_foldl_insert_of_ne (rows : List α) (table : ExtTreeMap κ ν) {k : κ}
    (h : ∀ r ∈ rows, place r ≠ k) :
    (rows.foldl (fun t r => t.insert (place r) (entry r)) table)[k]? = table[k]? := by
  induction rows generalizing table with
  | nil => rfl
  | cons first rows ih =>
    rw [List.foldl_cons, ih _ fun r hr => h r (List.mem_cons_of_mem _ hr)]
    simp [ExtTreeMap.getElem?_insert, h first List.mem_cons_self]

/-- What all rows of a place say of it is found there in the end. -/
theorem getElem?_foldl_insert_of_mem (rows : List α) (table : ExtTreeMap κ ν) {k : κ} {e : ν}
    (hm : ∃ r ∈ rows, place r = k) (h : ∀ r ∈ rows, place r = k → entry r = e) :
    (rows.foldl (fun t r => t.insert (place r) (entry r)) table)[k]? = some e := by
  induction rows generalizing table with
  | nil =>
    obtain ⟨r, hr, -⟩ := hm
    cases hr
  | cons first rows ih =>
    have ht : ∀ r ∈ rows, place r = k → entry r = e :=
      fun r hr => h r (List.mem_cons_of_mem _ hr)
    rw [List.foldl_cons]
    by_cases hlater : ∃ r ∈ rows, place r = k
    · exact ih _ hlater ht
    · -- The first row is the only one of its place, and no later one writes over it.
      have hn : ∀ r ∈ rows, place r ≠ k := fun r hr hk => hlater ⟨r,hr,hk⟩
      have hf : place first = k := by
        obtain ⟨r, hr, hk⟩ := hm
        rcases List.mem_cons.mp hr with rfl | hr
        · exact hk
        · exact absurd hk (hn r hr)
      have he : entry first = e := h first List.mem_cons_self hf
      rw [getElem?_foldl_insert_of_ne rows _ hn, he, ← hf]
      exact ExtTreeMap.getElem?_insert_self

/-- A table that holds what the rows say, and nothing else, is what they make of the empty one. -/
theorem foldl_insert_eq {rows : List α} {table : ExtTreeMap κ ν}
    (h : ∀ k e, table[k]? = some e ↔ ∃ r ∈ rows, place r = k ∧ entry r = e) :
    rows.foldl (fun t r => t.insert (place r) (entry r)) ∅ = table := by
  apply ExtTreeMap.ext_getElem?
  intro k
  cases hk : table[k]? with
  | none =>
    have hn : ∀ r ∈ rows, place r ≠ k := by
      rintro r hr rfl
      have hr' : table[place r]? = some (entry r) := (h _ _).mpr ⟨r,hr,rfl,rfl⟩
      rw [hk] at hr'
      cases hr'
    rw [getElem?_foldl_insert_of_ne rows ∅ hn]
    exact ExtTreeMap.getElem?_empty
  | some e =>
    obtain ⟨row, hrow, hplace, -⟩ := (h k e).mp hk
    refine getElem?_foldl_insert_of_mem rows ∅ ⟨row,hrow,hplace⟩ ?_
    -- Rows of one place agree, as the table has only one entry for it.
    rintro r hr rfl
    have hr' : table[place r]? = some (entry r) := (h _ _).mpr ⟨r,hr,rfl,rfl⟩
    exact Option.some.inj (hr'.symm.trans hk)

theorem getElem?_foldl_erase_eq_some_iff {rows : List α} {table : ExtTreeMap κ ν} {k : κ} {e : ν} :
    (rows.foldl (fun t r => t.erase (place r)) table)[k]? = some e ↔
      table[k]? = some e ∧ ∀ r ∈ rows, place r ≠ k := by
  induction rows generalizing table with
  | nil => simp
  | cons first rows ih =>
    rw [List.foldl_cons, ih, ExtTreeMap.getElem?_erase]
    by_cases hf : place first = k <;> simp [hf]

theorem mem_foldl_erase {rows : List α} {table : ExtTreeMap κ ν} {k : κ} :
    k ∈ rows.foldl (fun t r => t.erase (place r)) table ↔
      k ∈ table ∧ ∀ r ∈ rows, place r ≠ k := by
  simp only [mem_iff_exists_getElem?_eq_some, getElem?_foldl_erase_eq_some_iff, exists_and_right]

end Fold

theorem nodup_toList {α : Type} [Ord α] [TransOrd α] [LawfulEqOrd α] (set : ExtTreeSet α) :
    set.toList.Nodup := by
  have hd := ExtTreeSet.distinct_toList (t := set)
  refine hd.imp ?_
  rintro a b hab rfl
  exact hab ReflCmp.compare_self

section Sets
variable {α : Type} [Ord α] [TransOrd α] {table : ExtTreeMap κ (ExtTreeSet α)}
  {set found : ExtTreeSet α} {k place : κ}

def putSet (table : ExtTreeMap κ (ExtTreeSet α)) (place : κ) (set : ExtTreeSet α) :
    ExtTreeMap κ (ExtTreeSet α) :=
  if set.isEmpty then table.erase place else table.insert place set

theorem getElem?_putSet_eq_some_iff :
    (putSet table place set)[k]? = some found ↔
      (place = k ∧ set = found ∧ found ≠ ∅) ∨ (place ≠ k ∧ table[k]? = some found) := by
  unfold putSet
  by_cases hs : set.isEmpty = true
  · rw [if_pos hs, getElem?_erase_eq_some_iff]
    obtain rfl := ExtTreeSet.isEmpty_iff.mp hs
    have hnone : ¬(place = k ∧ ∅ = found ∧ found ≠ ∅) := fun ⟨_,he,hne⟩ => hne he.symm
    rw [or_iff_right hnone]
  · rw [if_neg hs, getElem?_insert_eq_some_iff]
    rw [ExtTreeSet.isEmpty_iff] at hs
    have hfull : set = found ↔ set = found ∧ found ≠ ∅ := by
      rw [iff_self_and]
      rintro rfl
      exact hs
    rw [← hfull]

/-- A set that was put in its place is found there, even if the place was left empty for it. -/
theorem mem_getD_putSet {x : α} :
    x ∈ (putSet table place set)[k]?.getD ∅ ↔
      (place = k ∧ x ∈ set) ∨ (place ≠ k ∧ x ∈ table[k]?.getD ∅) := by
  unfold putSet
  by_cases hs : set.isEmpty = true
  · rw [if_pos hs, ExtTreeMap.getElem?_erase]
    obtain rfl := ExtTreeSet.isEmpty_iff.mp hs
    by_cases hk : place = k <;> simp [hk]
  · rw [if_neg hs, ExtTreeMap.getElem?_insert]
    by_cases hk : place = k <;> simp [hk]

end Sets

/-- A table is what its rows make of the empty one, in whatever order they come. -/
theorem foldl_insert_of_perm (h : Keyed key table) {rows : List ν} (hp : rows.Perm table.values) :
    rows.foldl (fun t r => t.insert (key r) r) ∅ = table := by
  apply foldl_insert_eq
  intro k row
  constructor
  · intro hk
    have hrow : key row = k := h k row hk
    exact ⟨row,hp.mem_iff.mpr ((mem_values_iff h).mpr (hrow ▸ hk)),hrow,rfl⟩
  · rintro ⟨r, hr, rfl, rfl⟩
    exact (mem_values_iff h).mp (hp.mem_iff.mp hr)

end Freehold
