import Freehold.Proofs.CacheChanges
import Freehold.Proofs.Managed

/-!
The two indices of the cache are exact. A cell is in the set of an owner when its claim names that
owner, and in no other set, so an index tells no more and no less than the claims do. Every change of
the cache keeps this, in whatever order changes come.
-/

namespace Freehold
open Std

namespace LandIndex
variable {κ : Type} [Ord κ] [TransOrd κ] {index : LandIndex κ} {key : κ} {cell c : Cell}

def Filled (index : LandIndex κ) : Prop :=
  ∀ (key : κ) (set : CellSet), index[key]? = some set → set ≠ ∅

/-- An owner is listed just when he has a cell. -/
theorem Filled.mem_iff (h : index.Filled) : key ∈ index ↔ ∃ cell, cell ∈ index.cells key := by
  constructor
  · intro hk
    obtain ⟨set, hs⟩ := mem_iff_exists_getElem?_eq_some.mp hk
    by_contra hn
    apply h key set hs
    rw [ExtTreeSet.eq_empty_iff_forall_not_mem]
    intro cell hc
    refine hn ⟨cell, ?_⟩
    rw [cells, hs]
    exact hc
  · rintro ⟨cell, hc⟩
    unfold cells at hc
    cases hk : index[key]? with
    | none => simp [hk] at hc
    | some set => exact mem_of_getElem?_eq_some hk

def having (index : LandIndex κ) (owner : Option κ) (cell : Cell) : LandIndex κ :=
  match owner with
  | some key => index.add key cell
  | none => index

def lacking (index : LandIndex κ) (owner : Option κ) (cell : Cell) : LandIndex κ :=
  match owner with
  | some key => index.drop key cell
  | none => index

structure Lists (index : LandIndex κ) (of : Owner → Option κ) (claims : ExtTreeMap Cell Claim) :
    Prop where
  exact : ∀ key cell, cell ∈ index.cells key ↔
    ∃ claim, claims[cell]? = some claim ∧ of claim.owner = some key
  filled : index.Filled

variable {of : Owner → Option κ} {claims : ExtTreeMap Cell Claim} {claim : Claim}
  {owner : Option κ} {index' : LandIndex κ}

theorem Filled.getElem?_eq (h : index.Filled) :
    index[key]? = if index.cells key = ∅ then none else some (index.cells key) := by
  unfold cells
  cases hk : index[key]? with
  | none => rfl
  | some set => exact (if_neg (h key set hk)).symm

/-- Claims have only one index. -/
theorem Lists.eq [LawfulEqOrd κ] (h : index.Lists of claims) (h' : index'.Lists of claims) :
    index = index' := by
  have hcells (key : κ) : index.cells key = index'.cells key := by
    apply ExtTreeSet.ext_mem
    intro cell
    rw [h.exact, h'.exact]
  apply ExtTreeMap.ext_getElem?
  intro key
  rw [h.filled.getElem?_eq, h'.filled.getElem?_eq, hcells]

theorem lists_empty : (∅ : LandIndex κ).Lists of ∅ where
  exact key cell := by simp [cells]
  filled key set h := by simp at h

variable [LawfulEqOrd κ]

theorem Filled.having (h : index.Filled) (owner : Option κ) (cell : Cell) :
    (index.having owner cell).Filled := by
  cases owner with
  | none => exact h
  | some key =>
    intro k set hs
    rcases getElem?_insert_eq_some_iff.mp hs with ⟨-,rfl⟩ | ⟨-,hs⟩
    · exact ExtTreeSet.ne_empty_of_mem ExtTreeSet.mem_insert_self
    · exact h k set hs

theorem Filled.lacking (h : index.Filled) (owner : Option κ) (cell : Cell) :
    (index.lacking owner cell).Filled := by
  cases owner with
  | none => exact h
  | some key =>
    intro k set hs
    rcases getElem?_putSet_eq_some_iff.mp hs with ⟨-,-,hleft⟩ | ⟨-,hs⟩
    · exact hleft
    · exact h k set hs

theorem mem_cells_having :
    c ∈ (index.having owner cell).cells key ↔
      (owner = some key ∧ cell = c) ∨ c ∈ index.cells key := by
  cases owner with
  | none => simp [having]
  | some k =>
    rw [having, add, cells, ExtTreeMap.getElem?_insert]
    by_cases hk : k = key
    · subst hk
      simp [ExtTreeSet.mem_insert]
    · simp [hk, cells]

theorem mem_cells_lacking :
    c ∈ (index.lacking owner cell).cells key ↔
      c ∈ index.cells key ∧ ¬(owner = some key ∧ cell = c) := by
  cases owner with
  | none => simp [lacking]
  | some k =>
    have hg : c ∈ (index.drop k cell).cells key ↔
        (k = key ∧ c ∈ (index.cells k).erase cell) ∨ (k ≠ key ∧ c ∈ index.cells key) :=
      mem_getD_putSet
    rw [lacking, hg, ExtTreeSet.mem_erase]
    by_cases hk : k = key
    · subst hk
      simp [and_comm]
    · simp [hk]

/-- A claim is added to a cell that had none. -/
theorem Lists.insert (h : index.Lists of claims) (hc : claims[claim.cell]? = none) :
    (index.having (of claim.owner) claim.cell).Lists of (claims.insert claim.cell claim) where
  exact key c := by
    rw [mem_cells_having, h.exact, ExtTreeMap.getElem?_insert]
    by_cases hk : claim.cell = c
    · subst hk
      simp [hc]
    · simp [hk]
  filled := h.filled.having _ _

/-- A claim that is forgotten is taken out of the row of its owner. -/
theorem Lists.erase (h : index.Lists of claims) (hc : claims[cell]? = some claim) :
    (index.lacking (of claim.owner) cell).Lists of (claims.erase cell) where
  exact key c := by
    rw [mem_cells_lacking, h.exact, ExtTreeMap.getElem?_erase]
    by_cases hk : cell = c
    · subst hk
      simp [hc]
    · simp [hk]
  filled := h.filled.lacking _ _

end LandIndex

namespace Cache
variable {c : Cache} {claim : Claim} {cell : Cell}

structure Exact (c : Cache) : Prop where
  keyed : Keyed Claim.cell c.byCell
  players : c.byPlayer.Lists Owner.player? c.byCell
  villages : c.byVillage.Lists Owner.village? c.byCell

theorem exact_empty (marks : Marks) : Exact { marks := marks } :=
  ⟨keyed_empty,LandIndex.lists_empty,LandIndex.lists_empty⟩

/-- A cache is made up by its claims and marks. -/
theorem Exact.eq {c' : Cache} (h : c.Exact) (h' : c'.Exact) (hc : c.byCell = c'.byCell)
    (hm : c.marks = c'.marks) : c = c' := by
  have hp : c.byPlayer = c'.byPlayer := h.players.eq (hc ▸ h'.players)
  have hv : c.byVillage = c'.byVillage := h.villages.eq (hc ▸ h'.villages)
  cases c
  cases c'
  simp only [mk.injEq]
  exact ⟨hc,hp,hv,hm⟩

/-- Forgetting a claim takes its cell out of the index that its owner is in. -/
theorem remove_eq (h : c.byCell[cell]? = some claim) :
    c.remove cell =
      { c with
        byCell := c.byCell.erase cell
        byPlayer := c.byPlayer.lacking claim.owner.player? cell
        byVillage := c.byVillage.lacking claim.owner.village? cell } := by
  unfold remove
  rw [h]
  cases ho : claim.owner <;> simp only [ho] <;> rfl

/-- To remember a claim is to forget the earlier one of its cell first. -/
theorem upsert_eq (c : Cache) (claim : Claim) :
    c.upsert claim =
      { c.remove claim.cell with
        byCell := (c.remove claim.cell).byCell.insert claim.cell claim
        byPlayer := (c.remove claim.cell).byPlayer.having claim.owner.player? claim.cell
        byVillage := (c.remove claim.cell).byVillage.having claim.owner.village? claim.cell } := by
  unfold upsert
  cases claim.owner <;> rfl

theorem Exact.remove (h : c.Exact) (cell : Cell) : (c.remove cell).Exact := by
  cases hc : c.byCell[cell]? with
  | none =>
    have hr : c.remove cell = c := by
      unfold Cache.remove
      rw [hc]
    rw [hr]
    exact h
  | some claim =>
    rw [remove_eq hc]
    exact ⟨h.keyed.erase cell,h.players.erase hc,h.villages.erase hc⟩

theorem Exact.upsert (h : c.Exact) (claim : Claim) : (c.upsert claim).Exact := by
  have hr : (c.remove claim.cell).Exact := h.remove claim.cell
  have hc : (c.remove claim.cell).byCell[claim.cell]? = none := by
    rw [byCell_remove]
    exact ExtTreeMap.getElem?_erase_self
  rw [upsert_eq]
  exact ⟨hr.keyed.insert claim,hr.players.insert hc,hr.villages.insert hc⟩

theorem Exact.change (h : c.Exact) (x : CacheChange) : (c.change x).Exact := by
  cases x with
  | insert claim =>
    have hm : Exact { c with marks := c.marks.raise claim } := ⟨h.keyed,h.players,h.villages⟩
    exact hm.upsert claim
  | upsert claim => exact h.upsert claim
  | remove cell => exact h.remove cell

theorem Exact.changeAll (h : c.Exact) (changes : List CacheChange) :
    (c.changeAll changes).Exact := by
  induction changes generalizing c with
  | nil => exact h
  | cons x changes ih => exact ih (h.change x)

/-- A cache that was loaded is exact, even from rows that name a cell twice. -/
theorem exact_load (claims : List Claim) (marks : Marks) : (load claims marks).Exact := by
  have hf (c : Cache) (h : c.Exact) : (claims.foldl Cache.upsert c).Exact := by
    induction claims generalizing c with
    | nil => exact h
    | cons claim claims ih => exact ih _ (h.upsert claim)
  exact hf _ (exact_empty marks)

theorem Exact.mem_cellsOf (h : c.Exact) {player : PlayerId} :
    cell ∈ c.cellsOf player ↔
      ∃ claim, c.owner? cell = some claim ∧ claim.owner = .personal player := by
  rw [cellsOf, ExtTreeSet.mem_toList, h.players.exact]
  refine exists_congr fun claim => and_congr_right fun _ => ?_
  cases claim.owner <;> simp [Owner.player?]

/-- The land of a village is what is claimed for it. -/
theorem Exact.mem_landOf (h : c.Exact) {village : VillageId} :
    cell ∈ c.landOf village ↔
      ∃ claim, c.owner? cell = some claim ∧ claim.owner = .village village := by
  rw [landOf, ExtTreeSet.mem_toList, h.villages.exact]
  refine exists_congr fun claim => and_congr_right fun _ => ?_
  cases claim.owner <;> simp [Owner.village?]

theorem Exact.mem_villagesWithLand (h : c.Exact) {village : VillageId} :
    village ∈ c.villagesWithLand ↔ ∃ cell, cell ∈ c.landOf village := by
  rw [villagesWithLand, ExtTreeMap.mem_keys, h.villages.filled.mem_iff]
  simp only [landOf, ExtTreeSet.mem_toList]

end Cache

namespace Realm
variable {s t : Realm}

/-- An error can make the cache only more complete. -/
theorem exact_healed (h : s.cache.Exact) (e : Error) : (s.healed e).Exact := by
  unfold healed
  split
  · split
    · exact h.upsert _
    · exact h
  · exact h

theorem Recalls.exact (hr : s.Recalls t) (h : s.cache.Exact) : t.cache.Exact := by
  rcases hr.cache with hc | hc <;> rw [hc]
  · exact h
  · exact Cache.exact_load _ _

end Realm

/-- No operation leaves the cache with an index that is not exact. -/
theorem Operation.exact_run {s : Realm} (h : s.cache.Exact) (o : Operation) (stamp : Stamp) :
    (o.run stamp s).realm.cache.Exact := by
  rcases o.run_cases stamp s with hr | ⟨c,rfl,⟨e,he⟩ | ⟨p,-,hp⟩⟩
  · exact hr.exact h
  · have hc : (Operation.run stamp s (.command c)).realm.cache = s.healed e := he.cache
    rw [hc]
    exact Realm.exact_healed h e
  · have hc : (Operation.run stamp s (.command c)).realm.cache = s.cache.changeAll p.cacheChanges :=
      hp.cache
    rw [hc]
    exact h.changeAll p.cacheChanges

/-- In every state that a server comes to, the claims stand under their own cells, and the indices
list them by player and by village. -/
theorem Managed.exact {s : Realm} (h : Managed s) : s.cache.Exact := by
  induction h with
  | start _ started => exact (Realm.recalls_start started).exact (Cache.exact_empty ∅)
  | run _ o stamp ih => exact o.exact_run ih stamp

end Freehold
