import Mathlib.Data.Set.Card.Arithmetic
import Freehold.Proofs.Components
import Freehold.Proofs.FreeSlots
import Freehold.Proofs.LandIndex

/-!
The cache under writes of every kind, in any order. Whatever was written, claims stand under their own
cells, the two indices say of each owner just what the claims say, and each cell is counted for one
owner. The mark of a player falls only when the cache is loaded or cleared.
-/

namespace Freehold
open Std

instance : Finite Uuid :=
  Finite.of_injective (fun u => u.bits.toFin) fun ⟨_⟩ ⟨_⟩ h => congrArg _ (BitVec.toFin_inj.mp h)

instance : Finite PlayerId :=
  Finite.of_injective PlayerId.uuid fun ⟨_⟩ ⟨_⟩ h => congrArg _ h

instance : Finite VillageId :=
  Finite.of_injective VillageId.uuid fun ⟨_⟩ ⟨_⟩ h => congrArg _ h

theorem ncard_setOf_mem {α : Type} {list : List α} (h : list.Nodup) :
    {a | a ∈ list}.ncard = list.length := by
  classical
  rw [← List.coe_toFinset, Set.ncard_coe_finset, List.toFinset_card_of_nodup h]

namespace LandIndex.Lists
variable {κ : Type} [Ord κ] [TransOrd κ] {index : LandIndex κ}
  {of : Owner → Option κ} {claims : ExtTreeMap Cell Claim}

/-- A cell is listed for one owner at most, so that those of all owners are as many as the cells whose
claims name an owner of this kind. -/
theorem finsum_size [Finite κ] (h : index.Lists of claims) :
    ∑ᶠ key, (index.cells key).size =
      {cell : Cell | ∃ claim, claims[cell]? = some claim ∧ (of claim.owner).isSome}.ncard := by
  have hsize (key : κ) : {cell | cell ∈ index.cells key}.ncard = (index.cells key).size := by
    simp only [← ExtTreeSet.mem_toList]
    rw [ncard_setOf_mem (nodup_toList _), ExtTreeSet.length_toList]
  have hfinite (key : κ) : {cell | cell ∈ index.cells key}.Finite := by
    simp only [← ExtTreeSet.mem_toList]
    exact List.finite_toSet _
  have hdisjoint : Pairwise (Function.onFun Disjoint fun key => {cell | cell ∈ index.cells key}) := by
    intro key key' hne
    refine Set.disjoint_left.mpr fun cell hc hc' => hne ?_
    obtain ⟨claim, hclaim, hof⟩ := (h.exact key cell).mp hc
    obtain ⟨claim', hclaim', hof'⟩ := (h.exact key' cell).mp hc'
    rw [hclaim] at hclaim'
    cases hclaim'
    exact Option.some.inj (hof.symm.trans hof')
  have hunion : ⋃ key, {cell | cell ∈ index.cells key} =
      {cell | ∃ claim, claims[cell]? = some claim ∧ (of claim.owner).isSome} := by
    ext cell
    simp only [Set.mem_iUnion, Set.mem_ofPred_eq, h.exact, Option.isSome_iff_exists]
    rw [exists_comm]
    simp only [exists_and_left]
  simp only [← hsize]
  rw [← Set.ncard_iUnion_of_finite hfinite hdisjoint, hunion]

end LandIndex.Lists

namespace Cache
variable {c : Cache}

/-- Every claimed cell is counted for its player or for its village, and not for both. -/
theorem Exact.finsum_counts (h : c.Exact) :
    ∑ᶠ player, c.countOf player + ∑ᶠ village, c.landCount village = c.stats.cells := by
  let claimed : Set Cell := {cell | cell ∈ c.byCell.keys}
  let personal : Set Cell :=
    {cell | ∃ claim, c.byCell[cell]? = some claim ∧ claim.owner.player?.isSome}
  let village : Set Cell :=
    {cell | ∃ claim, c.byCell[cell]? = some claim ∧ claim.owner.village?.isSome}
  have hunion : personal ∪ village = claimed := by
    ext cell
    have hkind (owner : Owner) : owner.player?.isSome ∨ owner.village?.isSome := by
      cases owner <;> simp [Owner.player?, Owner.village?]
    simp only [personal, village, claimed, Set.mem_union, Set.mem_ofPred_eq, ExtTreeMap.mem_keys,
      mem_iff_exists_getElem?_eq_some, ← exists_or, ← and_or_left, hkind, and_true]
  have hdisjoint : Disjoint personal village := by
    rw [Set.disjoint_left]
    rintro cell ⟨claim, hclaim, hp⟩ ⟨claim', hclaim', hv⟩
    rw [hclaim] at hclaim'
    cases hclaim'
    cases ho : claim.owner <;> simp [ho, Owner.player?, Owner.village?] at hp hv
  have hfinite : claimed.Finite := List.finite_toSet _
  calc ∑ᶠ player, c.countOf player + ∑ᶠ village, c.landCount village
      = personal.ncard + village.ncard := by
        simp only [countOf, landCount]
        rw [h.players.finsum_size, h.villages.finsum_size]
    _ = claimed.ncard := by
        rw [← hunion] at hfinite ⊢
        exact (Set.ncard_union_eq hdisjoint (hfinite.subset Set.subset_union_left)
          (hfinite.subset Set.subset_union_right)).symm
    _ = c.stats.cells := by
        rw [ncard_setOf_mem ExtTreeMap.nodup_keys, ExtTreeMap.length_keys, stats]

/-- Of several claims of a cell the last one is remembered. -/
theorem owner?_foldl_upsert (c : Cache) (claims : List Claim) (cell : Cell) :
    (claims.foldl upsert c).owner? cell =
      (claims.filter fun claim => claim.cell = cell).getLast?.or (c.owner? cell) := by
  induction claims generalizing c with
  | nil => rfl
  | cons claim claims ih =>
    rw [List.foldl_cons, ih, owner?, byCell_upsert, ExtTreeMap.getElem?_insert]
    by_cases hcell : claim.cell = cell
    · cases hlast : (claims.filter fun claim => claim.cell = cell).getLast? <;>
        simp [hcell, List.getLast?_cons, hlast]
    · simp [hcell, owner?]

theorem owner?_load (claims : List Claim) (marks : Marks) (cell : Cell) :
    (load claims marks).owner? cell =
      (claims.filter fun claim => claim.cell = cell).getLast? := by
  have hnone : ({ marks := marks } : Cache).owner? cell = none := ExtTreeMap.getElem?_empty
  rw [load, owner?_foldl_upsert, hnone, Option.or_none]

end Cache

inductive CacheWrite where
  | load (claims : List Claim) (marks : Marks)
  | upsert (claim : Claim)
  | insertClaimed (claim : Claim)
  | remove (cell : Cell)
  | changeAll (changes : List CacheChange)
  | clear

def CacheWrite.startsAnew : CacheWrite → Bool
  | load _ _ | clear => true
  | upsert _ | insertClaimed _ | remove _ | changeAll _ => false

namespace Cache

def write (c : Cache) : CacheWrite → Cache
  | .load claims marks => load claims marks
  | .upsert claim => c.upsert claim
  | .insertClaimed claim => c.insertClaimed claim
  | .remove cell => c.remove cell
  | .changeAll changes => c.changeAll changes
  | .clear => {}

def writeAll (c : Cache) (writes : List CacheWrite) : Cache := writes.foldl write c

variable {c : Cache}

theorem Exact.write (h : c.Exact) (w : CacheWrite) : (c.write w).Exact := by
  cases w with
  | load claims marks => exact exact_load claims marks
  | upsert claim => exact h.upsert claim
  | insertClaimed claim => exact h.change (.insert claim)
  | remove cell => exact h.remove cell
  | changeAll changes => exact h.changeAll changes
  | clear => exact exact_empty ∅

/-- The indices are exact after every write, as each write keeps them so. -/
theorem Exact.writeAll (h : c.Exact) (writes : List CacheWrite) : (c.writeAll writes).Exact := by
  induction writes generalizing c with
  | nil => exact h
  | cons w writes ih => exact ih (h.write w)

theorem markOf_le_change (c : Cache) (x : CacheChange) (player : PlayerId) :
    c.markOf player ≤ (c.change x).markOf player := by
  rw [markOf, markOf, marks_change]
  cases x with
  | insert claim => exact c.marks.of_le_of_raise claim player
  | upsert | remove => exact UInt32.le_refl _

theorem markOf_le_changeAll (c : Cache) (changes : List CacheChange) (player : PlayerId) :
    c.markOf player ≤ (c.changeAll changes).markOf player := by
  induction changes generalizing c with
  | nil => exact UInt32.le_refl _
  | cons x changes ih => exact UInt32.le_trans (c.markOf_le_change x player) (ih (c.change x))

/-- Only a load and a reset can lower a mark, as they forget all that was remembered before. -/
theorem markOf_le_write (c : Cache) {w : CacheWrite} (hw : w.startsAnew = false)
    (player : PlayerId) : c.markOf player ≤ (c.write w).markOf player := by
  cases w with
  | load | clear => cases hw
  | upsert claim => exact c.markOf_le_change (.upsert claim) player
  | insertClaimed claim => exact c.markOf_le_change (.insert claim) player
  | remove cell => exact c.markOf_le_change (.remove cell) player
  | changeAll changes => exact c.markOf_le_changeAll changes player

/-- No mark falls between the writes that start anew. -/
theorem markOf_le_writeAll (c : Cache) {writes : List CacheWrite}
    (hw : ∀ w ∈ writes, w.startsAnew = false) (player : PlayerId) :
    c.markOf player ≤ (c.writeAll writes).markOf player := by
  induction writes generalizing c with
  | nil => exact UInt32.le_refl _
  | cons w writes ih =>
    obtain ⟨hfirst, hrest⟩ := List.forall_mem_cons.mp hw
    exact UInt32.le_trans (c.markOf_le_write hfirst player) (ih (c.write w) hrest)

/-- Whatever was written since the cache was empty: a claim stands under its own cell, the cells of a
player and of a village are those whose claims name them as the owner, each once and in ascending order,
and no index has an owner without a cell. So what is counted for all players and all villages is what is
claimed. Of several claims of a cell that are loaded the last one counts, and the mark of a player falls
only where the cache starts anew. -/
theorem indices_exact_after_writes (writes : List CacheWrite) :
    let c := ({} : Cache).writeAll writes
    (∀ cell claim, c.owner? cell = some claim → claim.cell = cell) ∧
    (∀ player, Cell.Ascending (c.cellsOf player) ∧ (c.cellsOf player).length = c.countOf player ∧
      ∀ cell, cell ∈ c.cellsOf player ↔
        ∃ claim, c.owner? cell = some claim ∧ claim.owner = .personal player) ∧
    (∀ village, Cell.Ascending (c.landOf village) ∧
      (c.landOf village).length = c.landCount village ∧
      ∀ cell, cell ∈ c.landOf village ↔
        ∃ claim, c.owner? cell = some claim ∧ claim.owner = .village village) ∧
    c.byPlayer.Filled ∧ c.byVillage.Filled ∧
    ∑ᶠ player, c.countOf player + ∑ᶠ village, c.landCount village = c.stats.cells ∧
    (∀ claims marks cell, (c.write (.load claims marks)).owner? cell =
      (claims.filter fun claim => claim.cell = cell).getLast?) ∧
    ∀ later : List CacheWrite, (∀ w ∈ later, w.startsAnew = false) →
      ∀ player, c.markOf player ≤ (c.writeAll later).markOf player := by
  intro c
  have h : c.Exact := (exact_empty ∅).writeAll writes
  refine ⟨h.keyed, fun player => ⟨ExtTreeSet.ordered_toList,ExtTreeSet.length_toList,?_⟩,
    fun village => ⟨ExtTreeSet.ordered_toList,ExtTreeSet.length_toList,?_⟩,
    h.players.filled, h.villages.filled, h.finsum_counts, owner?_load, ?_⟩
  · exact fun _ => h.mem_cellsOf
  · exact fun _ => h.mem_landOf
  · exact fun later hlater player => c.markOf_le_writeAll hlater player

end Cache

namespace Sample

def roadClaim (x : Int32) (owner : Actor ⊕ Nat) (cost : Cost) : Claim :=
  match owner with
  | .inl actor => .make (road x) (.personal actor.id) actor.name cost (.ofSeconds 0)
  | .inr number => .make (road x) (.village ⟨.ofNat number⟩) "Hamlet" cost (.ofSeconds 0)

def rewriting : List CacheWrite :=
  [.load [roadClaim 0 (.inl ann) (.free 1),roadClaim 1 (.inl ann) (.free 2),
      roadClaim 0 (.inl ben) (.free 1)] ∅,
    .insertClaimed (roadClaim 2 (.inl ann) (.free 3)),
    .upsert (roadClaim 1 (.inr 7) (.free 2)),
    .changeAll [.upsert (roadClaim 3 (.inr 7) (.free 1)),.remove (road 3),
      .upsert (roadClaim 3 (.inl ben) (.free 2)),.upsert (roadClaim 3 (.inr 7) (.free 2))]]

/-- A load that names a cell twice, and cells that pass between players and a village, one of them
back and forth in one list of changes. -/
theorem rewriting_indices_exact :
    let c := ({} : Cache).writeAll rewriting
    let later : List CacheWrite :=
      [.remove (road 2),.insertClaimed (roadClaim 2 (.inl ann) (.free 1))]
    (∀ w ∈ later, w.startsAnew = false) ∧
    c.landOf ⟨.ofNat 7⟩ = [road 1,road 3] ∧ Cell.Ascending (c.landOf ⟨.ofNat 7⟩) ∧
    ∑ᶠ player, c.countOf player + ∑ᶠ village, c.landCount village = 4 ∧
    c.markOf ann.id = 3 ∧ 3 ≤ (c.writeAll later).markOf ann.id := by
  intro c later
  have hlater : ∀ w ∈ later, w.startsAnew = false := by decide
  have hmark : c.markOf ann.id = 3 := by decide +kernel
  have hcells : c.stats.cells = 4 := by decide +kernel
  obtain ⟨-, -, hland, -, -, hcounts, -, hmarks⟩ := Cache.indices_exact_after_writes rewriting
  refine ⟨hlater, by decide +kernel, (hland _).1, hcounts.trans hcells, hmark, ?_⟩
  rw [← hmark]
  exact hmarks later hlater ann.id

end Sample

end Freehold
