import Freehold.Proofs.Plans
import Freehold.Proofs.Sync

/-!
How land changes hands. A batch takes some cells from one owner to another, nobody being an owner
too here, and writes one entry for each of them into the audit trail. All other cells stay whose
they were and get no entry.
-/

namespace Freehold
open Std

def Store.ownerOf (t : Store) (cell : Cell) : Option Owner := t.claims[cell]?.map (·.owner)

namespace HistoryEntry

structure Fits (e : HistoryEntry) : Prop where
  claimed : e.action = .claimed ↔ e.previousOwner = none ∧ e.newOwner ≠ none
  transferred : e.action = .transferred ↔ e.previousOwner ≠ none ∧ e.newOwner ≠ none
  removed : e.action = .unclaimed ∨ e.action = .confiscated ↔
    e.previousOwner ≠ none ∧ e.newOwner = none

structure Tells (e : HistoryEntry) (before after : Option Owner) : Prop where
  previous : e.previousOwner = before
  next : e.newOwner = after
  changed : before ≠ after
  fits : e.Fits

variable (c : Claim) (actor : PlayerId) (reason : Option String) (stamp : Stamp)

/-- Each entry says from whom to whom the cell passed, in a word that fits both. -/
theorem tells_claimed : (claimed c actor stamp).Tells none (some c.owner) := by
  refine ⟨rfl,rfl,nofun,?_,?_,?_⟩ <;> simp [claimed]

theorem tells_removed {ground : HistoryAction}
    (h : ground = .unclaimed ∨ ground = .confiscated) :
    (removed c actor ground reason stamp).Tells (some c.owner) none := by
  rcases h with rfl | rfl <;> refine ⟨rfl,rfl,nofun,?_,?_,?_⟩ <;> simp [removed]

/-- A transfer is between two different owners. -/
theorem tells_transferred {before after : Claim} {why : String} (h : before.owner ≠ after.owner) :
    (transferred before after actor why stamp).Tells (some before.owner) (some after.owner) := by
  refine ⟨rfl,rfl,fun he => h (Option.some.inj he),?_,?_,?_⟩ <;> simp [transferred]

end HistoryEntry

structure Store.Moves (t t' : Store) (cells : List Cell) (old new : Option Owner)
    (entries : List HistoryEntry) : Prop where
  before : ∀ cell ∈ cells, t.ownerOf cell = old
  after : ∀ cell ∈ cells, t'.ownerOf cell = new
  kept : ∀ cell, cell ∉ cells → t'.ownerOf cell = t.ownerOf cell
  history : t'.history = t.history ++ entries
  told : ∀ cell ∈ cells, ∃ e, entries.filter (·.cell = cell) = [e] ∧ e.Tells old new
  untold : ∀ cell, cell ∉ cells → entries.filter (·.cell = cell) = []

/-- A cell whose owner differs is one of those that were moved. -/
theorem Store.Moves.mem_of_ownerOf_ne {t t' : Store} {cells : List Cell} {old new : Option Owner}
    {entries : List HistoryEntry} (h : t.Moves t' cells old new entries) {cell : Cell}
    (hne : t.ownerOf cell ≠ t'.ownerOf cell) : cell ∈ cells := by
  by_contra hn
  exact hne (h.kept cell hn).symm

namespace Store
variable {t t' : Store} {b : Batch} {old new : Option Owner} {claims : List Claim}

/-- Of entries about different cells each cell has one. -/
theorem filter_eq_singleton_of_nodup {h : Claim → HistoryEntry} (hn : (claims.map (·.cell)).Nodup)
    (hh : ∀ c ∈ claims, (h c).cell = c.cell) {c : Claim} (hc : c ∈ claims) :
    (claims.map h).filter (·.cell = c.cell) = [h c] := by
  induction claims with
  | nil => cases hc
  | cons first claims ih =>
    rw [List.map_cons, List.nodup_cons] at hn
    have hrest : ∀ c ∈ claims, (h c).cell = c.cell := fun c hm => hh c (List.mem_cons_of_mem _ hm)
    have hfirst : (h first).cell = first.cell := hh first List.mem_cons_self
    rcases List.mem_cons.mp hc with rfl | hc
    · -- No later claim of the list is about the same cell.
      have hnone : (claims.map h).filter (·.cell = c.cell) = [] := by
        rw [List.filter_eq_nil_iff]
        intro e he
        obtain ⟨other, ho, rfl⟩ := List.mem_map.mp he
        rw [hrest other ho, decide_eq_true_iff]
        intro heq
        exact hn.1 (List.mem_map.mpr ⟨other,ho,heq⟩)
      simp [hfirst, hnone]
    · have hne : first.cell ≠ c.cell := by
        intro heq
        exact hn.1 (List.mem_map.mpr ⟨c,hc,heq.symm⟩)
      rw [List.map_cons, List.filter_cons_of_neg (by simpa [hfirst] using hne)]
      exact ih hn.2 hrest hc

/-- A batch with one change and one entry for each of these claims, whose cells differ, moves those
cells. -/
theorem moves_of_writeAll (claims : List Claim) (hw : t.writeAll b = .ok t')
    {x : Claim → CacheChange} {h : Claim → HistoryEntry} (hx : Batch.changes b = claims.map x)
    (hh : Batch.entries b = claims.map h) (hn : (claims.map (·.cell)).Nodup)
    (hxc : ∀ c ∈ claims, (x c).cell = c.cell) (hhc : ∀ c ∈ claims, (h c).cell = c.cell)
    (hbefore : ∀ c ∈ claims, t.ownerOf c.cell = old)
    (hafter : ∀ c ∈ claims, (x c).claim?.map (·.owner) = new)
    (htells : ∀ c ∈ claims, (h c).Tells old new) :
    t.Moves t' (claims.map (·.cell)) old new (claims.map h) := by
  have hcells : (Batch.changes b).map CacheChange.cell = claims.map (·.cell) := by
    rw [hx, List.map_map]
    exact List.map_congr_left hxc
  refine ⟨?_, ?_, ?_, ?_, ?_, ?_⟩
  · intro cell hc
    obtain ⟨c, hm, rfl⟩ := List.mem_map.mp hc
    exact hbefore c hm
  · intro cell hc
    obtain ⟨c, hm, rfl⟩ := List.mem_map.mp hc
    have hxm : x c ∈ Batch.changes b := hx ▸ List.mem_map_of_mem hm
    rw [ownerOf, claims_writeAll hw, ← hxc c hm,
      CacheChange.getElem?_foldl_onClaims_of_mem _ (hcells ▸ hn) hxm]
    exact hafter c hm
  · intro cell hc
    rw [ownerOf, claims_writeAll hw,
      CacheChange.getElem?_foldl_onClaims_of_notMem _ (hcells ▸ hc), ownerOf]
  · rw [history_writeAll hw, hh]
  · intro cell hc
    obtain ⟨c, hm, rfl⟩ := List.mem_map.mp hc
    exact ⟨h c,filter_eq_singleton_of_nodup hn hhc hm,htells c hm⟩
  · intro cell hc
    rw [List.filter_eq_nil_iff]
    intro e he
    obtain ⟨c, hm, rfl⟩ := List.mem_map.mp he
    rw [hhc c hm, decide_eq_true_iff]
    rintro rfl
    exact hc (List.mem_map_of_mem hm)

/-- A batch without entries that leaves every claim with its owner moves nothing. -/
theorem moves_nil_of_writeAll (hw : t.writeAll b = .ok t')
    (hn : ((Batch.changes b).map CacheChange.cell).Nodup) (he : Batch.entries b = [])
    (hk : ∀ x ∈ Batch.changes b, x.claim?.map (·.owner) = t.ownerOf x.cell) :
    t.Moves t' [] old new [] := by
  refine ⟨nofun, nofun, ?_, ?_, nofun, fun _ _ => rfl⟩
  · intro cell _
    rw [ownerOf, claims_writeAll hw]
    by_cases hc : cell ∈ (Batch.changes b).map CacheChange.cell
    · obtain ⟨x, hx, rfl⟩ := List.mem_map.mp hc
      rw [CacheChange.getElem?_foldl_onClaims_of_mem _ hn hx]
      exact hk x hx
    · rw [CacheChange.getElem?_foldl_onClaims_of_notMem _ hc, ownerOf]
  · rw [history_writeAll hw, he]

end Store

/-! ### The cells of a request -/

theorem Cell.nodup_sorted (cells : List Cell) : (sorted cells).Nodup := nodup_toList _

theorem Cell.mem_sorted {cells : List Cell} {cell : Cell} :
    cell ∈ sorted cells ↔ cell ∈ cells := by
  rw [sorted, ExtTreeSet.mem_toList, ExtTreeSet.mem_ofList, List.contains_iff_mem]

namespace Realm
variable {s : Realm} {owner : Owner} {village : VillageId} {cells : List Cell}
  {claims : List Claim} {claim : Claim} {cell : Cell}

theorem InSync.cell_eq (h : s.InSync) (hc : s.cache.owner? cell = some claim) :
    claim.cell = cell := by
  rw [h.owner?_eq] at hc
  exact h.keyed.claims cell claim hc

theorem InSync.ownerOf_eq (h : s.InSync) (hc : s.cache.owner? cell = some claim) :
    s.storage.tables.ownerOf cell = some claim.owner := by
  rw [h.owner?_eq] at hc
  rw [Store.ownerOf, hc]
  rfl

theorem Vacant.ownerOf_eq (h : s.Vacant cell) : s.storage.tables.ownerOf cell = none := by
  rw [Store.ownerOf, h.stored]
  rfl

theorem Owns.map_cell (ho : s.Owns owner cells claims) (h : s.InSync) :
    claims.map (·.cell) = cells := by
  induction ho with
  | nil => rfl
  | cons hc _ ih => rw [List.map_cons, ih, h.cell_eq hc.1]

theorem Owns.owned_of_keyed (ho : s.Owns owner cells claims)
    (hk : Keyed Claim.cell s.cache.byCell) :
    ∀ c ∈ claims, s.cache.owner? c.cell = some c ∧ c.owner = owner := by
  induction ho with
  | nil => nofun
  | cons hc _ ih =>
    intro c hm
    rcases List.mem_cons.mp hm with rfl | hm
    · exact ⟨hk _ c hc.1 ▸ hc.1,hc.2⟩
    · exact ih c hm

theorem Owns.owned (ho : s.Owns owner cells claims) (h : s.InSync) :
    ∀ c ∈ claims, s.cache.owner? c.cell = some c ∧ c.owner = owner :=
  ho.owned_of_keyed fun _ _ => h.cell_eq

/-- Cells that a village lost in the meantime are passed over. -/
theorem mem_stillOwned : claim ∈ (s.stillOwned village cells).1 ↔
    ∃ cell ∈ cells, s.cache.owner? cell = some claim ∧ claim.owner = .village village := by
  simp [stillOwned, List.mem_filterMap, Option.filter_eq_some_iff]

theorem owned_of_mem_stillOwned_of_keyed (hk : Keyed Claim.cell s.cache.byCell)
    (hc : claim ∈ (s.stillOwned village cells).1) :
    s.cache.owner? claim.cell = some claim ∧ claim.owner = .village village := by
  obtain ⟨cell, -, hfound, howner⟩ := mem_stillOwned.mp hc
  exact ⟨hk cell claim hfound ▸ hfound,howner⟩

theorem owned_of_mem_stillOwned (h : s.InSync) (hc : claim ∈ (s.stillOwned village cells).1) :
    s.cache.owner? claim.cell = some claim ∧ claim.owner = .village village :=
  owned_of_mem_stillOwned_of_keyed (fun _ _ => h.cell_eq) hc

theorem nodup_stillOwned (h : s.InSync) (hn : cells.Nodup) :
    ((s.stillOwned village cells).1.map (·.cell)).Nodup := by
  rw [stillOwned, List.Nodup, List.pairwise_map, List.pairwise_filterMap]
  refine hn.imp ?_
  intro a b hab c hc d hd hcd
  have ha : s.cache.owner? a = some c := (Option.filter_eq_some_iff.mp hc).1
  have hb : s.cache.owner? b = some d := (Option.filter_eq_some_iff.mp hd).1
  exact hab ((h.cell_eq ha).symm.trans (hcd.trans (h.cell_eq hb)))

end Realm

/-! ### What each plan moves -/

namespace Plan
open Store
variable {s : Realm} {t : Store} {a : Actor} {actor : PlayerId} {village : VillageId}
  {cells : List Cell} {claims : List Claim} {claim : Claim} {stamp : Stamp}
  {reason : Option String}

theorem moves_claim (hv : s.Vacant claim.cell)
    (hw : s.storage.tables.writeAll (Plan.claim actor claim stamp).batch = .ok t) :
    s.storage.tables.Moves t [claim.cell] none (some claim.owner) [.claimed claim actor stamp] := by
  have hn : ([claim].map (·.cell)).Nodup := List.pairwise_singleton _ _
  refine moves_of_writeAll [claim] hw (x := .insert) (h := (.claimed · actor stamp)) rfl rfl hn
    ?_ ?_ ?_ ?_ ?_ <;> rw [List.forall_mem_singleton]
  · rfl
  · rfl
  · exact hv.ownerOf_eq
  · rfl
  · exact HistoryEntry.tells_claimed claim actor stamp

theorem moves_release {config : ClaimConfig} {ground : HistoryAction} (h : s.InSync)
    (hc : s.cache.owner? claim.cell = some claim) (hg : ground = .unclaimed ∨ ground = .confiscated)
    (hw : s.storage.tables.writeAll
      (Plan.release config actor claim.cell claim ground reason stamp).batch = .ok t) :
    s.storage.tables.Moves t [claim.cell] (some claim.owner) none
      [.removed claim actor ground reason stamp] := by
  have hn : ([claim].map (·.cell)).Nodup := List.pairwise_singleton _ _
  refine moves_of_writeAll [claim] hw (x := fun c => .remove c.cell)
    (h := (.removed · actor ground reason stamp)) rfl rfl hn ?_ ?_ ?_ ?_ ?_ <;>
    rw [List.forall_mem_singleton]
  · rfl
  · rfl
  · exact h.ownerOf_eq hc
  · rfl
  · exact HistoryEntry.tells_removed claim actor reason stamp hg

/-- Land of one owner that passes to another, claim by claim. -/
theorem moves_passing {b : Batch} {old new : Owner} {name why : String} (h : s.InSync)
    (hw : s.storage.tables.writeAll b = .ok t)
    (hx : Batch.changes b = claims.map fun c => .upsert (c.passTo new name stamp.now))
    (he : Batch.entries b = claims.map fun c =>
      .transferred c (c.passTo new name stamp.now) actor why stamp)
    (hn : (claims.map (·.cell)).Nodup)
    (ho : ∀ c ∈ claims, s.cache.owner? c.cell = some c ∧ c.owner = old) (hne : old ≠ new) :
    s.storage.tables.Moves t (claims.map (·.cell)) (some old) (some new)
      (claims.map fun c => .transferred c (c.passTo new name stamp.now) actor why stamp) := by
  refine moves_of_writeAll claims hw hx he hn (fun _ _ => rfl) (fun _ _ => rfl) ?_
    (fun _ _ => rfl) ?_
  · intro c hc
    rw [h.ownerOf_eq (ho c hc).1, (ho c hc).2]
  · intro c hc
    have hd : c.owner ≠ (c.passTo new name stamp.now).owner := (ho c hc).2 ▸ hne
    exact (ho c hc).2 ▸ HistoryEntry.tells_transferred actor stamp hd

/-- A founding moves the land of the founder to the village. -/
theorem moves_found {name : String} (h : s.InSync)
    (ho : s.Owns (.personal a.id) (Cell.sorted cells) claims)
    (hw : s.storage.tables.writeAll (Plan.found a name claims stamp).batch = .ok t) :
    s.storage.tables.Moves t (Cell.sorted cells) (some (.personal a.id))
      (some (.village stamp.village))
      (claims.map fun c => .transferred c (c.passTo (.village stamp.village) name stamp.now) a.id
        "village founded" stamp) := by
  have hcells : claims.map (·.cell) = Cell.sorted cells := ho.map_cell h
  have hn : (claims.map (·.cell)).Nodup := hcells ▸ Cell.nodup_sorted cells
  have hm := moves_passing h hw changes_found entries_found hn (ho.owned h) nofun
  rwa [hcells] at hm

/-- The end of a village moves its land to the mayor. -/
theorem moves_disband {v : Village} {mayor : Membership} {members : List PlayerId}
    {grants : List PermissionKey} {count : Nat} (h : s.InSync) (hn : cells.Nodup)
    (hw : s.storage.tables.writeAll (Plan.disband v mayor members grants
      (s.stillOwned village cells).1 count actor stamp).batch = .ok t) :
    s.storage.tables.Moves t ((s.stillOwned village cells).1.map (·.cell)) (some (.village village))
      (some (.personal mayor.member))
      ((s.stillOwned village cells).1.map fun c => .transferred c
        (c.passTo (.personal mayor.member) mayor.memberName stamp.now) actor "village disbanded"
          stamp) :=
  moves_passing h hw changes_disband entries_disband (Realm.nodup_stillOwned h hn)
    (fun _ hc => Realm.owned_of_mem_stillOwned h hc) nofun

theorem moves_returnCells (h : s.InSync)
    (ho : s.Owns (.village village) (Cell.sorted cells) claims)
    (hw : s.storage.tables.writeAll
      (Plan.returnCells actor village claims reason stamp).batch = .ok t) :
    s.storage.tables.Moves t (Cell.sorted cells) (some (.village village)) none
      (claims.map fun c => .removed c actor .unclaimed reason stamp) := by
  have hcells : claims.map (·.cell) = Cell.sorted cells := ho.map_cell h
  have hn : (claims.map (·.cell)).Nodup := hcells ▸ Cell.nodup_sorted cells
  rw [← hcells]
  refine moves_of_writeAll claims hw changes_returnCells entries_returnCells hn (fun _ _ => rfl)
    (fun _ _ => rfl) ?_ (fun _ _ => rfl) ?_
  · intro c hc
    obtain ⟨hfound, howner⟩ := ho.owned h c hc
    rw [h.ownerOf_eq hfound, howner]
  · intro c hc
    exact (ho.owned h c hc).2 ▸ HistoryEntry.tells_removed c actor reason stamp (.inl rfl)

/-- A new name moves nothing. -/
theorem moves_rename {v : Village} {name : String} {old new : Option Owner} (h : s.InSync)
    (hn : cells.Nodup) (hw : s.storage.tables.writeAll
      (Plan.rename v name (s.stillOwned village cells).1 actor stamp).batch = .ok t) :
    s.storage.tables.Moves t [] old new [] := by
  have hx : (Plan.rename v name (s.stillOwned village cells).1 actor stamp).cacheChanges =
      (s.stillOwned village cells).1.map fun c => .upsert { c with ownerName := name } :=
    List.map_map
  refine moves_nil_of_writeAll hw ?_ entries_rename ?_
  · rw [changes_rename, hx, List.map_map]
    exact Realm.nodup_stillOwned h hn
  -- Each claim is written again under the new name, with the owner it had.
  · intro x hm
    rw [changes_rename, hx] at hm
    obtain ⟨c, hc, rfl⟩ := List.mem_map.mp hm
    exact (h.ownerOf_eq (Realm.owned_of_mem_stillOwned h hc).1).symm

/-- A plan that is not about land moves nothing. -/
theorem moves_of_nil {p : Plan Answer} {old new : Option Owner}
    (hx : Batch.changes p.batch = []) (he : Batch.entries p.batch = [])
    (hw : s.storage.tables.writeAll p.batch = .ok t) : s.storage.tables.Moves t [] old new [] := by
  refine moves_nil_of_writeAll hw ?_ he ?_
  · rw [hx]
    exact List.nodup_nil
  · rw [hx]
    nofun

end Plan

end Freehold
