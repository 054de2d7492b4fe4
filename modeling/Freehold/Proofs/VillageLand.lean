import Freehold.Proofs.DirectoryMirror
import Freehold.Proofs.LandIndex
import Freehold.Proofs.Moves

/-!
The land of villages. A claim that names a village is backed by the directory: the village is there,
and the claim shows the name that it has now. A new name is written on all of its land, and a village
that ends has no land left, since the index from which its land is read is exact.
-/

namespace Freehold
open Std

namespace Directory
variable {d d' : Directory} {claim : Claim} {village : VillageId} {v : Village}

def Backs (d : Directory) (claim : Claim) : Prop :=
  ∀ village, claim.owner = .village village →
    ∃ v, d.villages[village]? = some v ∧ v.name = claim.ownerName

theorem backs_of_personal {player : PlayerId} (ho : claim.owner = .personal player) :
    d.Backs claim := by
  intro village hv
  rw [ho] at hv
  cases hv

/-- A claim of a village is backed when the village is there and bears the name that the claim
shows. -/
theorem backs_of_village (ho : claim.owner = .village village)
    (hv : d.villages[village]? = some v) (hn : v.name = claim.ownerName) : d.Backs claim := by
  intro other hother
  rw [ho] at hother
  cases hother
  exact ⟨v,hv,hn⟩

/-- A claim stays backed if the row of its village keeps the name, or is not touched. -/
theorem Backs.insert (h : d.Backs claim) (hd : d'.villages = d.villages.insert v.id v)
    (hv : ∀ old, claim.owner = .village v.id → d.villages[v.id]? = some old → v.name = old.name) :
    d'.Backs claim := by
  intro village ho
  obtain ⟨old, hold, hname⟩ := h village ho
  rw [hd]
  by_cases hk : v.id = village
  · subst hk
    exact ⟨v,ExtTreeMap.getElem?_insert_self,(hv old ho hold).trans hname⟩
  · exact ⟨old,getElem?_insert_eq_some_iff.mpr (.inr ⟨hk,hold⟩),hname⟩

theorem Backs.erase (h : d.Backs claim) (hd : d'.villages = d.villages.erase village)
    (hn : claim.owner ≠ .village village) : d'.Backs claim := by
  intro other ho
  obtain ⟨v, hv, hname⟩ := h other ho
  have hk : village ≠ other := by
    rintro rfl
    exact hn ho
  rw [hd]
  exact ⟨v,getElem?_erase_eq_some_iff.mpr ⟨hk,hv⟩,hname⟩

end Directory

/-- The cells of a village in the cache give all the claims that the store has of it. -/
theorem Realm.InSync.stillOwned_of_stored {s : Realm} (h : s.InSync) (he : s.cache.Exact) {cell : Cell}
    {claim : Claim} {village : VillageId} (hc : s.storage.tables.claims[cell]? = some claim)
    (ho : claim.owner = .village village) :
    claim ∈ (s.stillOwned village (s.cache.landOf village)).1 := by
  have hfound : s.cache.owner? cell = some claim := by
    rw [h.owner?_eq]
    exact hc
  have hland : cell ∈ s.cache.landOf village := he.mem_landOf.mpr ⟨claim,hfound,ho⟩
  exact Realm.mem_stillOwned.mpr ⟨cell,hland,hfound,ho⟩

namespace Command.ComesTo
variable {stamp : Stamp} {s : Realm} {c : Command} {p : Plan Answer} {t : Store}

/-- What a plan writes about village land fits the directory that it leaves. -/
theorem backs_written (hc : c.ComesTo stamp s p) (h : s.Orderly) {x : CacheChange}
    (hx : x ∈ p.cacheChanges) {claim : Claim} (hclaim : x.claim? = some claim) :
    (p.directoryChange s.directory).Backs claim := by
  cases hc with
  | claim | claimWithLimit | claimNext =>
    obtain rfl := List.mem_singleton.mp hx
    obtain rfl := Option.some.inj hclaim
    exact Directory.backs_of_personal rfl
  | unclaim =>
    obtain rfl := List.mem_singleton.mp hx
    cases hclaim
  | @found a name cells claims =>
    obtain ⟨before, -, rfl⟩ := List.mem_map.mp hx
    obtain rfl := Option.some.inj hclaim
    let v : Village := .found stamp.village name a.id stamp.now
    exact Directory.backs_of_village (v := v) rfl ExtTreeMap.getElem?_insert_self rfl
  | disband =>
    obtain ⟨before, -, rfl⟩ := List.mem_map.mp hx
    obtain rfl := Option.some.inj hclaim
    exact Directory.backs_of_personal rfl
  | @rename a village name v named active =>
    obtain rfl : v.id = village := h.sound.keyed.villages village v active
    rw [Plan.cacheChanges_map] at hx
    simp only [Plan.rename, List.map_map] at hx
    obtain ⟨before, hb, rfl⟩ := List.mem_map.mp hx
    obtain rfl := Option.some.inj hclaim
    have ho : before.owner = .village v.id := (Realm.owned_of_mem_stillOwned h.sync hb).2
    let renamed : Village := { v with name := name, updatedAt := stamp.now }
    have hrow : (s.directory.updateVillage renamed).villages[v.id]? = some renamed := by
      rw [Directory.villages_updateVillage]
      exact ExtTreeMap.getElem?_insert_self
    exact Directory.backs_of_village ho hrow rfl
  | expand _ _ active =>
    obtain rfl := List.mem_singleton.mp hx
    obtain rfl := Option.some.inj hclaim
    exact Directory.backs_of_village rfl active rfl
  | returnCells =>
    obtain ⟨before, -, rfl⟩ := List.mem_map.mp hx
    cases hclaim
  | transfer | addMember | kick | setRole | leave | grant | revoke => cases hx

/-- A claim that a plan does not write about stays backed by the directory. -/
theorem backs_kept (hc : c.ComesTo stamp s p) (h : s.Orderly) (he : s.cache.Exact)
    (hw : s.storage.tables.writeAll p.batch = .ok t) {cell : Cell} {claim : Claim}
    (hold : s.storage.tables.claims[cell]? = some claim)
    (hx : cell ∉ p.cacheChanges.map CacheChange.cell) (hb : s.directory.Backs claim) :
    (p.directoryChange s.directory).Backs claim := by
  have hkey : claim.cell = cell := h.sync.keyed.claims cell claim hold
  cases hc with
  | claim | claimWithLimit | claimNext | unclaim | expand | returnCells => exact hb
  | addMember | kick | setRole | leave | grant | revoke => exact hb
  | found =>
    have hstore : stamp.village ∉ s.storage.tables.villages :=
      (Store.writeAll_cons_eq_ok_iff.mp hw).1
    -- The row is a new one, so it takes the place of none that the claim could name.
    refine hb.insert rfl fun old _ hrow => ?_
    exact absurd (mem_of_getElem?_eq_some hrow) (h.mirrors.notMem_villages hstore)
  | @disband a village v mayor active =>
    obtain rfl : v.id = village := h.sound.keyed.villages village v active
    refine hb.erase Directory.villages_removeVillage fun ho => hx ?_
    -- All land of the village is in the index, so the plan writes about this cell.
    have hstill := h.sync.stillOwned_of_stored he hold ho
    rw [Plan.cacheChanges_map]
    exact List.mem_map.mpr ⟨_,List.mem_map_of_mem hstill,hkey⟩
  | @transfer a village next v old new active =>
    obtain rfl : v.id = village := h.sound.keyed.villages village v active
    let updated : Village := { v with mayor := next, updatedAt := stamp.now }
    refine hb.insert (v := updated) (Directory.villages_updateVillage updated) ?_
    intro row _ hrow
    obtain rfl : v = row := Option.some.inj (active.symm.trans hrow)
    rfl
  | @rename a village name v named active =>
    obtain rfl : v.id = village := h.sound.keyed.villages village v active
    let renamed : Village := { v with name := name, updatedAt := stamp.now }
    refine hb.insert (v := renamed) (Directory.villages_updateVillage renamed) ?_
    intro row ho _
    -- A claim of this village is written again under the new name, so this claim is of another.
    have hstill := h.sync.stillOwned_of_stored he hold ho
    refine absurd ?_ hx
    rw [Plan.cacheChanges_map]
    simp only [Plan.rename, List.map_map]
    exact List.mem_map.mpr ⟨claim,hstill,hkey⟩

end Command.ComesTo

namespace Managed
variable {s : Realm}

/-- Every claim in the store is backed, in all states that a server comes to. -/
theorem backs (h : Managed s) {cell : Cell} {claim : Claim}
    (hc : s.storage.tables.claims[cell]? = some claim) : s.directory.Backs claim := by
  induction h generalizing cell claim with
  | @start s empty started =>
    have htables : s.start.realm.storage.tables = {} :=
      (Realm.recalls_start started).tables.trans empty
    rw [htables] at hc
    simp at hc
  | @run s managed o stamp ih =>
    have horderly : s.Orderly := managed.orderly
    rcases horderly.sync.run_cases o stamp with hr | ⟨c,p,rfl,hplan,hp⟩
    · rw [hr.tables] at hc
      rw [horderly.directory_eq hr]
      exact ih hc
    · have hd : (Operation.run stamp s (.command c)).realm.directory =
          p.directoryChange s.directory := hp.directory
      have hclaims : (Operation.run stamp s (.command c)).realm.storage.tables.claims =
          p.cacheChanges.foldl CacheChange.onClaims s.storage.tables.claims := hplan.claims_eq hp
      rw [hclaims] at hc
      rw [hd]
      rcases CacheChange.eq_some_of_foldl_onClaims hc with ⟨x,hx,hclaim⟩ | ⟨hx,hold⟩
      · exact hplan.backs_written horderly hx hclaim
      · exact hplan.backs_kept horderly managed.exact hp.written hold hx (ih hold)

/-- No village of the cache lacks a row in the directory, so a reload has no orphaned land to report.
-/
theorem orphans_eq_nil (h : Managed s) : s.orphans = [] := by
  rw [Realm.orphans, List.map_eq_nil_iff, List.filter_eq_nil_iff]
  intro village hland
  obtain ⟨cell, hcell⟩ := h.exact.mem_villagesWithLand.mp hland
  obtain ⟨claim, hc, ho⟩ := h.exact.mem_landOf.mp hcell
  rw [h.inSync.owner?_eq] at hc
  obtain ⟨v, hv, -⟩ := h.backs hc village ho
  simp [Directory.village?, hv]

/-- In every state that a server comes to, a claim of a village, in the store or in the cache, names a
village that is active in the store and in the directory, and shows the name that this village has
there. -/
theorem village_land_backed (h : Managed s) {cell : Cell} {claim : Claim} {village : VillageId}
    (hc : s.storage.tables.claims[cell]? = some claim ∨ s.cache.owner? cell = some claim)
    (ho : claim.owner = .village village) :
    ∃ v, s.storage.tables.villages[village]? = some v ∧ v.active = true ∧
      s.directory.villages[village]? = some v ∧ claim.ownerName = v.name := by
  obtain ⟨sync, -, mirrors⟩ := h.orderly
  have hstored : s.storage.tables.claims[cell]? = some claim := by
    rcases hc with hc | hc
    · exact hc
    · rw [← sync.claims]
      exact hc
  obtain ⟨v, hv, hname⟩ := h.backs hstored village ho
  obtain ⟨hrow, hactive⟩ := (mirrors.villages village v).mp hv
  exact ⟨v,hrow,hactive,hv,hname.symm⟩

end Managed

/-- The road is still the village's after it got its new name, and shows this name. -/
theorem Sample.parish_village_land_backed :
    Managed parish ∧ ∃ claim v,
      parish.cache.owner? (road 2) = some claim ∧ claim.owner = .village oakham ∧
      parish.storage.tables.villages[oakham]? = some v ∧ v.active = true ∧
      parish.directory.villages[oakham]? = some v ∧
      claim.ownerName = v.name ∧ claim.ownerName = "Oak Vale" := by
  have hroad : (parish.cache.owner? (road 2)).map (fun c => (c.owner,c.ownerName)) =
      some (.village oakham,"Oak Vale") := by
    decide +kernel
  obtain ⟨claim, hc, hlabel⟩ := Option.map_eq_some_iff.mp hroad
  obtain ⟨ho, hname⟩ := Prod.mk.inj hlabel
  obtain ⟨v, hrow, hactive, hlisted, hcurrent⟩ := managed_parish.village_land_backed (.inr hc) ho
  exact ⟨managed_parish,claim,v,hc,ho,hrow,hactive,hlisted,hcurrent,hname⟩

end Freehold
