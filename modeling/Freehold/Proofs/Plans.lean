import Freehold.Proofs.Command

/-!
What the batch of each plan tells the cache, what it tells the audit trail, and what it files about
villages. The writes of villages, members and grants tell neither of the first two, and the writes of
claims file nothing.
-/

namespace Freehold
open Std

namespace Batch

theorem changes_passing (claims : List Claim) (owner : Owner) (ownerName : String)
    (actor : PlayerId) (reason : String) (stamp : Stamp) :
    changes (claims.flatMap (Write.passing owner ownerName actor reason stamp)) =
      claims.map fun c => .upsert (c.passTo owner ownerName stamp.now) := by
  rw [changes_flatMap, List.map_eq_flatMap]
  rfl

theorem entries_passing (claims : List Claim) (owner : Owner) (ownerName : String)
    (actor : PlayerId) (reason : String) (stamp : Stamp) :
    entries (claims.flatMap (Write.passing owner ownerName actor reason stamp)) =
      claims.map fun c =>
        .transferred c (c.passTo owner ownerName stamp.now) actor reason stamp := by
  rw [entries_flatMap, List.map_eq_flatMap]
  rfl

/-- Writes of one kind that is no write of a claim. -/
theorem changes_map_of_none {α : Type} (xs : List α) {f : α → Write}
    (h : ∀ x, (f x).change? = none) : changes (xs.map f) = [] := by
  simp [h]

theorem entries_map_of_none {α : Type} (xs : List α) {f : α → Write}
    (h : ∀ x, (f x).appended? = none) : entries (xs.map f) = [] := by
  simp [h]

theorem changes_removal (d : Directory) (key : MemberKey) :
    changes (Write.removal d key) = [] := by
  rw [Write.removal, changes_append, changes_map_of_none _ fun _ => rfl]
  rfl

theorem entries_removal (d : Directory) (key : MemberKey) :
    entries (Write.removal d key) = [] := by
  rw [Write.removal, entries_append, entries_map_of_none _ fun _ => rfl]
  rfl

/-- Land that passes on is no news for a table that neither claims nor entries are told to. -/
theorem filterMap_passing {β : Type} {told : Write → Option β}
    (hc : ∀ claim, told (.updateClaim claim) = none)
    (he : ∀ entry, told (.appendHistory entry) = none) (claims : List Claim) (owner : Owner)
    (ownerName : String) (actor : PlayerId) (reason : String) (stamp : Stamp) :
    (claims.flatMap (Write.passing owner ownerName actor reason stamp)).filterMap told = [] := by
  simp [List.filterMap_flatMap, Write.passing, hc, he]

/-- A removal empties the place of the member and takes back what was handed to him. -/
theorem filings_removal (d : Directory) (key : MemberKey) :
    filings (Write.removal d key) =
      { seats := [(key,none)]
        permits := (d.granted key).toList.map fun c => (⟨key,c⟩,none) } := by
  simp [filings, Write.removal, Write.village?, Write.seat?, Write.permit?, Function.comp_def]

end Batch

namespace Plan
open Batch
variable {a : Actor} {name : String} {claims : List Claim} {stamp : Stamp}

/-- The batch of a plan and what it tells the cache are written down apart. They agree, here and for
the plans below. -/
theorem changes_found : changes (Plan.found a name claims stamp).batch =
    (Plan.found a name claims stamp).cacheChanges := by
  have hb : (Plan.found a name claims stamp).batch = [_, _] ++ claims.flatMap _ := rfl
  rw [hb, changes_append, changes_passing]
  rfl

theorem entries_found : entries (Plan.found a name claims stamp).batch =
    claims.map fun c =>
      .transferred c (c.passTo (.village stamp.village) name stamp.now) a.id "village founded"
        stamp := by
  have hb : (Plan.found a name claims stamp).batch = [_, _] ++ claims.flatMap _ := rfl
  rw [hb, entries_append, entries_passing]
  rfl

theorem filings_found : filings (Plan.found a name claims stamp).batch =
    { villages := [.found stamp.village name a.id stamp.now]
      seats := [(⟨stamp.village,a.id⟩,some (.join stamp.village a .mayor stamp.now))] } := by
  simp only [filings, Plan.found, List.filterMap_append]
  rw [filterMap_passing (fun _ => rfl) fun _ => rfl,
    filterMap_passing (fun _ => rfl) fun _ => rfl, filterMap_passing (fun _ => rfl) fun _ => rfl]
  rfl

section Disband
variable {v : Village} {mayor : Membership} {members : List PlayerId} {grants : List PermissionKey}
  {count : Nat} {actor : PlayerId}

theorem changes_disband :
    changes (Plan.disband v mayor members grants claims count actor stamp).batch =
      (Plan.disband v mayor members grants claims count actor stamp).cacheChanges := by
  have hb : (Plan.disband v mayor members grants claims count actor stamp).batch =
    claims.flatMap _ ++ [_] ++ grants.map _ ++ members.map _ := rfl
  rw [hb, changes_append, changes_append, changes_append, changes_passing,
    changes_map_of_none grants fun _ => rfl, changes_map_of_none members fun _ => rfl,
    List.append_nil, List.append_nil]
  exact List.append_nil _

theorem entries_disband :
    entries (Plan.disband v mayor members grants claims count actor stamp).batch =
      claims.map fun c =>
        .transferred c (c.passTo (.personal mayor.member) mayor.memberName stamp.now) actor
          "village disbanded" stamp := by
  have hb : (Plan.disband v mayor members grants claims count actor stamp).batch =
    claims.flatMap _ ++ [_] ++ grants.map _ ++ members.map _ := rfl
  rw [hb, entries_append, entries_append, entries_append, entries_passing,
    entries_map_of_none grants fun _ => rfl, entries_map_of_none members fun _ => rfl,
    List.append_nil, List.append_nil]
  exact List.append_nil _

/-- The row of a village that ends stays and is no longer active. -/
theorem filings_disband :
    filings (Plan.disband v mayor members grants claims count actor stamp).batch =
      { villages := [{ v with active := false, updatedAt := stamp.now }]
        seats := members.map fun p => (⟨v.id,p⟩,none)
        permits := grants.map fun key => (key,none) } := by
  simp only [filings, Plan.disband, List.filterMap_append, List.filterMap_map]
  rw [filterMap_passing (fun _ => rfl) fun _ => rfl,
    filterMap_passing (fun _ => rfl) fun _ => rfl, filterMap_passing (fun _ => rfl) fun _ => rfl]
  simp [Write.village?, Write.seat?, Write.permit?, Function.comp_def]

end Disband

variable {v : Village} {village : VillageId} {actor : PlayerId} {reason : Option String}

theorem changes_rename : changes (Plan.rename v name claims actor stamp).batch =
    (Plan.rename v name claims actor stamp).cacheChanges := by
  have hb : (Plan.rename v name claims actor stamp).batch = [_] ++ List.map _ _ := rfl
  rw [hb, changes_append, changes_map]
  change List.filterMap (some ∘ CacheChange.upsert) _ = _
  rw [List.filterMap_eq_map]
  rfl

/-- A new name is no news for the audit trail. -/
theorem entries_rename : entries (Plan.rename v name claims actor stamp).batch = [] := by
  have hb : (Plan.rename v name claims actor stamp).batch = [_] ++ List.map _ _ := rfl
  rw [hb, entries_append, entries_map_of_none _ fun _ => rfl]
  rfl

theorem filings_rename : filings (Plan.rename v name claims actor stamp).batch =
    { villages := [{ v with name := name, updatedAt := stamp.now }] } := by
  simp [filings, Plan.rename, Write.village?, Write.seat?, Write.permit?, Function.comp_def]

theorem changes_returnCells : changes (Plan.returnCells actor village claims reason stamp).batch =
    (Plan.returnCells actor village claims reason stamp).cacheChanges := by
  have hb : (Plan.returnCells actor village claims reason stamp).batch = claims.flatMap _ := rfl
  rw [hb, changes_flatMap]
  exact List.map_eq_flatMap.symm

theorem entries_returnCells : entries (Plan.returnCells actor village claims reason stamp).batch =
    claims.map fun c => .removed c actor .unclaimed reason stamp := by
  have hb : (Plan.returnCells actor village claims reason stamp).batch = claims.flatMap _ := rfl
  rw [hb, entries_flatMap, List.map_eq_flatMap]
  rfl

theorem filings_returnCells :
    filings (Plan.returnCells actor village claims reason stamp).batch = {} := by
  simp [filings, Plan.returnCells, Write.village?, Write.seat?, Write.permit?,
    List.filterMap_flatMap]

end Plan

/-- The changes that a plan makes in the cache are those that its batch makes in the store. -/
theorem Command.ComesTo.changes_batch {stamp : Stamp} {s : Realm} {c : Command} {p : Plan Answer}
    (h : c.ComesTo stamp s p) : Batch.changes p.batch = p.cacheChanges := by
  cases h with
  | claim | claimWithLimit | claimNext | expand | unclaim => rfl
  | transfer | addMember | setRole | grant | revoke => rfl
  | found => rw [Plan.batch_map, Plan.changes_found, Plan.cacheChanges_map]
  | disband => rw [Plan.batch_map, Plan.changes_disband, Plan.cacheChanges_map]
  | rename => rw [Plan.batch_map, Plan.changes_rename, Plan.cacheChanges_map]
  | returnCells => rw [Plan.batch_map, Plan.changes_returnCells, Plan.cacheChanges_map]
  | kick | leave => exact Batch.changes_removal _ _

end Freehold
