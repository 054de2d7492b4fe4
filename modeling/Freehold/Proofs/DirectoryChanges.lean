import Freehold.Directory
import Freehold.Proofs.Keyed
import Freehold.Village.Founding

/-!
What each change of the directory makes of its five maps. A change touches only some of them, and a
village that ends takes its name, its members, their homes and their grants along.
-/

namespace Freehold.Directory
open Std

variable {d : Directory} {village id : VillageId} {key place : MemberKey} {player : PlayerId}
  {c other : Capability}

@[simp] theorem villages_dropName : (d.dropName id).villages = d.villages := by
  unfold dropName
  split <;> rfl

@[simp] theorem members_dropName : (d.dropName id).members = d.members := by
  unfold dropName
  split <;> rfl

@[simp] theorem villageOf_dropName : (d.dropName id).villageOf = d.villageOf := by
  unfold dropName
  split <;> rfl

@[simp] theorem grants_dropName : (d.dropName id).grants = d.grants := by
  unfold dropName
  split <;> rfl

@[simp] theorem villages_updateVillage (v : Village) :
    (d.updateVillage v).villages = d.villages.insert v.id v :=
  congrArg (·.insert v.id v) villages_dropName

@[simp] theorem members_updateVillage (v : Village) : (d.updateVillage v).members = d.members :=
  members_dropName

@[simp] theorem villageOf_updateVillage (v : Village) :
    (d.updateVillage v).villageOf = d.villageOf :=
  villageOf_dropName

@[simp] theorem grants_updateVillage (v : Village) : (d.updateVillage v).grants = d.grants :=
  grants_dropName

theorem mem_membersOf : player ∈ d.membersOf village ↔ (⟨village,player⟩ : MemberKey) ∈ d.members := by
  rw [membersOf, List.mem_map]
  constructor
  · rintro ⟨k, hk, rfl⟩
    obtain ⟨hm, hv⟩ := List.mem_filter.mp hk
    obtain rfl := of_decide_eq_true hv
    exact ExtTreeMap.mem_keys.mp hm
  · intro hm
    exact ⟨⟨village,player⟩,List.mem_filter.mpr ⟨ExtTreeMap.mem_keys.mpr hm,decide_eq_true rfl⟩,rfl⟩

/-! ### Members that go one after the other -/

theorem foldl_removeMember (players : List PlayerId) (d : Directory) :
    players.foldl (fun d p => d.removeMember ⟨village,p⟩) d =
      { d with
        members := players.foldl (fun t p => t.erase ⟨village,p⟩) d.members
        villageOf := players.foldl (fun t p => t.erase p) d.villageOf
        grants := players.foldl (fun t p => t.erase ⟨village,p⟩) d.grants } := by
  induction players generalizing d with
  | nil => rfl
  | cons p players ih => exact ih (d.removeMember ⟨village,p⟩)

/-- A village that ends, map by map. -/
theorem removeVillage_eq (d : Directory) (village : VillageId) :
    d.removeVillage village =
      { villages := d.villages.erase village
        names := (d.dropName village).names
        members := (d.membersOf village).foldl (fun t p => t.erase ⟨village,p⟩) d.members
        villageOf := (d.membersOf village).foldl (fun t p => t.erase p) d.villageOf
        grants := (d.membersOf village).foldl (fun t p => t.erase ⟨village,p⟩) d.grants } := by
  rw [removeVillage, foldl_removeMember]
  simp only [villages_dropName, members_dropName, villageOf_dropName, grants_dropName, membersOf]

@[simp] theorem villages_removeVillage :
    (d.removeVillage village).villages = d.villages.erase village := by
  rw [removeVillage_eq]

@[simp] theorem names_removeVillage :
    (d.removeVillage village).names = (d.dropName village).names := by
  rw [removeVillage_eq]

/-- A village takes its members along and leaves the others. -/
theorem getElem?_members_removeVillage {m : Membership} :
    (d.removeVillage village).members[key]? = some m ↔
      d.members[key]? = some m ∧ key.village ≠ village := by
  rw [removeVillage_eq, getElem?_foldl_erase_eq_some_iff]
  refine and_congr_right fun hm => ?_
  constructor
  · rintro hn rfl
    exact hn key.member (mem_membersOf.mpr (mem_of_getElem?_eq_some hm)) rfl
  · rintro hv p - rfl
    exact hv rfl

theorem mem_members_removeVillage :
    key ∈ (d.removeVillage village).members ↔ key ∈ d.members ∧ key.village ≠ village := by
  simp only [mem_iff_exists_getElem?_eq_some, getElem?_members_removeVillage, exists_and_right]

theorem getElem?_villageOf_removeVillage :
    (d.removeVillage village).villageOf[player]? = some id ↔
      d.villageOf[player]? = some id ∧ (⟨village,player⟩ : MemberKey) ∉ d.members := by
  rw [removeVillage_eq, getElem?_foldl_erase_eq_some_iff]
  refine and_congr_right fun _ => ?_
  constructor
  · intro hn hm
    exact hn player (mem_membersOf.mpr hm) rfl
  · rintro hn p hp rfl
    exact hn (mem_membersOf.mp hp)

theorem getElem?_grants_removeVillage {set : CapabilitySet} :
    (d.removeVillage village).grants[key]? = some set ↔
      d.grants[key]? = some set ∧ ¬(key.village = village ∧ key ∈ d.members) := by
  rw [removeVillage_eq, getElem?_foldl_erase_eq_some_iff]
  refine and_congr_right fun _ => ?_
  constructor
  · rintro hn ⟨rfl, hm⟩
    exact hn key.member (mem_membersOf.mpr hm) rfl
  · rintro hn p hp rfl
    exact hn ⟨rfl,mem_membersOf.mp hp⟩

/-! ### What was handed to a member -/

/-- A member with no row of capabilities has been granted nothing. -/
theorem mem_granted_iff : c ∈ d.granted key ↔ ∃ set, d.grants[key]? = some set ∧ c ∈ set := by
  unfold granted
  cases d.grants[key]? <;> simp

/-- What is granted is added to what the member has, and to nothing else. -/
theorem mem_granted_grant :
    c ∈ (d.grant place other).granted key ↔ place = key ∧ other = c ∨ c ∈ d.granted key := by
  unfold granted grant
  rw [ExtTreeMap.getElem?_insert]
  by_cases hk : place = key
  · subst hk
    simp [granted, ExtTreeSet.mem_insert]
  · simp [hk]

theorem mem_granted_revoke :
    c ∈ (d.revoke place other).granted key ↔ c ∈ d.granted key ∧ ¬(place = key ∧ other = c) := by
  have hg : c ∈ (d.revoke place other).granted key ↔
      (place = key ∧ c ∈ (d.granted place).erase other) ∨ (place ≠ key ∧ c ∈ d.granted key) :=
    mem_getD_putSet
  rw [hg, ExtTreeSet.mem_erase]
  by_cases hk : place = key
  · subst hk
    simp [and_comm]
  · simp [hk]

theorem mem_granted_removeMember :
    c ∈ (d.removeMember place).granted key ↔ c ∈ d.granted key ∧ place ≠ key := by
  unfold removeMember granted
  rw [ExtTreeMap.getElem?_erase]
  by_cases hk : place = key <;> simp [hk]

theorem mem_granted_removeVillage :
    c ∈ (d.removeVillage village).granted key ↔
      c ∈ d.granted key ∧ ¬(key.village = village ∧ key ∈ d.members) := by
  simp only [mem_granted_iff, getElem?_grants_removeVillage]
  constructor
  · rintro ⟨set, ⟨hs, hn⟩, hc⟩
    exact ⟨⟨set,hs,hc⟩,hn⟩
  · rintro ⟨⟨set, hs, hc⟩, hn⟩
    exact ⟨set,⟨hs,hn⟩,hc⟩

theorem mem_grantsIn {k : PermissionKey} :
    k ∈ d.grantsIn village ↔
      k.place.village = village ∧ k.place ∈ d.members ∧ k.capability ∈ d.granted k.place := by
  obtain ⟨⟨v, p⟩, c⟩ := k
  rw [grantsIn, List.mem_flatMap]
  constructor
  · rintro ⟨q, hq, hk⟩
    obtain ⟨c', hc, heq⟩ := List.mem_map.mp hk
    cases heq
    exact ⟨rfl,mem_membersOf.mp hq,ExtTreeSet.mem_toList.mp hc⟩
  · rintro ⟨rfl, hm, hc⟩
    exact ⟨p,mem_membersOf.mpr hm,List.mem_map.mpr ⟨c,ExtTreeSet.mem_toList.mpr hc,rfl⟩⟩

end Freehold.Directory
