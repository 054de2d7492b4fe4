import Freehold.Village
import Freehold.Village.Name

/-!
The memory of the active villages, their members and the capabilities handed out. Each village is
also found by its name, and each member finds the one village that he belongs to.
-/

namespace Freehold
open Std

abbrev CapabilitySet := ExtTreeSet Capability

structure Directory where
  villages : ExtTreeMap VillageId Village := ∅
  -- The village of each name, by the key of the name.
  names : ExtTreeMap String VillageId := ∅
  members : ExtTreeMap MemberKey Membership := ∅
  villageOf : ExtTreeMap PlayerId VillageId := ∅
  -- The capabilities of each member who was handed any.
  grants : ExtTreeMap MemberKey CapabilitySet := ∅

namespace Directory

def insertVillage (d : Directory) (v : Village) : Directory :=
  { d with
    villages := d.villages.insert v.id v
    names := d.names.insert (VillageName.key v.name) v.id }

def dropName (d : Directory) (id : VillageId) : Directory :=
  match d.villages[id]? with
  | some v => { d with names := d.names.erase (VillageName.key v.name) }
  | none => d

def updateVillage (d : Directory) (v : Village) : Directory := (d.dropName v.id).insertVillage v

def upsertMember (d : Directory) (m : Membership) : Directory :=
  { d with
    members := d.members.insert m.key m
    villageOf := d.villageOf.insert m.member m.village }

def removeMember (d : Directory) (key : MemberKey) : Directory :=
  { d with
    members := d.members.erase key
    villageOf := d.villageOf.erase key.member
    grants := d.grants.erase key }

def membersOf (d : Directory) (village : VillageId) : List PlayerId :=
  (d.members.keys.filter fun k => k.village = village).map (·.member)

def removeVillage (d : Directory) (village : VillageId) : Directory :=
  let d := d.dropName village
  let d := { d with villages := d.villages.erase village }
  (d.membersOf village).foldl (fun d p => d.removeMember ⟨village,p⟩) d

def granted (d : Directory) (key : MemberKey) : CapabilitySet := d.grants[key]?.getD ∅

def grant (d : Directory) (key : MemberKey) (c : Capability) : Directory :=
  { d with grants := d.grants.insert key ((d.granted key).insert c) }

def revoke (d : Directory) (key : MemberKey) (c : Capability) : Directory :=
  let left := (d.granted key).erase c
  -- The row goes with the last capability in it.
  { d with grants := if left.isEmpty then d.grants.erase key else d.grants.insert key left }

/-- The directory of these rows: active villages, their active members, and what those were
handed. Other rows are passed over. -/
def build (villages : List Village) (memberships : List Membership)
    (permissions : List Permission) : Directory :=
  let d := (villages.filter (·.active)).foldl insertVillage {}
  let d := (memberships.filter (·.active)).foldl
    (fun d m => if m.village ∈ d.villages then d.upsertMember m else d) d
  permissions.foldl
    (fun d p => if p.key.place ∈ d.members then d.grant p.key.place p.capability else d) d

def village? (d : Directory) (id : VillageId) : Option Village := d.villages[id]?

def villageNamed? (d : Directory) (name : String) : Option Village :=
  match d.names[VillageName.key name]? with
  | some id => d.villages[id]?
  | none => none

def membership? (d : Directory) (key : MemberKey) : Option Membership := d.members[key]?

def membershipOf? (d : Directory) (player : PlayerId) : Option Membership :=
  match d.villageOf[player]? with
  | some v => d.membership? ⟨v,player⟩
  | none => none

def byName (d : Directory) : List Village :=
  d.villages.values.mergeSort fun a b => (compare a.name b.name).isLE

def roster (d : Directory) (village : VillageId) : List Membership :=
  (d.members.values.filter fun m => m.village = village).mergeSort fun a b =>
    ((compare a.role.rank b.role.rank).then (compare a.joinedAt b.joinedAt)).isLE

def hasCapability (d : Directory) (key : MemberKey) (c : Capability) : Bool :=
  match d.members[key]? with
  | some m => m.isMayor || c ∈ d.granted key
  | none => false

end Directory

end Freehold
