import Freehold.Identity
import Freehold.Timestamp
import Freehold.Vocabulary

/-!
Villages, their members and what the members are allowed.
-/

namespace Freehold
open Std

structure Village where
  id : VillageId
  name : String
  mayor : PlayerId
  createdAt : Timestamp
  updatedAt : Timestamp
  -- A village that was disbanded stays on record, inactive.
  active : Bool
deriving DecidableEq

def Village.found (id : VillageId) (name : String) (mayor : PlayerId) (now : Timestamp) : Village :=
  ⟨id,name,mayor,now,now,true⟩

structure Membership where
  village : VillageId
  member : PlayerId
  memberName : String
  role : Role
  joinedAt : Timestamp
  lastSeenAt : Timestamp
  active : Bool
deriving DecidableEq

namespace Membership

def join (village : VillageId) (member : Actor) (role : Role) (now : Timestamp) : Membership :=
  ⟨village,member.id,member.name,role,now,now,true⟩

def withRole (m : Membership) (role : Role) : Membership := { m with role := role }

def isMayor (m : Membership) : Bool := m.role = .mayor

end Membership

structure Permission where
  village : VillageId
  member : PlayerId
  capability : Capability
  grantedBy : PlayerId
  grantedAt : Timestamp
deriving DecidableEq

structure MemberKey where
  village : VillageId
  member : PlayerId
deriving DecidableEq

namespace MemberKey

abbrev order : MemberKey → MemberKey → Ordering :=
  compareLex (compareOn MemberKey.village) (compareOn MemberKey.member)

instance : Ord MemberKey := ⟨order⟩

instance : TransOrd MemberKey := inferInstanceAs (TransCmp order)

instance : LawfulEqOrd MemberKey where
  compare_self {a} := (ReflCmp.compare_self : order a a = .eq)
  eq_of_compare {a b} h := by
    have h' : order a b = .eq := h
    simp only [compareLex_eq_eq, compareOn, Std.compare_eq_iff_eq] at h'
    obtain ⟨hv,hm⟩ := h'
    cases a; cases b; simp_all

end MemberKey

structure PermissionKey where
  place : MemberKey
  capability : Capability
deriving DecidableEq

namespace PermissionKey

abbrev order : PermissionKey → PermissionKey → Ordering :=
  compareLex (compareOn PermissionKey.place) (compareOn PermissionKey.capability)

instance : Ord PermissionKey := ⟨order⟩

instance : TransOrd PermissionKey := inferInstanceAs (TransCmp order)

instance : LawfulEqOrd PermissionKey where
  compare_self {a} := (ReflCmp.compare_self : order a a = .eq)
  eq_of_compare {a b} h := by
    have h' : order a b = .eq := h
    simp only [compareLex_eq_eq, compareOn, Std.compare_eq_iff_eq] at h'
    obtain ⟨hp,hc⟩ := h'
    cases a; cases b; simp_all

end PermissionKey

def Membership.key (m : Membership) : MemberKey := ⟨m.village,m.member⟩

def Permission.key (p : Permission) : PermissionKey := ⟨⟨p.village,p.member⟩,p.capability⟩

end Freehold
