import Freehold.Uuid

/-!
Who takes part: players, villages and the entries of the audit trail each have an id of their own
kind, so that one can never be passed for another. Ids are ordered as their numbers are.
-/

namespace Freehold
open Std

structure PlayerId where
  uuid : Uuid
deriving DecidableEq

structure VillageId where
  uuid : Uuid
deriving DecidableEq

structure EntryId where
  uuid : Uuid
deriving DecidableEq

namespace PlayerId

instance : Ord PlayerId := ⟨compareOn PlayerId.uuid⟩

instance : TransOrd PlayerId := inferInstanceAs (TransCmp (compareOn PlayerId.uuid))

instance : LawfulEqOrd PlayerId :=
  lawfulEqCmp_compareOn (f := PlayerId.uuid) fun {a b} h => by cases a; cases b; simp_all

def text (p : PlayerId) : String := p.uuid.text

end PlayerId

namespace VillageId

instance : Ord VillageId := ⟨compareOn VillageId.uuid⟩

instance : TransOrd VillageId := inferInstanceAs (TransCmp (compareOn VillageId.uuid))

instance : LawfulEqOrd VillageId :=
  lawfulEqCmp_compareOn (f := VillageId.uuid) fun {a b} h => by cases a; cases b; simp_all

def text (v : VillageId) : String := v.uuid.text

end VillageId

structure Actor where
  id : PlayerId
  name : String
deriving DecidableEq

def Actor.text (a : Actor) : String := a.name ++ " (" ++ a.id.text ++ ")"

end Freehold
