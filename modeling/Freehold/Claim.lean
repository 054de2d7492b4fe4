import Freehold.Cell
import Freehold.Identity
import Freehold.Timestamp
import Freehold.Vocabulary

/-!
Claims: who owns a cell, under which name, and what was paid for it. A claim keeps its cost and its
time of creation when it passes to another owner.
-/

namespace Freehold

inductive Owner where
  | personal (player : PlayerId)
  | village (village : VillageId)
deriving DecidableEq

namespace Owner

def kind : Owner → OwnerKind
  | personal _ => .personal
  | village _ => .village

def player? : Owner → Option PlayerId
  | personal p => some p
  | village _ => none

def village? : Owner → Option VillageId
  | personal _ => none
  | village v => some v

def isPlayer (o : Owner) (p : PlayerId) : Bool := o = .personal p

def text : Owner → String
  | personal p => "player:" ++ p.text
  | village v => "village:" ++ v.text

end Owner

structure Cost where
  kind : CostKind
  amount : UInt32
  freeSlot : Option UInt32
deriving DecidableEq

namespace Cost

def free (slot : UInt32) : Cost := ⟨.free,0,some slot⟩

def paid (tier : Tier) (amount : UInt32) : Cost := ⟨.paid tier,amount,none⟩

def isFree (c : Cost) : Bool := c.kind.isFree

end Cost

structure Claim where
  cell : Cell
  owner : Owner
  -- The owner's name when the claim was last written.
  ownerName : String
  createdAt : Timestamp
  updatedAt : Timestamp
  cost : Cost
deriving DecidableEq

namespace Claim

def make (cell : Cell) (owner : Owner) (ownerName : String) (cost : Cost) (now : Timestamp) : Claim :=
  ⟨cell,owner,ownerName,now,now,cost⟩

def kind (c : Claim) : OwnerKind := c.owner.kind

def passTo (c : Claim) (owner : Owner) (ownerName : String) (now : Timestamp) : Claim :=
  { c with owner := owner, ownerName := ownerName, updatedAt := now }

/-- The free slot that the claim uses up, and whose it is. Village land uses up none. -/
def freeSlot? (c : Claim) : Option (PlayerId × UInt32) :=
  match c.owner, c.cost.freeSlot with
  | .personal p, some slot => some (p,slot)
  | _, _ => none

end Claim

structure HistoryEntry where
  id : EntryId
  cell : Cell
  previousOwner : Option Owner
  newOwner : Option Owner
  actor : PlayerId
  action : HistoryAction
  reason : Option String
  time : Timestamp
deriving DecidableEq

/-- What an operation takes from outside: the time, an id for a village that it may found, and an
id for the audit entry of each cell. One operation writes at most one entry for a cell. -/
structure Stamp where
  now : Timestamp
  village : VillageId
  entry : Cell → EntryId

namespace HistoryEntry

def claimed (c : Claim) (actor : PlayerId) (stamp : Stamp) : HistoryEntry :=
  ⟨stamp.entry c.cell,c.cell,none,some c.owner,actor,.claimed,none,stamp.now⟩

def removed (c : Claim) (actor : PlayerId) (action : HistoryAction) (reason : Option String)
    (stamp : Stamp) : HistoryEntry :=
  ⟨stamp.entry c.cell,c.cell,some c.owner,none,actor,action,reason,stamp.now⟩

def transferred (before after : Claim) (actor : PlayerId) (reason : String) (stamp : Stamp) :
    HistoryEntry :=
  ⟨stamp.entry before.cell,before.cell,some before.owner,some after.owner,actor,.transferred,
    some reason,stamp.now⟩

end HistoryEntry

end Freehold
