import Freehold.Lifecycle
import Freehold.Village.Founding
import Freehold.Village.Grants
import Freehold.Village.Land
import Freehold.Village.Members

/-!
Everything that can be asked of a running realm, as one type with one meaning. Commands change land
or villages. Other operations compare, reload, change whom players trust or who has authority, or
arrange failures of the store.
-/

namespace Freehold

inductive Command where
  | claim (actor : Actor) (cell : Cell) (cost : Cost)
  | claimWithLimit (actor : Actor) (cell : Cell) (cost : Cost) (veteran : Bool)
  | claimNext (actor : Actor) (cell : Cell) (requested : Option Tier) (veteran : Bool)
  | unclaim (actor : Actor) (cell : Cell) (reason : Option String)
  | found (actor : Actor) (name : String) (cells : List Cell)
  | disband (actor : Actor) (village : VillageId)
  | transfer (actor : Actor) (village : VillageId) (next : PlayerId)
  | addMember (actor : Actor) (village : VillageId) (member : Actor)
  | kick (actor : Actor) (village : VillageId) (target : PlayerId)
  | setRole (actor : Actor) (village : VillageId) (target : PlayerId) (role : Role)
  | leave (actor : Actor)
  | rename (actor : Actor) (village : VillageId) (name : String)
  | expand (actor : Actor) (cell : Cell) (cost : Cost)
  | returnCells (actor : Actor) (cells : List Cell) (reason : Option String)
  | grant (actor : Actor) (village : VillageId) (target : PlayerId) (capability : Capability)
  | revoke (actor : Actor) (village : VillageId) (target : PlayerId) (capability : Capability)
deriving DecidableEq

inductive Answer where
  | done
  | claim (claim : Claim)
  | release (release : Release)
  | claims (claims : List Claim)
  | village (village : Village)
  | membership (membership : Membership)
  | permission (permission : Permission)
  | left (village : VillageId)
  | consistency (consistency : Consistency)
deriving DecidableEq

namespace Command

def actor : Command → Actor
  | claim a _ _ | claimWithLimit a _ _ _ | claimNext a _ _ _ | unclaim a _ _ | found a _ _
  | disband a _ | transfer a _ _ | addMember a _ _ | kick a _ _ | setRole a _ _ _ | leave a
  | rename a _ _ | expand a _ _ | returnCells a _ _ | grant a _ _ _ | revoke a _ _ _ => a

def request (stamp : Stamp) : Command → Request Answer
  | claim a cell cost => (Request.claim a cell cost stamp).map .claim
  | claimWithLimit a cell cost veteran =>
    (Request.claimWithLimit a cell cost veteran stamp).map .claim
  | claimNext a cell requested veteran =>
    (Request.claimNext a cell requested veteran stamp).map .claim
  | unclaim a cell reason => (Request.unclaim a cell reason stamp).map .release
  | found a name cells => (Request.found a name cells stamp).map .village
  | disband a v => (Request.disband a v stamp).map fun _ => .done
  | transfer a v next => (Request.transfer a v next stamp).map fun _ => .done
  | addMember a v member => (Request.addMember a v member stamp).map .membership
  | kick a v target => (Request.kick a v target).map fun _ => .done
  | setRole a v target role => (Request.setRole a v target role).map .membership
  | leave a => (Request.leave a).map .left
  | rename a v name => (Request.rename a v name stamp).map .village
  | expand a cell cost => (Request.expand a cell cost stamp).map .claim
  | returnCells a cells reason => (Request.returnCells a cells reason stamp).map .claims
  | grant a v target c => (Request.grant a v target c stamp).map .permission
  | revoke a v target c => (Request.revoke a v target c).map fun _ => .done

def run (c : Command) (stamp : Stamp) (s : Realm) : Outcome Answer := (c.request stamp).run s

end Command

inductive Operation where
  | command (command : Command)
  | verify (cell : Cell)
  | reload
  | reloadDirectory
  | trust (owner visitor : PlayerId)
  | untrust (owner visitor : PlayerId)
  | elevate (player : PlayerId)
  | demote (player : PlayerId)
  | refuseAllBatches (on : Bool)
  | failNextBatchAt (place : Nat)
  | failReads (methods : List ReadMethod)
deriving DecidableEq

def Operation.run (stamp : Stamp) (s : Realm) : Operation → Outcome Answer
  | command c => c.run stamp s
  | verify cell => (s.verify cell).map .consistency
  | reload => s.reload.map fun _ => .done
  | reloadDirectory => s.reloadDirectory.map fun _ => .done
  | trust owner visitor => ⟨s.trust owner visitor,[],.ok .done⟩
  | untrust owner visitor => ⟨s.untrust owner visitor,[],.ok .done⟩
  | elevate player => ⟨s.elevate player,[],.ok .done⟩
  | demote player => ⟨s.demote player,[],.ok .done⟩
  | refuseAllBatches on => ⟨s.refuseAllBatches on,[],.ok .done⟩
  | failNextBatchAt place => ⟨s.failNextBatchAt place,[],.ok .done⟩
  | failReads methods => ⟨s.failReads methods,[],.ok .done⟩

end Freehold
