import Freehold.Config
import Freehold.Store.Faults

/-!
Players, small pieces of land, configurations and stores to try the rules on.
-/

namespace Freehold.Sample

def span (start : Int32) (count : Nat) : List Int32 :=
  (List.range count).map fun (k : Nat) => Int32.ofInt (start.toInt+k)

def row (z start stop : Int32) : List Cell :=
  (span start (stop.toInt+1-start.toInt).toNat).map fun x => ⟨"overworld",x,z⟩

def square (x z size : Int32) : List Cell :=
  let steps := span 0 size.toInt.toNat
  steps.flatMap fun dx => steps.filterMap fun dz => (⟨"overworld",x,z⟩ : Cell).offset? dx dz

def tight (quota : UInt32) (limit : Option UInt64) : Config :=
  { claims := { freeQuota := quota, newcomerLimit := limit } }

def refunding (percent : UInt8) : Config := { claims := { refund := .fraction percent } }

def freeClaims (owner : Actor) (cells : List Cell) (now : Timestamp) : List Claim :=
  cells.zipIdx.map fun (cell,k) =>
    .make cell (.personal owner.id) owner.name (.free (UInt32.ofNat (k+1))) now

def player (number : Nat) (name : String) : Actor := ⟨⟨.ofNat number⟩,name⟩

def ann : Actor := player 1 "Ann"

def ben : Actor := player 2 "Ben"

def road (x : Int32) : Cell := ⟨"overworld",x,0⟩

/-- What the operation in this second takes from outside. The village it may found has the second as
its id. -/
def stamp (second : Nat) : Stamp where
  now := .ofSeconds second
  village := ⟨.ofNat second⟩
  entry cell := ⟨.ofNat (1000*second+cell.x.toInt.toNat)⟩

def seeded (claims : List Claim) : Except Error Storage :=
  claims.foldlM (fun storage claim =>
    match storage.seed claim with
    | (storage,.ok ()) => .ok storage
    | (_,.error e) => .error e) {}

end Freehold.Sample
