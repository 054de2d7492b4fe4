import Freehold.KeyedLocks
import Freehold.Protection
import Freehold.Request

/-!
How the parts of a server are shown for debugging, with the number of locks that are held at the
time.
-/

namespace Freehold
open Std

/-- A structure by its name and its shown fields. With `more`, not all of them are shown. -/
def debugStruct (name : String) (fields : List (String × String)) (more : Bool) : String :=
  let shown := fields.map fun (key,value) => key ++ ": " ++ value
  let shown := if more then shown ++ [".."] else shown
  name ++ " \x7b " ++ String.intercalate ", " shown ++ " \x7d"

def RefundPolicy.debugText : RefundPolicy → String
  | .none => "None"
  | .fraction percent => debugStruct "Fraction" [("percent",toString percent.toNat)] false

def TierPrices.debugText (p : TierPrices) : String :=
  debugStruct "TierCosts"
    [("iron_ingot",toString p.ironIngot.toNat), ("diamond",toString p.diamond.toNat),
      ("netherite_ingot",toString p.netheriteIngot.toNat)] false

def ClaimConfig.debugText (c : ClaimConfig) : String :=
  let limit :=
    match c.newcomerLimit with
    | some n => "Some(" ++ toString n.toNat ++ ")"
    | none => "None"
  debugStruct "ClaimConfig"
    [("free_claim_quota",toString c.freeQuota.toNat), ("newcomer_claim_limit",limit),
      ("tier_costs",c.prices.debugText), ("refund",c.refund.debugText)] false

def VillageConfig.debugText (v : VillageConfig) : String :=
  debugStruct "VillageConfig"
    [("name_min_len",toString v.shortestName.toNat), ("name_max_len",toString v.longestName.toNat)]
    false

def Config.debugText (c : Config) : String :=
  debugStruct "ParcelConfig" [("claims",c.claims.debugText), ("villages",c.villages.debugText)] false

def Cache.Stats.debugText (s : Cache.Stats) : String :=
  debugStruct "CacheStats"
    [("cells",toString s.cells), ("players",toString s.players), ("villages",toString s.villages)]
    false

def KeyedLocks.ofHeld {κ : Type} [Ord κ] [TransOrd κ] (key? : LockKey → Option κ)
    (held : List LockKey) : KeyedLocks κ :=
  (held.filterMap key?).foldl (fun locks key => (locks.acquire? key).getD locks) {}

namespace LockKey

def cell? : LockKey → Option Cell
  | cell c => some c
  | _ => none

def player? : LockKey → Option PlayerId
  | slots p => some p
  | _ => none

def village? : LockKey → Option VillageId
  | village v => some v
  | _ => none

end LockKey

namespace Realm

def debugText (s : Realm) : String :=
  debugStruct "OwnershipSystem" [("config",s.config.debugText), ("stats",s.cache.stats.debugText)]
    true

def claimsDebugText (held : List LockKey) : String :=
  debugStruct "AtomicClaimService"
    [("cell_locks",(KeyedLocks.ofHeld LockKey.cell? held).debugText),
      ("slot_locks",(KeyedLocks.ofHeld LockKey.player? held).debugText)] true

def villagesDebugText (s : Realm) (held : List LockKey) : String :=
  debugStruct "VillageService"
    [("villages",toString s.directory.villages.size),
      ("village_locks",(KeyedLocks.ofHeld LockKey.village? held).debugText)] true

end Realm

def Provider.debugText (providers : List Provider) : String :=
  debugStruct "ProtectionGate" [("providers",toString providers.length)] true

end Freehold
