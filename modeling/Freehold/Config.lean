import Freehold.Error

/-!
The rules that a server sets: how many claims are free, what the others cost, what is paid back, how
much a newcomer may own, and how long the name of a village may be.
-/

namespace Freehold

inductive RefundPolicy where
  | none
  | fraction (percent : UInt8)
deriving DecidableEq

structure TierPrices where
  ironIngot : UInt32 := 64
  diamond : UInt32 := 8
  netheriteIngot : UInt32 := 2
deriving DecidableEq

def TierPrices.of (prices : TierPrices) : Tier → UInt32
  | .ironIngot => prices.ironIngot
  | .diamond => prices.diamond
  | .netheriteIngot => prices.netheriteIngot

structure ClaimConfig where
  -- The number of free slots of a player.
  freeQuota : UInt32 := 4
  -- The number of cells that a newcomer may own, if it is bounded.
  newcomerLimit : Option UInt64 := some 9
  prices : TierPrices := {}
  refund : RefundPolicy := .none
deriving DecidableEq

structure VillageConfig where
  shortestName : UInt64 := 3
  longestName : UInt64 := 32
deriving DecidableEq

structure Config where
  claims : ClaimConfig := {}
  villages : VillageConfig := {}
deriving DecidableEq

namespace Config

def checkPrice (tier : String) (amount : UInt32) : Except ConfigError Unit :=
  if amount = 0 then
    .error (.invalidValue ("claims.tier_costs." ++ tier) "0" "tier amount must be greater than 0")
  else .ok ()

def checkRefund : RefundPolicy → Except ConfigError Unit
  | .none => .ok ()
  | .fraction percent =>
    if 100 < percent then
      .error (.invalidValue "claims.refund.percent" (toString percent.toNat)
        "refund percent must be between 0 and 100")
    else .ok ()

def checkLimit (limit : Option UInt64) : Except ConfigError Unit :=
  if limit = some 0 then
    .error (.invalidValue "claims.newcomer_claim_limit" "0"
      "newcomer_claim_limit must be greater than 0 when set")
  else .ok ()

def checkNames (villages : VillageConfig) : Except ConfigError Unit :=
  if villages.shortestName = 0 then
    .error (.invalidValue "villages.name_min_len" "0" "name_min_len must be greater than 0")
  else if villages.longestName < villages.shortestName then
    .error (.invalidValue "villages.name_max_len" (toString villages.longestName.toNat)
      "name_max_len must be at least name_min_len")
  else .ok ()

/-- The first rule that a configuration breaks, in the order of its fields. -/
def validate (config : Config) : Except ConfigError Unit := do
  checkPrice "iron_ingot" config.claims.prices.ironIngot
  checkPrice "diamond" config.claims.prices.diamond
  checkPrice "netherite_ingot" config.claims.prices.netheriteIngot
  checkRefund config.claims.refund
  checkLimit config.claims.newcomerLimit
  checkNames config.villages

end Config

end Freehold
