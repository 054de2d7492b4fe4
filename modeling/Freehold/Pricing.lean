import Freehold.Claim
import Freehold.Config

/-!
What a claim costs under a configuration. A player has numbered free slots up to the quota and pays
the price of a tier afterwards. A slot is used up once and for all, so the next one is found from the
highest slot ever used, the player's mark.
-/

namespace Freehold

structure Refund where
  tier : Tier
  amount : UInt32
deriving DecidableEq

namespace ClaimConfig

def paidCost (config : ClaimConfig) (tier : Tier) : Cost := .paid tier (config.prices.of tier)

def nextCost (config : ClaimConfig) (mark : UInt32) (requested : Option Tier) :
    Except CostRejection Cost :=
  if mark < config.freeQuota then .ok (.free (mark+1))
  else
    match requested with
    | some tier => .ok (config.paidCost tier)
    | none => .error .noTierChosen

def checkOffered (config : ClaimConfig) (cost : Cost) : Except CostRejection Unit :=
  match cost.kind, cost.freeSlot with
  | .free, some slot =>
    if config.freeQuota < slot then .error (.freeQuotaExceeded slot config.freeQuota) else .ok ()
  | .free, none => .ok ()
  | .paid tier, _ =>
    if cost.amount = config.prices.of tier then .ok ()
    else .error (.priceMismatch tier cost.amount (config.prices.of tier))

def freeRemaining (config : ClaimConfig) (mark : UInt32) : Nat :=
  config.freeQuota.toNat-mark.toNat

def claimLimit (config : ClaimConfig) (veteran : Bool) : Option UInt64 :=
  if veteran then none else config.newcomerLimit

def checkLimit (config : ClaimConfig) (count : Nat) (veteran : Bool) : Except Error Unit :=
  match config.claimLimit veteran with
  | some limit =>
    if limit.toNat ≤ count then .error (.claimLimitReached count limit.toNat) else .ok ()
  | none => .ok ()

/-- What is paid back for a cost, rounded down. Nothing is not paid back. -/
def refundFor (config : ClaimConfig) (cost : Cost) : Option Refund :=
  match cost.kind, config.refund with
  | .paid tier, .fraction percent =>
    let amount := UInt32.ofNat (cost.amount.toNat*percent.toNat/100)
    if amount = 0 then none else some ⟨tier,amount⟩
  | _, _ => none

end ClaimConfig

/-- Refuses a cost that is no cost: a free one needs a slot from 1 on, a paid one an amount and no
slot. -/
def Cost.checkForm (cost : Cost) : Except Error Unit :=
  match cost.isFree, cost.freeSlot with
  | true, some slot =>
    if slot = 0 then .error (.invalid "cost.free_slot_index" "free slots are numbered from 1")
    else .ok ()
  | true, none => .error (.missing "cost.free_slot_index")
  | false, some _ =>
    .error (.invalid "cost.free_slot_index" "paid claims do not consume a free slot")
  | false, none =>
    if cost.amount = 0 then .error (.invalid "cost.amount" "paid claims must cost something")
    else .ok ()

end Freehold
