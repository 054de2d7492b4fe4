import Freehold.Proofs.FreeSlots

/-!
What a player can pay with. An offer that is accepted is one that the price list would make at that
moment: the price of a tier, or the free slot after the mark of the player while the quota leaves one.
Of an offer of a free slot the amount is not looked at, so any amount may stand in it.
-/

namespace Freehold

namespace ClaimConfig
variable {config : ClaimConfig} {cost : Cost} {mark : UInt32}

/-- An offer to pay is accepted only at the price of its tier. -/
theorem eq_paidCost (paid : cost.isFree = false) (slotless : cost.freeSlot = none)
    (offered : config.checkOffered cost = .ok ()) : ∃ tier, cost = config.paidCost tier := by
  obtain ⟨kind, amount, slot⟩ := cost
  cases kind with
  | free => cases paid
  | paid tier =>
    have hprice : amount = config.prices.of tier := by
      by_contra hne
      simp [checkOffered, hne] at offered
    refine ⟨tier, ?_⟩
    rw [paidCost, Cost.paid, ← hprice]
    exact congrArg (Cost.mk (.paid tier) amount) slotless

/-- While a free slot is left it is quoted, whatever tier is asked for. -/
theorem nextCost_of_lt (left : mark < config.freeQuota) (requested : Option Tier) :
    config.nextCost mark requested = .ok (.free (mark+1)) :=
  if_pos left

end ClaimConfig

/-- A cost that is admitted for a personal claim is the price of a tier, or but for its amount the
next free slot, which is within the quota. -/
theorem Realm.MayClaim.offer_cases {s : Realm} {actor : PlayerId} {cell : Cell} {cost : Cost}
    {veteran : Option Bool} (h : s.MayClaim actor cell cost veteran) :
    (∃ tier, cost = s.config.claims.paidCost tier) ∨
      (s.cache.markOf actor < s.config.claims.freeQuota ∧
        { cost with amount := 0 } = Cost.free (s.cache.markOf actor + 1)) := by
  rcases h.cost_cases with ⟨hpaid,hnone⟩ | ⟨slot,hfree,hsome,hnext,hquota⟩
  · exact .inl (ClaimConfig.eq_paidCost hpaid hnone h.offered)
  · have hleft : s.cache.markOf actor < s.config.claims.freeQuota := by
      rw [UInt32.lt_iff_toNat_lt]
      omega
    have hkind : cost.kind = .free := of_decide_eq_true hfree
    have hslot : cost.freeSlot = some (s.cache.markOf actor + 1) := by
      rw [hsome, h.slot slot hsome]
    refine .inr ⟨hleft, ?_⟩
    rw [Cost.free, hkind, hslot]

def Command.offer? : Command → Option Cost
  | claim _ _ cost | claimWithLimit _ _ cost _ | expand _ _ cost => some cost
  | _ => none

/-- An offer that is accepted is the price of a tier. Or it comes with a claim for oneself while free
slots are left, and then it is the next of them, which is what the player would have been quoted for
any tier, with an amount beside it that may be any. -/
theorem Command.accepted_offer {c : Command} {stamp : Stamp} {s : Realm} {cost : Cost}
    {answer : Answer} (offered : c.offer? = some cost)
    (accepted : (c.run stamp s).result = .ok answer) :
    (∃ tier, cost = s.config.claims.paidCost tier) ∨
      (c.forSelf = true ∧ s.cache.markOf c.actor.id < s.config.claims.freeQuota ∧
        { cost with amount := 0 } = Cost.free (s.cache.markOf c.actor.id + 1) ∧
        ∀ requested, s.quote c.actor.id requested = .ok { cost with amount := 0 }) := by
  have hself (actor : PlayerId) (cell : Cell) (veteran : Option Bool)
      (may : s.MayClaim actor cell cost veteran) :
      (∃ tier, cost = s.config.claims.paidCost tier) ∨
        (s.cache.markOf actor < s.config.claims.freeQuota ∧
          { cost with amount := 0 } = Cost.free (s.cache.markOf actor + 1) ∧
          ∀ requested, s.quote actor requested = .ok { cost with amount := 0 }) := by
    rcases may.offer_cases with hpaid | ⟨hleft,hfree⟩
    · exact .inl hpaid
    · refine .inr ⟨hleft, hfree, fun requested => ?_⟩
      rw [Realm.quote, ClaimConfig.nextCost_of_lt hleft, hfree]
      rfl
  rcases c.refused_or_done stamp s with ⟨e,he⟩ | ⟨p,hp,-⟩
  · have hresult : Except.error e = Except.ok answer := he.result.symm.trans accepted
    cases hresult
  · cases hp with
    | claim may =>
      cases offered
      exact (hself _ _ _ may).imp_right fun h => ⟨rfl,h⟩
    | claimWithLimit may =>
      cases offered
      exact (hself _ _ _ may).imp_right fun h => ⟨rfl,h⟩
    | expand offer =>
      cases offered
      exact .inl (ClaimConfig.eq_paidCost offer.paid offer.slotless offer.offered)
    | _ => cases offered

namespace Sample

def overstated (slot : UInt32) : Cost := ⟨.free,7,some slot⟩

def overstating : Command := .claimWithLimit ann (road 9) (overstated 3) false

/-- After two free claims Ann makes a third one, as a newcomer, at a cost that names an amount
beside its free slot. The claim is accepted, and she would have been quoted that slot. -/
theorem overstating_accepted_offer :
    overstating.offer? = some (overstated 3) ∧
    (overstating.run (stamp 9) hamlet).result =
      .ok (.claim (.make (road 9) (.personal ann.id) ann.name (overstated 3) (.ofSeconds 9))) ∧
    overstating.forSelf = true ∧
    hamlet.cache.markOf ann.id < hamlet.config.claims.freeQuota ∧
    { overstated 3 with amount := 0 } = Cost.free (hamlet.cache.markOf ann.id + 1) ∧
    ∀ requested, hamlet.quote ann.id requested = .ok { overstated 3 with amount := 0 } := by
  have hoffer : overstating.offer? = some (overstated 3) := rfl
  have hresult : (overstating.run (stamp 9) hamlet).result =
      .ok (.claim (.make (road 9) (.personal ann.id) ann.name (overstated 3) (.ofSeconds 9))) := by
    rfl
  rcases Command.accepted_offer hoffer hresult with ⟨tier,htier⟩ | hslot
  · cases htier
  · exact ⟨hoffer,hresult,hslot⟩

def fresh : Realm := ({ config := {} } : Realm).start.realm

/-- Not every cost that is accepted under a valid configuration is one that could be quoted. -/
theorem overstated_never_quoted :
    fresh.config.validate = .ok () ∧
    ((Command.claim ann (road 0) (overstated 1)).run (stamp 1) fresh).result =
      .ok (.claim (.make (road 0) (.personal ann.id) ann.name (overstated 1) (.ofSeconds 1))) ∧
    (∀ tier, overstated 1 ≠ fresh.config.claims.paidCost tier) ∧
    ∀ mark requested, fresh.config.claims.nextCost mark requested ≠ .ok (overstated 1) := by
  refine ⟨rfl, rfl, ?_, ?_⟩
  · intro tier htier
    cases htier
  · intro mark requested hquoted
    unfold ClaimConfig.nextCost at hquoted
    split at hquoted
    · cases hquoted
    · cases requested <;> cases hquoted

end Sample

end Freehold
