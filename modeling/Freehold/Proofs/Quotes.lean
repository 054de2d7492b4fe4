import Freehold.Proofs.NewcomerLimit
import Freehold.Proofs.Offers
import Freehold.Proofs.Restart

/-!
Quotes. What a player is quoted for his next claim passes every check that a claim at this cost is
put to, so the claim is granted if it comes before anything else happens. Only the limit for
newcomers can stand against it, which a quote does not look at.
-/

namespace Freehold
open Std

/-! ### The price list -/

/-- A valid price list gives nothing away. -/
theorem Config.prices_ne_zero_of_validate {config : Config} (h : config.validate = .ok ())
    (tier : Tier) : config.claims.prices.of tier ≠ 0 := by
  have hpositive {name : String} {amount : UInt32} (hc : checkPrice name amount = .ok ()) :
      amount ≠ 0 := by
    rintro rfl
    cases hc
  simp only [validate, Except.bind_eq_ok_iff] at h
  obtain ⟨_, hiron, _, hdiamond, _, hnetherite, -⟩ := h
  cases tier with
  | ironIngot => exact hpositive hiron
  | diamond => exact hpositive hdiamond
  | netheriteIngot => exact hpositive hnetherite

namespace ClaimConfig
variable {config : ClaimConfig} {mark : UInt32} {requested : Option Tier} {cost : Cost}

/-- No cost can be named when the free slots are used up and no tier is asked for. -/
theorem nextCost_eq_error_iff {e : CostRejection} :
    config.nextCost mark requested = .error e ↔
      e = .noTierChosen ∧ config.freeQuota ≤ mark ∧ requested = none := by
  unfold nextCost
  by_cases hleft : mark < config.freeQuota
  · simp [hleft, UInt32.not_le.mpr hleft]
  · cases requested <;> simp [hleft, UInt32.not_lt.mp hleft, eq_comm]

/-- The cost that is named next is well formed, on offer, and has no slot but the one after the
mark. -/
theorem nextCost_sound (hp : ∀ tier, config.prices.of tier ≠ 0)
    (h : config.nextCost mark requested = .ok cost) :
    cost.checkForm = .ok () ∧ config.checkOffered cost = .ok () ∧
      ∀ slot, cost.freeSlot = some slot → slot = mark+1 := by
  unfold nextCost at h
  split at h
  · next hleft =>
    cases h
    -- There is a number above the mark, so the next slot does not start again from zero.
    have hnext : (mark+1).toNat = mark.toNat+1 := by
      have hlt : mark.toNat < config.freeQuota.toNat := UInt32.lt_iff_toNat_lt.mp hleft
      have hbound : config.freeQuota.toNat < 2^32 := UInt32.toNat_lt _
      rw [UInt32.toNat_add]
      exact Nat.mod_eq_of_lt (by change mark.toNat+1 < 2^32; omega)
    have hslot : mark+1 ≠ 0 := by
      intro hz
      rw [hz] at hnext
      exact Nat.succ_ne_zero _ hnext.symm
    have hquota : ¬config.freeQuota < mark+1 := by
      rw [UInt32.lt_iff_toNat_lt] at hleft ⊢
      omega
    refine ⟨if_neg hslot,if_neg hquota, ?_⟩
    rintro slot ⟨⟩
    rfl
  · cases requested with
    | none => cases h
    | some tier =>
      cases h
      exact ⟨if_neg (hp tier),if_pos rfl,nofun⟩

end ClaimConfig

theorem Except.mapError_eq_error_iff {ε η α : Type} {x : Except ε α} {f : ε → η} {e : η} :
    x.mapError f = .error e ↔ ∃ r, x = .error r ∧ f r = e := by
  cases x <;> simp [Except.mapError]

namespace Realm
variable {s : Realm} {player : PlayerId} {cell : Cell} {requested : Option Tier} {cost : Cost}

/-- This is the one reason for which a player gets no quote. -/
theorem quote_eq_error_iff {e : Error} :
    s.quote player requested = .error e ↔
      e = .costRejected .noTierChosen ∧ s.config.claims.freeQuota ≤ s.cache.markOf player ∧
        requested = none := by
  rw [quote, Except.mapError_eq_error_iff]
  simp only [ClaimConfig.nextCost_eq_error_iff]
  constructor
  · rintro ⟨_,⟨rfl,hunpriced⟩,rfl⟩
    exact ⟨rfl,hunpriced⟩
  · rintro ⟨rfl,hunpriced⟩
    exact ⟨_,⟨rfl,hunpriced⟩,rfl⟩

/-- A claim at the cost that was quoted may be made, as long as nothing is asked of newcomers. -/
theorem mayClaim_of_quote (hv : s.config.validate = .ok ()) (vacant : s.Vacant cell)
    (hq : s.quote player requested = .ok cost) : s.MayClaim player cell cost none := by
  have hnext : s.config.claims.nextCost (s.cache.markOf player) requested = .ok cost :=
    Except.mapError_eq_ok_iff.mp hq
  obtain ⟨hform, hoffered, hslot⟩ :=
    ClaimConfig.nextCost_sound (Config.prices_ne_zero_of_validate hv) hnext
  exact ⟨hform,hoffered,vacant,hslot,nofun⟩

end Realm

/-! ### The limit -/

inductive Realm.RefusesMore (s : Realm) (player : PlayerId) (veteran : Bool) : Error → Prop where
  | full {limit : UInt64} (newcomer : veteran = false)
    (bounded : s.config.claims.newcomerLimit = some limit)
    (reached : limit.toNat ≤ (s.storage.tables.cellsOf player).length) :
    RefusesMore s player veteran
      (.claimLimitReached (s.storage.tables.cellsOf player).length limit.toNat)

inductive Realm.RefusesNext (s : Realm) (player : PlayerId) (requested : Option Tier)
    (veteran : Bool) : Error → Prop where
  | unpriced (used : s.config.claims.freeQuota ≤ s.storage.tables.marks.of player)
    (unrequested : requested = none) :
    RefusesNext s player requested veteran (.costRejected .noTierChosen)
  | full {e : Error}
    (priced : s.storage.tables.marks.of player < s.config.claims.freeQuota ∨ requested ≠ none)
    (more : s.RefusesMore player veteran e) : RefusesNext s player requested veteran e

/-- A newcomer with as many cells as the limit is told the limit and their number. -/
theorem Managed.checkLimit_eq_error_iff {s : Realm} (h : Managed s) {player : PlayerId}
    {veteran : Bool} {e : Error} :
    s.config.claims.checkLimit (s.cache.countOf player) veteran = .error e ↔
      s.RefusesMore player veteran e := by
  rw [h.inSync.countOf_eq h.exact]
  constructor
  · intro he
    unfold ClaimConfig.checkLimit ClaimConfig.claimLimit at he
    cases veteran with
    | true => cases he
    | false =>
      cases hl : s.config.claims.newcomerLimit with
      | none => simp [hl] at he
      | some limit =>
        by_cases hfull : limit.toNat ≤ (s.storage.tables.cellsOf player).length
        · simp only [hl, Bool.false_eq_true, if_false, if_pos hfull, Except.error.injEq] at he
          exact he ▸ .full rfl hl hfull
        · simp [hl, hfull] at he
  · rintro ⟨rfl, hl, hfull⟩
    simp [ClaimConfig.checkLimit, ClaimConfig.claimLimit, hl, hfull]

/-! ### The claim -/

structure Command.Obtains (c : Command) (stamp : Stamp) (s : Realm) (claim : Claim) : Prop where
  answered : (c.run stamp s).result = .ok (.claim claim)
  stored : (c.run stamp s).realm.storage.tables.claims[claim.cell]? = some claim
  cached : (c.run stamp s).realm.cache.owner? claim.cell = some claim

section Claiming
variable {s : Realm} {a : Actor} {cell : Cell} {cost : Cost} {stamp : Stamp}

/-- With a cost that is good for a claim, the verdict is up to the limit. -/
theorem Request.verdict_claimPersonal_of_mayClaim (may : s.MayClaim a.id cell cost none)
    (veteran : Bool) :
    (claimPersonal a cell cost (some veteran) stamp).verdict s =
      (s.config.claims.checkLimit (s.cache.countOf a.id) veteran).map fun _ =>
        .claim a.id (.make cell (.personal a.id) a.name cost stamp.now) stamp := by
  have hoffer : s.checkOffer cost = .ok () :=
    Realm.checkOffer_eq_ok_iff.mpr ⟨may.form,may.offered⟩
  have hslot : s.checkSlot a.id cell cost = .ok () := Realm.checkSlot_eq_ok_iff.mpr may.slot
  rw [verdict_claimPersonal, hoffer, may.vacant.vacancy_eq, hslot, Realm.checkNewcomer]
  cases s.config.claims.checkLimit (s.cache.countOf a.id) veteran <;> rfl

namespace Realm.Calm

theorem vacant (h : s.Calm) (unclaimed : s.storage.tables.claims[cell]? = none) :
    s.Vacant cell := by
  refine ⟨?_,unclaimed,by simp [h.faults]⟩
  rw [h.managed.inSync.owner?_eq]
  exact unclaimed

/-- A claim that comes to its plan is what the command is answered with, and store and cache have
it. -/
theorem obtains (h : s.Calm) {c : Command} (hself : c.forSelf = true)
    (hp : (c.request stamp).plan? s = some (.personal a cell cost stamp)) :
    c.Obtains stamp s (.make cell (.personal a.id) a.name cost stamp.now) := by
  have haccepted : c.Accepted stamp s := by
    apply h.accepted
    rintro _ _ _ rfl
    cases hself
  have hd : (c.request stamp).Done s (.personal a cell cost stamp) := haccepted.done hp
  have hafter : Managed (c.run stamp s).realm := h.managed.run (.command c) stamp
  have hclaims : (c.run stamp s).realm.storage.tables.claims = s.storage.tables.claims.insert cell
      (.make cell (.personal a.id) a.name cost stamp.now) := Store.claims_writeAll hd.written
  have hstored : (c.run stamp s).realm.storage.tables.claims[cell]? =
      some (.make cell (.personal a.id) a.name cost stamp.now) := by
    rw [hclaims, ExtTreeMap.getElem?_insert_self]
  refine ⟨hd.result,hstored, ?_⟩
  rw [hafter.inSync.owner?_eq]
  exact hstored

/-- A command whose verdict is up to the limit is refused for nothing else. -/
theorem obtains_iff_of_verdict (h : s.Calm) {c : Command} {veteran : Bool}
    (hself : c.forSelf = true)
    (hv : (c.request stamp).verdict s =
      (s.config.claims.checkLimit (s.cache.countOf a.id) veteran).map fun _ =>
        .personal a cell cost stamp) :
    (c.Obtains stamp s (.make cell (.personal a.id) a.name cost stamp.now) ↔
        ∀ e, ¬s.RefusesMore a.id veteran e) ∧
      ∀ e, (c.run stamp s).result = .error e ↔ s.RefusesMore a.id veteran e := by
  simp only [← h.managed.checkLimit_eq_error_iff]
  cases hl : s.config.claims.checkLimit (s.cache.countOf a.id) veteran with
  | ok u =>
    rw [hl] at hv
    have hobtains := h.obtains hself (Request.plan?_eq_some_iff_verdict.mpr hv)
    refine ⟨iff_of_true hobtains nofun,fun e => ?_⟩
    rw [hobtains.answered]
    exact iff_of_false nofun nofun
  | error r =>
    rw [hl] at hv
    obtain ⟨hresult, -⟩ := h.managed.inSync.run_of_verdict_error hv
    rw [hresult]
    refine ⟨iff_of_false ?_ fun hno => hno r rfl,fun e => ?_⟩
    · rintro ⟨hanswer, -, -⟩
      cases hresult.symm.trans hanswer
    · rw [Except.error.injEq, Except.error.injEq]

variable {requested : Option Tier}

/-- The two commands that look at the limit are refused for nothing else after a quote. -/
theorem obtains_iff_of_quote (h : s.Calm) (vacant : s.Vacant cell)
    (hq : s.quote a.id requested = .ok cost) {veteran : Bool} {c : Command}
    (hc : c = .claimWithLimit a cell cost veteran ∨ c = .claimNext a cell requested veteran) :
    (c.Obtains stamp s (.make cell (.personal a.id) a.name cost stamp.now) ↔
        ∀ e, ¬s.RefusesMore a.id veteran e) ∧
      ∀ e, (c.run stamp s).result = .error e ↔ s.RefusesMore a.id veteran e := by
  have may : s.MayClaim a.id cell cost none := mayClaim_of_quote h.managed.config_valid vacant hq
  have hverdict : (Request.claimPersonal a cell cost (some veteran) stamp).verdict s = _ :=
    Request.verdict_claimPersonal_of_mayClaim may veteran
  have hself : c.forSelf = true := by
    rcases hc with rfl | rfl <;> rfl
  apply h.obtains_iff_of_verdict hself
  rcases hc with rfl | rfl
  · rw [Command.request, Request.verdict_map, Request.claimWithLimit, hverdict]
    cases s.config.claims.checkLimit (s.cache.countOf a.id) veteran <;> rfl
  · rw [Command.request, Request.verdict_map, Request.verdict_claimNext, hq]
    change Except.map _ ((Request.claimPersonal a cell cost (some veteran) stamp).verdict s) = _
    rw [hverdict]
    cases s.config.claims.checkLimit (s.cache.countOf a.id) veteran <;> rfl

/-- Quote and claim in one fail where there is no quote, and else at the limit. -/
theorem result_claimNext_eq_error_iff (h : s.Calm) (vacant : s.Vacant cell) {veteran : Bool}
    {e : Error} :
    ((Command.claimNext a cell requested veteran).run stamp s).result = .error e ↔
      s.RefusesNext a.id requested veteran e := by
  have hmark : s.cache.markOf a.id = s.storage.tables.marks.of a.id :=
    h.managed.inSync.markOf_eq a.id
  cases hq : s.quote a.id requested with
  | ok cost =>
    rw [(h.obtains_iff_of_quote vacant hq (.inr rfl)).2 e]
    have hpriced : s.storage.tables.marks.of a.id < s.config.claims.freeQuota ∨
        requested ≠ none := by
      by_contra! hnone
      obtain ⟨hused, hreq⟩ := hnone
      cases hq.symm.trans (quote_eq_error_iff.mpr ⟨rfl,hmark ▸ UInt32.not_lt.mp hused,hreq⟩)
    constructor
    · exact .full hpriced
    · rintro (⟨hused,hnone⟩ | ⟨-,hmore⟩)
      · exact absurd hpriced (not_or.mpr ⟨UInt32.not_lt.mpr hused,not_not.mpr hnone⟩)
      · exact hmore
  | error r =>
    -- With no cost to claim at, the request ends before it looks at the cell.
    obtain ⟨rfl, hused, hnone⟩ := quote_eq_error_iff.mp hq
    rw [hmark] at hused
    have hv : ((Command.claimNext a cell requested veteran).request stamp).verdict s =
        .error (.costRejected .noTierChosen) := by
      rw [Command.request, Request.verdict_map, Request.verdict_claimNext, hq]
      rfl
    obtain ⟨hresult, -⟩ := h.managed.inSync.run_of_verdict_error hv
    rw [hresult]
    constructor
    · rintro ⟨⟩
      exact .unpriced hused hnone
    · rintro (⟨-,-⟩ | ⟨hpriced | hsome,-⟩)
      · rfl
      · exact absurd hused (UInt32.not_le.mpr hpriced)
      · exact absurd hnone hsome

end Realm.Calm

end Claiming

/-- In every state that a server comes to, with no failure of the store arranged, and for every cell
that is not claimed: a player who claims it at once at the cost that he was quoted gets it at just
this cost. With the limit for newcomers looked at, or with the quote and the claim in one, he gets
it too, unless he is a newcomer who owns as many cells as the limit or more, which he is then told.
There is no quote only for one who asks for no tier and has no free slot left. So this and the limit
are all that quote and claim in one can be refused for. -/
theorem Managed.quote_honoured {s : Realm} (h : Managed s) (working : s.storage.faults = {})
    {cell : Cell} (unclaimed : s.storage.tables.claims[cell]? = none) (a : Actor)
    (requested : Option Tier) (stamp : Stamp) :
    (∀ cost, s.quote a.id requested = .ok cost →
      let claim : Claim := .make cell (.personal a.id) a.name cost stamp.now
      claim.cost = cost ∧ (Command.claim a cell cost).Obtains stamp s claim ∧
      ∀ veteran c,
        c = Command.claimWithLimit a cell cost veteran ∨
          c = Command.claimNext a cell requested veteran →
        (c.Obtains stamp s claim ↔ ∀ e, ¬s.RefusesMore a.id veteran e) ∧
        ∀ e, (c.run stamp s).result = .error e ↔ s.RefusesMore a.id veteran e) ∧
    (∀ e, s.quote a.id requested = .error e ↔
      e = .costRejected .noTierChosen ∧
        s.config.claims.freeQuota ≤ s.storage.tables.marks.of a.id ∧ requested = none) ∧
    ∀ veteran e,
      ((Command.claimNext a cell requested veteran).run stamp s).result = .error e ↔
        s.RefusesNext a.id requested veteran e := by
  have hcalm : s.Calm := ⟨h,working⟩
  have hvacant : s.Vacant cell := hcalm.vacant unclaimed
  refine ⟨?_,fun e => ?_,fun veteran e => hcalm.result_claimNext_eq_error_iff hvacant⟩
  · intro cost hq claim
    refine ⟨rfl,?_,fun veteran c => hcalm.obtains_iff_of_quote hvacant hq⟩
    have may : s.MayClaim a.id cell cost none :=
      Realm.mayClaim_of_quote h.config_valid hvacant hq
    apply hcalm.obtains rfl
    rw [Command.request, Request.plan?_map, Request.claim,
      Request.plan?_claimPersonal.mpr ⟨may,rfl⟩]
    rfl
  · rw [Realm.quote_eq_error_iff, h.inSync.markOf_eq]

namespace Sample

def frontier : Realm := outpost.start.realm.runAll (pioneering ++ lastClaims)

/-- Ann is quoted her last free slot, and gets the cell for it if the limit is not looked at. As a
newcomer she is told that she has reached it. -/
theorem frontier_quote_honoured :
    Managed frontier ∧ frontier.storage.faults = {} ∧
    frontier.storage.tables.claims[road 12]? = none ∧
    frontier.quote ann.id none = .ok (.free 6) ∧
    (Command.claim ann (road 12) (.free 6)).Obtains (stamp 17) frontier
      (.make (road 12) (.personal ann.id) ann.name (.free 6) (.ofSeconds 17)) ∧
    ((Command.claimNext ann (road 12) none false).run (stamp 17) frontier).result =
      .error (.claimLimitReached 2 2) := by
  have hmanaged : Managed frontier := (Managed.start rfl rfl).runAll _
  have hworking : frontier.storage.faults = {} := by
    decide +kernel
  have hfree : frontier.storage.tables.claims[road 12]? = none := by
    decide +kernel
  have hquote : frontier.quote ann.id none = .ok (.free 6) := by
    decide +kernel
  have htwo : (frontier.storage.tables.cellsOf ann.id).length = 2 := by
    decide +kernel
  obtain ⟨hhonoured, -, -⟩ := hmanaged.quote_honoured hworking hfree ann none (stamp 17)
  obtain ⟨-, hobtains, hlimited⟩ := hhonoured _ hquote
  obtain ⟨-, hrefused⟩ := hlimited false _ (.inr rfl)
  have hfull : frontier.RefusesMore ann.id false (.claimLimitReached 2 2) := by
    have hmore : frontier.RefusesMore ann.id false (.claimLimitReached _ (2 : UInt64).toNat) :=
      .full rfl (by decide +kernel) (Nat.le_of_eq htwo.symm)
    rw [htwo] at hmore
    exact hmore
  exact ⟨hmanaged,hworking,hfree,hquote,hobtains,(hrefused _).mpr hfull⟩

end Sample

end Freehold
