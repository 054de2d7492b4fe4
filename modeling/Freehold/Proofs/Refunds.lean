import Freehold.Proofs.Acceptance
import Mathlib.Algebra.Order.BigOperators.Group.Finset

/-!
Refunds never create resources. What was paid for a claim stays with it while it passes from a player to
a village and on to another player, and is paid back at most once, at most in part, when the claim is
released. So the part that is still in the land and what was paid back are never more than what was paid.
-/

namespace Freehold
open Std

def Cost.amountIn (cost : Cost) (tier : Tier) : Nat :=
  if cost.kind = .paid tier then cost.amount.toNat else 0

def Refund.amountIn (refund : Refund) (tier : Tier) : Nat :=
  if refund.tier = tier then refund.amount.toNat else 0

def RefundPolicy.percent : RefundPolicy → Nat
  | none => 0
  | fraction percent => percent.toNat

def paid (tier : Tier) : Operation × Except Error Answer → Nat
  | (.command _,.ok (.claim claim)) => claim.cost.amountIn tier
  | _ => 0

def refunded (tier : Tier) : Operation × Except Error Answer → Nat
  | (.command _,.ok (.release release)) => release.refund.elim 0 (·.amountIn tier)
  | _ => 0

def paidIn (tier : Tier) : List (Operation × Except Error Answer) → Nat
  | [] => 0
  | x :: answers => paid tier x + paidIn tier answers

def refundedIn (tier : Tier) : List (Operation × Except Error Answer) → Nat
  | [] => 0
  | x :: answers => refunded tier x + refundedIn tier answers

/-! ### One refund -/

theorem Config.percent_le_of_validate {config : Config} (h : config.validate = .ok ()) :
    config.claims.refund.percent ≤ 100 := by
  simp only [validate, Except.bind_eq_ok_iff] at h
  obtain ⟨_, -, _, -, _, -, _, hr, -⟩ := h
  cases hp : config.claims.refund with
  | none => exact Nat.zero_le _
  | fraction percent =>
    rw [hp, checkRefund] at hr
    split at hr
    · cases hr
    · next hle => exact UInt8.not_lt.mp hle

namespace ClaimConfig
variable {config : ClaimConfig} {cost : Cost} {tier : Tier}

/-- The share of a cost fits into the type of amounts, so it is paid back as it is, rounded down. -/
theorem refundFor_exact (h : config.refund.percent ≤ 100) :
    (config.refundFor cost).elim 0 (·.amountIn tier) =
      cost.amountIn tier*config.refund.percent/100 := by
  have hbound : cost.amount.toNat < 2^32 := UInt32.toNat_lt _
  unfold refundFor Cost.amountIn
  cases cost.kind with
  | free => simp
  | paid bought =>
    cases hr : config.refund with
    | none => simp [RefundPolicy.percent]
    | fraction percent =>
      rw [hr, RefundPolicy.percent] at h
      -- A share of at most the whole fits where the whole fitted.
      have hshare : cost.amount.toNat*percent.toNat/100 ≤ cost.amount.toNat := by
        have hmul : cost.amount.toNat*percent.toNat ≤ cost.amount.toNat*100 :=
          Nat.mul_le_mul_left _ h
        omega
      have hnarrow : (UInt32.ofNat (cost.amount.toNat*percent.toNat/100)).toNat =
          cost.amount.toNat*percent.toNat/100 := UInt32.toNat_ofNat_of_lt' (show _ < 2^32 by omega)
      simp only [CostKind.paid.injEq, RefundPolicy.percent]
      by_cases hzero : UInt32.ofNat (cost.amount.toNat*percent.toNat/100) = 0
      · rw [hzero] at hnarrow
        simp only [hzero, reduceIte]
        split
        · exact hnarrow
        · simp
      · simp only [hzero, reduceIte, Option.elim_some, Refund.amountIn, hnarrow]
        split <;> simp

/-- No more is paid back for a cost than the part of it that the policy names. -/
theorem refundFor_le (h : config.refund.percent ≤ 100) :
    100*(config.refundFor cost).elim 0 (·.amountIn tier) ≤
      config.refund.percent*cost.amountIn tier := by
  rw [refundFor_exact h, Nat.mul_comm config.refund.percent]
  omega

end ClaimConfig

/-! ### The worth of the land -/

def amountAt (tier : Tier) (claims : ExtTreeMap Cell Claim) (cell : Cell) : Nat :=
  claims[cell]?.elim 0 (·.cost.amountIn tier)

/-- What was paid for all claims that are there. -/
def worth (tier : Tier) (claims : ExtTreeMap Cell Claim) : Nat :=
  ∑ cell ∈ claims.keys.toFinset, amountAt tier claims cell

theorem worth_empty (tier : Tier) : worth tier ∅ = 0 := by
  apply Finset.sum_eq_zero
  intro cell _
  simp [amountAt]

/-- The worth as a sum over any cells among which are those that are claimed. -/
theorem worth_eq_sum {tier : Tier} {claims : ExtTreeMap Cell Claim} {cells : Finset Cell}
    (h : claims.keys.toFinset ⊆ cells) :
    worth tier claims = ∑ cell ∈ cells, amountAt tier claims cell := by
  apply Finset.sum_subset h
  intro cell _ hn
  rw [List.mem_toFinset, ExtTreeMap.mem_keys, ExtTreeMap.mem_iff_isSome_getElem?,
    Option.not_isSome_iff_eq_none] at hn
  rw [amountAt, hn]
  rfl

theorem worth_le {tier : Tier} {claims claims' : ExtTreeMap Cell Claim}
    (h : ∀ k, amountAt tier claims' k ≤ amountAt tier claims k) :
    worth tier claims' ≤ worth tier claims := by
  let cells : Finset Cell := claims.keys.toFinset ∪ claims'.keys.toFinset
  have hold : claims.keys.toFinset ⊆ cells := Finset.subset_union_left
  have hnew : claims'.keys.toFinset ⊆ cells := Finset.subset_union_right
  rw [worth_eq_sum hold, worth_eq_sum hnew]
  exact Finset.sum_le_sum fun k _ => h k

theorem amountAt_onClaims (tier : Tier) (claims : ExtTreeMap Cell Claim) (x : CacheChange) (k : Cell) :
    amountAt tier (x.onClaims claims) k =
      if x.cell = k then x.claim?.elim 0 (·.cost.amountIn tier) else amountAt tier claims k := by
  rw [amountAt, CacheChange.getElem?_onClaims]
  split <;> rfl

/-- One change takes the worth of its cell out of the worth of the land, and puts a new one in. -/
theorem worth_onClaims (tier : Tier) (claims : ExtTreeMap Cell Claim) (x : CacheChange) :
    worth tier (x.onClaims claims) + amountAt tier claims x.cell =
      worth tier claims + x.claim?.elim 0 (·.cost.amountIn tier) := by
  -- Over the cells of both sides the two sums have the same indices, and differ at one of them.
  let cells : Finset Cell :=
    insert x.cell (claims.keys.toFinset ∪ (x.onClaims claims).keys.toFinset)
  have hcell : x.cell ∈ cells := Finset.mem_insert_self _ _
  have hold : claims.keys.toFinset ⊆ cells :=
    Finset.subset_union_left.trans (Finset.subset_insert _ _)
  have hnew : (x.onClaims claims).keys.toFinset ⊆ cells :=
    Finset.subset_union_right.trans (Finset.subset_insert _ _)
  have hrest : ∑ k ∈ cells.erase x.cell, amountAt tier (x.onClaims claims) k =
      ∑ k ∈ cells.erase x.cell, amountAt tier claims k := by
    refine Finset.sum_congr rfl fun k hk => ?_
    rw [amountAt_onClaims, if_neg (Finset.ne_of_mem_erase hk).symm]
  rw [worth_eq_sum hold, worth_eq_sum hnew, ← Finset.add_sum_erase _ _ hcell,
    ← Finset.add_sum_erase _ _ hcell, hrest, amountAt_onClaims, if_pos rfl]
  omega

/-! ### What a command does to the worth -/

/-- What was paid back and what the land is worth afterwards come out of what it was worth before and
what was paid, at the percentage that is paid back. -/
def Balances (percent before paid back after : Nat) : Prop :=
  100*back + percent*after ≤ percent*(before + paid)

namespace Balances
variable {percent before between after paid paid' back back' : Nat}

theorem of_le (h : after ≤ before) : Balances percent before paid 0 after := by
  rw [Balances, Nat.mul_zero, Nat.zero_add]
  exact Nat.mul_le_mul_left _ (h.trans (Nat.le_add_right _ _))

theorem trans (h : Balances percent before paid back between)
    (h' : Balances percent between paid' back' after) :
    Balances percent before (paid+paid') (back+back') after := by
  simp only [Balances, Nat.mul_add] at *
  omega

end Balances

inductive Realm.Settles (s : Realm) : List CacheChange → Answer → Prop where
  | bought {claim : Claim} (vacant : s.Vacant claim.cell) :
    Settles s [.insert claim] (.claim claim)
  -- No more is paid back than the policy says.
  | released {cell : Cell} {claim : Claim} {refund : Option Refund}
    (found : s.cache.owner? cell = some claim)
    (paidBack : refund = none ∨ refund = s.config.claims.refundFor claim.cost) :
    Settles s [.remove cell] (.release ⟨claim,refund⟩)
  -- Every claim that is written costs what the one before it did.
  | kept {changes : List CacheChange} {answer : Answer}
    (costs : ∀ x ∈ changes, ∀ claim, x.claim? = some claim →
      ∃ old : Claim, s.cache.owner? x.cell = some old ∧ claim.cost = old.cost)
    (free : ∀ c tier, paid tier (.command c,.ok answer) = 0 ∧
      refunded tier (.command c,.ok answer) = 0) :
    Settles s changes answer

/-- Claims that are written again at their old cost. -/
theorem Realm.Held.costs_kept {s : Realm} {claims : List Claim} (h : s.Held claims)
    {f : Claim → Claim} (hcell : ∀ c, (f c).cell = c.cell) (hcost : ∀ c, (f c).cost = c.cost) :
    ∀ x ∈ claims.map fun c => CacheChange.upsert (f c), ∀ claim, x.claim? = some claim →
      ∃ old : Claim, s.cache.owner? x.cell = some old ∧ claim.cost = old.cost := by
  rw [List.forall_mem_map]
  rintro c hc claim ⟨⟩
  refine ⟨c, ?_, hcost c⟩
  rw [CacheChange.cell, hcell c]
  exact h.found c hc

/-- A plan pays for a claim, releases one for no more than the policy pays back, or leaves all costs
as they are. -/
theorem Command.ComesTo.settles {stamp : Stamp} {s : Realm} {c : Command} {p : Plan Answer}
    (hc : c.ComesTo stamp s p) (h : s.InSync) : s.Settles p.cacheChanges p.answer := by
  cases hc with
  | claim may | claimWithLimit may | claimNext _ may => exact .bought may.vacant
  | expand _ _ _ _ vacant => exact .bought vacant
  | unclaim found =>
    refine .released found ?_
    split
    · exact .inr rfl
    · exact .inl rfl
  | found _ _ _ _ own =>
    exact .kept ((own.held h).costs_kept (fun _ => rfl) fun _ => rfl) fun _ _ => ⟨rfl,rfl⟩
  | disband =>
    exact .kept ((h.held_stillOwned _).costs_kept (fun _ => rfl) fun _ => rfl) fun _ _ => ⟨rfl,rfl⟩
  | @rename a village name =>
    refine .kept ?_ fun _ _ => ⟨rfl,rfl⟩
    rw [Plan.cacheChanges_map]
    simp only [Plan.rename, List.map_map]
    exact (h.held_stillOwned village).costs_kept (f := fun c => { c with ownerName := name })
      (fun _ => rfl) fun _ => rfl
  | returnCells =>
    refine .kept ?_ fun _ _ => ⟨rfl,rfl⟩
    rw [Plan.cacheChanges_map]
    simp only [Plan.returnCells, List.forall_mem_map]
    intro c _ claim hclaim
    cases hclaim
  | transfer | addMember | kick | setRole | leave | grant | revoke =>
    exact .kept (List.forall_mem_nil _) fun _ _ => ⟨rfl,rfl⟩

/-- Changes that leave no cell worth more than `before`, one after the other. -/
theorem amountAt_foldl_le {tier : Tier} {before claims : ExtTreeMap Cell Claim}
    {changes : List CacheChange} (hle : ∀ k, amountAt tier claims k ≤ amountAt tier before k)
    (h : ∀ x ∈ changes, x.claim?.elim 0 (·.cost.amountIn tier) ≤ amountAt tier before x.cell)
    (k : Cell) :
    amountAt tier (changes.foldl CacheChange.onClaims claims) k ≤ amountAt tier before k := by
  induction changes generalizing claims with
  | nil => exact hle k
  | cons x changes ih =>
    refine ih ?_ fun y hy => h y (List.mem_cons_of_mem _ hy)
    intro k
    rw [amountAt_onClaims]
    split
    · next hk =>
      subst hk
      exact h x List.mem_cons_self
    · exact hle k

namespace Realm
variable {s : Realm} {changes : List CacheChange} {answer : Answer}

/-- Whatever a plan settles is balanced. -/
theorem Settles.balances (hs : s.Settles changes answer)
    (hp : s.config.claims.refund.percent ≤ 100) (c : Command) (tier : Tier) :
    Balances s.config.claims.refund.percent (worth tier s.cache.byCell)
      (paid tier (.command c,.ok answer)) (refunded tier (.command c,.ok answer))
      (worth tier (changes.foldl CacheChange.onClaims s.cache.byCell)) := by
  have hone (x : CacheChange) := worth_onClaims tier s.cache.byCell x
  cases hs with
  | @bought claim vacant =>
    have hworth : worth tier ([.insert claim].foldl CacheChange.onClaims s.cache.byCell) ≤
        worth tier s.cache.byCell + claim.cost.amountIn tier :=
      Nat.le_of_add_right_le (hone (.insert claim)).le
    simp only [Balances, refunded, paid, Nat.mul_zero, Nat.zero_add]
    exact Nat.mul_le_mul_left _ hworth
  | @released cell claim refund found paidBack =>
    have hbefore : amountAt tier s.cache.byCell cell = claim.cost.amountIn tier := by
      rw [Cache.owner?] at found
      rw [amountAt, found]
      rfl
    have hback : 100*refund.elim 0 (·.amountIn tier) ≤
        s.config.claims.refund.percent*claim.cost.amountIn tier := by
      rcases paidBack with rfl | rfl
      · exact Nat.zero_le _
      · exact ClaimConfig.refundFor_le hp
    have hworth : worth tier ([.remove cell].foldl CacheChange.onClaims s.cache.byCell) +
        claim.cost.amountIn tier = worth tier s.cache.byCell := hbefore ▸ hone (.remove cell)
    simp only [Balances, refunded, paid, Nat.add_zero, ← hworth, Nat.mul_add]
    omega
  | kept costs free =>
    obtain ⟨hpaid, hback⟩ := free c tier
    have hle : ∀ k, amountAt tier (changes.foldl CacheChange.onClaims s.cache.byCell) k ≤
        amountAt tier s.cache.byCell k := by
      refine amountAt_foldl_le (fun _ => Nat.le_refl _) ?_
      intro x hx
      cases hc : x.claim? with
      | none => exact Nat.zero_le _
      | some claim =>
        obtain ⟨old, hold, hcost⟩ := costs x hx claim hc
        rw [Cache.owner?] at hold
        rw [amountAt, hold, Option.elim_some, Option.elim_some, hcost]
    rw [hpaid, hback]
    exact .of_le (worth_le hle)

end Realm

namespace Realm.InSync
variable {s : Realm}

theorem byCell_recalls {t : Realm} (h : s.InSync) (hr : s.Recalls t) :
    t.cache.byCell = s.cache.byCell := by
  rw [(h.recalls hr).claims, hr.tables, h.claims]

/-- Every operation is balanced, whether it pays, pays back or changes what land is worth. -/
theorem balances_run (h : s.InSync) (hp : s.config.claims.refund.percent ≤ 100) (o : Operation)
    (stamp : Stamp) (tier : Tier) :
    Balances s.config.claims.refund.percent (worth tier s.cache.byCell)
      (paid tier (o,(o.run stamp s).result)) (refunded tier (o,(o.run stamp s).result))
      (worth tier (o.run stamp s).realm.cache.byCell) := by
  -- Where nothing is released and the claims stay, there is nothing to balance.
  have hidle (hback : refunded tier (o,(o.run stamp s).result) = 0)
      (hcache : (o.run stamp s).realm.cache.byCell = s.cache.byCell) :
      Balances s.config.claims.refund.percent (worth tier s.cache.byCell)
        (paid tier (o,(o.run stamp s).result)) (refunded tier (o,(o.run stamp s).result))
        (worth tier (o.run stamp s).realm.cache.byCell) := by
    rw [hback, hcache]
    exact .of_le (Nat.le_refl _)
  by_cases ho : ∃ c, o = .command c
  · obtain ⟨c, rfl⟩ := ho
    rcases c.refused_or_done stamp s with ⟨e,he⟩ | ⟨p,hc,hd⟩
    · have hresult : (Operation.run stamp s (.command c)).result = .error e := he.result
      refine hidle (by rw [hresult]; rfl) ?_
      exact congrArg (·.byCell) (he.cache.trans (h.healed e))
    · have hresult : (Operation.run stamp s (.command c)).result = .ok p.answer := hd.result
      have hcache : (Operation.run stamp s (.command c)).realm.cache =
          s.cache.changeAll p.cacheChanges := hd.cache
      rw [hresult, hcache, Cache.byCell_changeAll]
      exact (hc.settles h).balances hp c tier
  · have hback (result : Except Error Answer) : refunded tier (o,result) = 0 := by
      unfold refunded
      split
      · next c release heq => exact absurd ⟨c,(Prod.mk.inj heq).1⟩ ho
      · rfl
    rcases o.run_cases stamp s with hr | ⟨c,hc,-⟩
    · exact hidle (hback _) (h.byCell_recalls hr)
    · exact absurd ⟨c,hc⟩ ho

theorem balances_runAll (h : s.InSync) (hp : s.config.claims.refund.percent ≤ 100)
    (operations : List (Operation × Stamp)) (tier : Tier) :
    Balances s.config.claims.refund.percent (worth tier s.cache.byCell)
      (paidIn tier (s.answers operations)) (refundedIn tier (s.answers operations))
      (worth tier (s.runAll operations).cache.byCell) := by
  induction operations generalizing s with
  | nil => exact .of_le (Nat.le_refl _)
  | cons step operations ih =>
    obtain ⟨o, stamp⟩ := step
    have hconfig : (o.run stamp s).realm.config = s.config := o.config_run stamp s
    have hrest := ih (h.run o stamp) (hconfig ▸ hp)
    rw [hconfig] at hrest
    exact (h.balances_run hp o stamp tier).trans hrest

end Realm.InSync

/-- An answer of a run was given in one of the states on the way. -/
theorem Realm.exists_of_mem_answers {s : Realm} {operations : List (Operation × Stamp)}
    {x : Operation × Except Error Answer} (h : x ∈ s.answers operations) :
    ∃ t stamp, x.2 = (x.1.run stamp t).result := by
  induction operations generalizing s with
  | nil => cases h
  | cons step operations ih =>
    rcases List.mem_cons.mp h with rfl | h
    · exact ⟨s,step.2,rfl⟩
    · exact ih h

/-- Whoever releases land of another owner gets nothing back for it. -/
theorem Command.refund_eq_none_of_ne {s : Realm} {stamp : Stamp} {a : Actor} {cell : Cell}
    {reason : Option String} {release : Release}
    (h : ((Command.unclaim a cell reason).run stamp s).result = .ok (.release release))
    (hne : release.claim.owner ≠ .personal a.id) : release.refund = none := by
  rcases (Command.unclaim a cell reason).refused_or_done stamp s with ⟨e,he⟩ | ⟨p,hc,hp⟩
  · have heq : Except.error e = Except.ok (Answer.release release) := he.result.symm.trans h
    cases heq
  · have heq : Except.ok p.answer = Except.ok (Answer.release release) := hp.result.symm.trans h
    cases hc with
    | unclaim found allowed =>
      cases heq
      rcases allowed with ⟨howner,-⟩ | ⟨-,-,rfl⟩
      · exact absurd howner hne
      · rfl

/-- In a run from the start of a server on an empty store, the refunds of a tier are at most the share of
what was paid of it that the policy names, and there are none if it names none. A refund is its share as
it is, rounded down and never cut to size, and land that was taken from another owner is not paid back.
-/
theorem Realm.refunds_bounded {s : Realm} (empty : s.storage.tables = {})
    (started : s.start.result = .ok ()) (operations : List (Operation × Stamp)) (tier : Tier) :
    (∀ percent, s.config.claims.refund = .fraction percent →
      100*refundedIn tier (s.start.realm.answers operations) ≤
        percent.toNat*paidIn tier (s.start.realm.answers operations)) ∧
    (s.config.claims.refund = .none →
      refundedIn tier (s.start.realm.answers operations) = 0) ∧
    (∀ percent cost, s.config.claims.refund = .fraction percent →
      (s.config.claims.refundFor cost).elim 0 (·.amountIn tier) =
        cost.amountIn tier*percent.toNat/100) ∧
    ∀ a cell reason release,
      (.command (.unclaim a cell reason),.ok (.release release)) ∈
        s.start.realm.answers operations →
      release.claim.owner ≠ .personal a.id → release.refund = none := by
  have hm : Managed s.start.realm := .start empty started
  have hconfig : s.start.realm.config = s.config := s.config_start
  have hp : s.config.claims.refund.percent ≤ 100 :=
    Config.percent_le_of_validate (hconfig ▸ hm.config_valid)
  have hland : s.start.realm.cache.byCell = ∅ := by
    rw [hm.inSync.claims, (recalls_start started).tables]
    exact congrArg Store.claims empty
  have hrun := hm.inSync.balances_runAll (hconfig ▸ hp) operations tier
  rw [hland, worth_empty, Balances, Nat.zero_add, hconfig] at hrun
  have hbound : 100*refundedIn tier (s.start.realm.answers operations) ≤
      s.config.claims.refund.percent*paidIn tier (s.start.realm.answers operations) :=
    Nat.le_of_add_right_le hrun
  refine ⟨?_, ?_, ?_, ?_⟩
  · intro percent hr
    rw [hr] at hbound
    exact hbound
  · intro hr
    rw [hr, RefundPolicy.percent] at hbound
    omega
  · intro percent cost hr
    rw [ClaimConfig.refundFor_exact hp, hr, RefundPolicy.percent]
  · intro a cell reason release hx hne
    obtain ⟨t, stamp, hresult⟩ := exists_of_mem_answers hx
    exact Command.refund_eq_none_of_ne hresult.symm hne

namespace Sample

def bank : Realm := { config := refunding 55 }

def dealings : List (Operation × Stamp) :=
  [(.command (.claim ann (road 0) (.paid .ironIngot 64)),stamp 1),
    (.command (.claim ann (road 1) (.paid .diamond 8)),stamp 2),
    (.command (.found ann "Oakham" [road 0,road 1]),stamp 3),
    (.command (.addMember ann oakham ben),stamp 4),
    (.command (.transfer ann oakham ben.id),stamp 5),
    (.command (.disband ben oakham),stamp 6),
    (.command (.unclaim ben (road 0) none),stamp 7),
    (.elevate cay.id,stamp 8),
    (.command (.unclaim cay (road 1) none),stamp 9)]

def seized : Release :=
  ⟨⟨road 1,.personal ben.id,ben.name,.ofSeconds 2,.ofSeconds 6,.paid .diamond 8⟩,none⟩

/-- Ann pays for two cells and founds a village on them, which Ben takes over and ends. He gives the
first cell back, and the second one is taken from him. The server pays back 55 percent. -/
theorem dealings_refunds_bounded :
    bank.storage.tables = {} ∧ bank.start.result = .ok () ∧
    bank.config.claims.refund = .fraction 55 ∧
    paidIn .ironIngot (bank.start.realm.answers dealings) = 64 ∧
    refundedIn .ironIngot (bank.start.realm.answers dealings) = 35 ∧
    100*refundedIn .ironIngot (bank.start.realm.answers dealings) ≤
      55*paidIn .ironIngot (bank.start.realm.answers dealings) ∧
    (.command (.unclaim cay (road 1) none),.ok (.release seized)) ∈
      bank.start.realm.answers dealings ∧
    seized.refund = none := by
  obtain ⟨hbound, -, -, hseized⟩ :=
    Realm.refunds_bounded (s := bank) rfl rfl dealings .ironIngot
  have hpaid : paidIn .ironIngot (bank.start.realm.answers dealings) = 64 := by
    decide +kernel
  have hback : refundedIn .ironIngot (bank.start.realm.answers dealings) = 35 := by
    decide +kernel
  have hlast : (.command (.unclaim cay (road 1) none),.ok (.release seized)) ∈
      bank.start.realm.answers dealings := by
    decide +kernel
  exact ⟨rfl,rfl,rfl,hpaid,hback,hbound 55 rfl,hlast,hseized _ _ _ _ hlast (by decide)⟩

end Sample

end Freehold
