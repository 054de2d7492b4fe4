import Freehold.Proofs.Acceptance

/-!
Requests for one cell. Whoever would be granted the cell alone and asks for it first gets it, whatever
others asked before and ask after. A request that is refused leaves nothing behind but a count, so those
before the winner do not matter to him, and those after him find the cell taken.
-/

namespace Freehold
open Std

inductive Operation.BidsFor (cell : Cell) : Operation → Prop where
  | claim (a : Actor) (cost : Cost) : BidsFor cell (.command (.claim a cell cost))
  | claimWithLimit (a : Actor) (cost : Cost) (veteran : Bool) :
    BidsFor cell (.command (.claimWithLimit a cell cost veteran))
  | expand (a : Actor) (cost : Cost) : BidsFor cell (.command (.expand a cell cost))

def Operation.ownOffer? : Operation → Option Cost
  | .command (.claim _ _ cost) | .command (.claimWithLimit _ _ cost _) => some cost
  | _ => none

namespace Realm

def alone (s : Realm) (x : Operation × Stamp) : Operation × Except Error Answer :=
  (x.1,(x.1.run x.2 s).result)

def Grants (s : Realm) (x : Operation × Stamp) : Prop :=
  ∃ answer, (x.1.run x.2 s).result = .ok answer

end Realm

namespace Operation.BidsFor
variable {s : Realm} {cell : Cell} {c : Command} {stamp : Stamp}

/-- What is decided about a bid does not depend on how often the store was read. -/
theorem verdict_withReads (h : BidsFor cell (.command c)) (n : Nat) :
    (c.request stamp).verdict (s.withReads n) = (c.request stamp).verdict s := by
  cases h with
  | claim | claimWithLimit =>
    simp only [Command.request, Request.verdict_map, Request.claim, Request.claimWithLimit,
      Request.verdict_claimPersonal]
    rfl
  | expand =>
    simp only [Command.request, Request.verdict_map, Request.verdict_expand]
    rfl

/-- A bid that is granted makes a claim of the cell. -/
theorem claims (h : BidsFor cell (.command c)) {p : Plan Answer} (hc : c.ComesTo stamp s p) :
    ∃ claim, p.answer = .claim claim ∧ claim.cell = cell ∧ p.cacheChanges = [.insert claim] := by
  cases h <;> cases hc <;> exact ⟨_,rfl,rfl,rfl⟩

/-- A taken cell is granted to nobody. -/
theorem exists_verdict_error (h : BidsFor cell (.command c)) {claim : Claim}
    (ho : s.cache.owner? cell = some claim) :
    ∃ e, (c.request stamp).verdict s = .error e := by
  cases hv : (c.request stamp).verdict s with
  | error e => exact ⟨e,rfl⟩
  | ok p =>
    have hc : c.ComesTo stamp s p := .of_plan? (Request.plan?_eq_some_iff_verdict.mpr hv)
    have hvacant : s.Vacant cell := by
      cases h with
      | claim | claimWithLimit =>
        cases hc
        next may => exact may.vacant
      | expand =>
        cases hc with
        | expand _ _ _ _ vacant => exact vacant
    rw [hvacant.cached] at ho
    cases ho

/-- A good offer for a taken cell is told whose the cell is. -/
theorem verdict_of_owner (h : BidsFor cell (.command c)) {claim : Claim}
    (ho : s.cache.owner? cell = some claim) {cost : Cost}
    (hc : ownOffer? (.command c) = some cost) (hoffer : s.checkOffer cost = .ok ()) :
    (c.request stamp).verdict s = .error (.conflict cell claim.ownerName) := by
  cases h with
  | claim | claimWithLimit =>
    cases hc
    simp only [Command.request, Request.verdict_map, Request.claim, Request.claimWithLimit,
      Request.verdict_claimPersonal, Realm.vacancy_of_owner ho, hoffer]
    rfl
  | expand => cases hc

end Operation.BidsFor

namespace Realm
variable {s : Realm} {cell : Cell} {bids : List (Operation × Stamp)}

theorem InSync.not_grants (h : s.InSync) {c : Command} {stamp : Stamp} {e : Error}
    (hv : (c.request stamp).verdict s = .error e) : ¬s.Grants (.command c,stamp) := by
  rintro ⟨answer, hok⟩
  have heq : Except.error e = Except.ok answer := (h.run_of_verdict_error hv).1.symm.trans hok
  cases heq

/-- In a calm realm a bid is granted or its checks refuse it. -/
theorem Calm.bid_cases (h : s.Calm) {b : Operation × Stamp} (hb : Operation.BidsFor cell b.1) :
    ∃ c, b.1 = .command c ∧
      ((s.Grants b ∧ ∃ p, (c.request b.2).verdict s = .ok p) ∨
        ¬s.Grants b ∧ ∃ e, (c.request b.2).verdict s = .error e) := by
  obtain ⟨o, stamp⟩ := b
  obtain ⟨c, rfl⟩ : ∃ c, o = .command c := by
    cases hb <;> exact ⟨_,rfl⟩
  refine ⟨c,rfl, ?_⟩
  cases hv : (c.request stamp).verdict s with
  | ok p =>
    obtain ⟨-, -, hresult, -⟩ := h.run_of_verdict_ok hv (by rintro a name cells rfl; cases hb)
    exact .inl ⟨⟨_,hresult⟩,p,rfl⟩
  | error e => exact .inr ⟨h.managed.inSync.not_grants hv,e,rfl⟩

/-- Bids that would all be refused alone are refused one after the other, each as if it were alone. -/
theorem Calm.losers (h : s.Calm) (hb : ∀ b ∈ bids, Operation.BidsFor cell b.1)
    (hr : ∀ b ∈ bids, ¬s.Grants b) (n : Nat) :
    (s.withReads n).answers bids = bids.map s.alone ∧
      ∃ m, (s.withReads n).runAll bids = s.withReads m := by
  -- The induction is over the bids, and all that it has to carry along is the number of reads.
  induction bids generalizing n with
  | nil => exact ⟨rfl,n,rfl⟩
  | cons b bids ih =>
    have hbid : Operation.BidsFor cell b.1 := hb b List.mem_cons_self
    obtain ⟨c, hc, ⟨hgrants,-⟩ | ⟨-,e,hv⟩⟩ := h.bid_cases hbid
    · exact absurd hgrants (hr b List.mem_cons_self)
    · obtain ⟨o, stamp⟩ := b
      cases hc
      have hsync : s.InSync := h.managed.inSync
      have hn : (s.withReads n).InSync := ⟨hsync.claims,hsync.marks,hsync.keyed⟩
      have hresult : (c.run stamp s).result = .error e := (hsync.run_of_verdict_error hv).1
      obtain ⟨hsame, k, hrealm⟩ :=
        hn.run_of_verdict_error ((hbid.verdict_withReads n).trans hv)
      obtain ⟨hanswers, m, hend⟩ := ih (fun b hm => hb b (List.mem_cons_of_mem _ hm))
        (fun b hm => hr b (List.mem_cons_of_mem _ hm)) k
      have hstep : (Operation.run stamp (s.withReads n) (.command c)).realm = s.withReads k := hrealm
      refine ⟨?_,m, ?_⟩
      · have hfirst : (s.withReads n).alone (.command c,stamp) = s.alone (.command c,stamp) :=
          congrArg (Prod.mk _) (hsame.trans hresult.symm)
        rw [List.map_cons, ← hfirst, ← hanswers, ← hstep]
        rfl
      · rw [← hend, ← hstep]
        rfl

/-- Whoever asks for a cell that is taken is refused. -/
theorem Calm.alone_of_owner (h : s.Calm) {b : Operation × Stamp}
    (hb : Operation.BidsFor cell b.1) {claim : Claim} (ho : s.cache.owner? cell = some claim) :
    ¬s.Grants b ∧ (∃ e, (s.alone b).2 = .error e) ∧
      ∀ cost, b.1.ownOffer? = some cost → s.checkOffer cost = .ok () →
        (s.alone b).2 = .error (.conflict cell claim.ownerName) := by
  obtain ⟨c, hc, -⟩ := h.bid_cases hb
  obtain ⟨o, stamp⟩ := b
  cases hc
  have hsync : s.InSync := h.managed.inSync
  obtain ⟨e, hv⟩ : ∃ e, (c.request stamp).verdict s = .error e := hb.exists_verdict_error ho
  refine ⟨hsync.not_grants hv,⟨e,(hsync.run_of_verdict_error hv).1⟩, ?_⟩
  intro cost hown hoffer
  exact (hsync.run_of_verdict_error (hb.verdict_of_owner ho hown hoffer)).1

/-- The winner gets the cell as if the reads before him had not been, and what he leaves behind differs
in their number only. -/
theorem Calm.winner (h : s.Calm) {b : Operation × Stamp} (hb : Operation.BidsFor cell b.1)
    (hg : s.Grants b) {n : Nat} (hn : (s.withReads n).Calm) :
    ∃ claim, (b.1.run b.2 s).result = .ok (.claim claim) ∧ claim.cell = cell ∧
      (b.1.run b.2 s).realm.cache.owner? cell = some claim ∧
      (b.1.run b.2 s).realm.Calm ∧ (b.1.run b.2 (s.withReads n)).result = .ok (.claim claim) ∧
      ∃ m, (b.1.run b.2 (s.withReads n)).realm = (b.1.run b.2 s).realm.withReads m := by
  obtain ⟨c, hc, ⟨-,p,hv⟩ | ⟨hn,-⟩⟩ := h.bid_cases hb
  · obtain ⟨o, stamp⟩ := b
    cases hc
    have hfresh : ∀ a name cells, c = .found a name cells →
        stamp.village ∉ s.storage.tables.villages := by
      rintro a name cells rfl
      cases hb
    -- The plan is one and the same in both realms, and so is what the store makes of it.
    obtain ⟨claim, hanswer, hcell, hchanges⟩ :=
      hb.claims (.of_plan? (Request.plan?_eq_some_iff_verdict.mpr hv))
    obtain ⟨t, hw, hresult, k, hrealm⟩ := h.run_of_verdict_ok hv hfresh
    obtain ⟨t', hw', hresult', m, hrealm'⟩ :=
      hn.run_of_verdict_ok ((hb.verdict_withReads n).trans hv) hfresh
    obtain rfl : t = t' := Except.ok.inj (hw.symm.trans hw')
    rw [hanswer] at hresult hresult'
    refine ⟨claim,hresult,hcell, ?_,h.run c stamp,hresult',m, ?_⟩
    · change (c.run stamp s).realm.cache.owner? cell = some claim
      rw [hrealm]
      change (s.cache.changeAll p.cacheChanges).byCell[cell]? = some claim
      rw [Cache.byCell_changeAll, hchanges, ← hcell]
      exact ExtTreeMap.getElem?_insert_self
    · change (c.run stamp (s.withReads n)).realm = (c.run stamp s).realm.withReads m
      rw [hrealm, hrealm']
      rfl
  · exact absurd hg hn

end Realm

/-- Any number of requests for one cell, one after another in any order, in a state that a server comes
to with no failure arranged. If some of them would be granted alone, the first of these in the order of
the list is granted, and no other: those before it are answered as if they were alone, those after it are
refused, and of these a claim for oneself at a good offer is told the owner whom the winner's claim
names. In the end all is as if the winner had been the only one. If none would be granted alone, none is,
and all stays as it was. Only the number of reads is not counted in that. -/
theorem Managed.one_winner {s : Realm} (h : Managed s) (hf : s.storage.faults = {}) {cell : Cell}
    {bids : List (Operation × Stamp)} (hb : ∀ b ∈ bids, Operation.BidsFor cell b.1) :
    ((∃ b ∈ bids, s.Grants b) → ∃ before winner after claim late,
      bids = before ++ winner :: after ∧ (∀ b ∈ before, ¬s.Grants b) ∧
      s.alone winner = (winner.1,.ok (.claim claim)) ∧ claim.cell = cell ∧
      s.answers bids = before.map s.alone ++ s.alone winner :: late ∧
      late.map (·.1) = after.map (·.1) ∧
      (∀ x ∈ late, (∃ e, x.2 = .error e) ∧ ∀ cost, x.1.ownOffer? = some cost →
        s.checkOffer cost = .ok () → x.2 = .error (.conflict cell claim.ownerName)) ∧
      ∃ n, s.runAll bids = (winner.1.run winner.2 s).realm.withReads n) ∧
    ((∀ b ∈ bids, ¬s.Grants b) →
      s.answers bids = bids.map s.alone ∧ ∃ n, s.runAll bids = s.withReads n) := by
  have hcalm : s.Calm := ⟨h,hf⟩
  refine ⟨?_,fun hr => hcalm.losers hb hr s.storage.reads⟩
  rintro ⟨b, hmem, hg⟩
  classical
  obtain ⟨winner, before, after, hbefore, hwinner, rfl, -⟩ :=
    List.exists_of_eraseP (p := fun b => decide (s.Grants b)) hmem (decide_eq_true hg)
  have hlosers : ∀ b ∈ before, ¬s.Grants b := by simpa using hbefore
  have hbid : Operation.BidsFor cell winner.1 := hb _ (by simp)
  obtain ⟨hearly, n, hn⟩ := hcalm.losers (fun b hm => hb b (by simp [hm])) hlosers s.storage.reads
  change s.answers before = _ at hearly
  change s.runAll before = _ at hn
  have hreads : (s.withReads n).Calm := ⟨hn ▸ h.runAll before,hf⟩
  obtain ⟨claim, hresult, hcell, howner, hcalm', hresult', m, hm⟩ :=
    hcalm.winner hbid (of_decide_eq_true hwinner) hreads
  -- From here on the cell is taken, so everyone who asks is a loser in the realm of the winner.
  let won : Realm := (winner.1.run winner.2 s).realm
  have hlate : ∀ b ∈ after, _ := fun b hb' => hcalm'.alone_of_owner (hb b (by simp [hb'])) howner
  obtain ⟨hanswers, k, hk⟩ := hcalm'.losers (fun b hm => hb b (by simp [hm]))
    (fun b hb' => (hlate b hb').1) m
  refine ⟨before,winner,after,claim,after.map won.alone,rfl,hlosers, ?_,hcell, ?_, ?_, ?_,k, ?_⟩
  · exact congrArg (Prod.mk _) hresult
  · rw [Realm.answers_append, hearly, hn, Realm.answers, hresult', hm, hanswers]
    exact congrArg (fun r => _ ++ (winner.1,r) :: _) hresult.symm
  · simp [Realm.alone, Function.comp_def]
  · intro x hx
    obtain ⟨b, hb', rfl⟩ := List.mem_map.mp hx
    obtain ⟨-, he, hconflict⟩ := hlate b hb'
    have hconfig : won.config = s.config := winner.1.config_run winner.2 s
    refine ⟨he,fun cost hown hoffer => hconflict cost hown ?_⟩
    rw [Realm.checkOffer, hconfig]
    exact hoffer
  · rw [Realm.runAll_append, hn, ← hk, ← hm]
    rfl

namespace Sample

def rush : List (Operation × Stamp) :=
  [(.command (.claim ben (road 3) (.free 1)),stamp 9),
    (.command (.claimWithLimit cay (road 3) (.free 1) false),stamp 10),
    (.command (.expand ann (road 3) (.paid .ironIngot 64)),stamp 11),
    (.command (.claim ben (road 3) (.paid .diamond 8)),stamp 12)]

/-- Four requests for one cell next to the village. The slot that Ben names is used up already. Cay
and Ann would both be granted the cell, and Cay comes first. Ben is late with his second request. -/
theorem rush_one_winner :
    Managed hamlet ∧ hamlet.storage.faults = {} ∧
    (∀ b ∈ rush, Operation.BidsFor (road 3) b.1) ∧
    rush.map (fun b => (hamlet.alone b).2.toOption.isSome) = [false,true,true,true] ∧
    (hamlet.answers rush).map (·.2.toOption.isSome) = [false,true,false,false] ∧
    ∃ before winner after claim late, rush = before ++ winner :: after ∧
      hamlet.alone winner = (winner.1,.ok (.claim claim)) ∧
      hamlet.answers rush = before.map hamlet.alone ++ hamlet.alone winner :: late ∧
      ∃ n, hamlet.runAll rush = (winner.1.run winner.2 hamlet).realm.withReads n := by
  have hf : hamlet.storage.faults = {} := by decide +kernel
  have hbids : ∀ b ∈ rush, Operation.BidsFor (road 3) b.1 := by
    rw [rush]
    simp only [List.forall_mem_cons]
    exact ⟨.claim _ _,.claimWithLimit _ _ _,.expand _ _,.claim _ _,List.forall_mem_nil _⟩
  have halone : rush.map (fun b => (hamlet.alone b).2.toOption.isSome) =
      [false,true,true,true] := by
    decide +kernel
  have hanswers : (hamlet.answers rush).map (·.2.toOption.isSome) = [false,true,false,false] := by
    decide +kernel
  have hcay : hamlet.Grants (.command (.claimWithLimit cay (road 3) (.free 1) false),stamp 10) :=
    ⟨_,rfl⟩
  obtain ⟨hwon, -⟩ := managed_hamlet.one_winner hf hbids
  obtain ⟨before, winner, after, claim, late, hsplit, -, hwinner, -, hall, -, -, hend⟩ :=
    hwon ⟨_,by simp [rush],hcay⟩
  exact ⟨managed_hamlet,hf,hbids,halone,hanswers,before,winner,after,claim,late,hsplit,hwinner,
    hall,hend⟩

end Sample

end Freehold
