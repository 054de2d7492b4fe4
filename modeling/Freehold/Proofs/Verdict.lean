import Freehold.Proofs.Rules

/-!
The verdict on a request: the plan that it comes to, or the error that refuses it. Locks and notes have
no part in it, so it is a chain of checks, each of which reads only some of the realm.
-/

namespace Freehold

namespace Realm

def vacancy (s : Realm) (cell : Cell) : Except Error Unit :=
  match s.cache.owner? cell with
  | some existing => .error (.conflict cell existing.ownerName)
  | none =>
    match s.storage.answer .claimGet s.storage.tables.claims[cell]? with
    | .ok none => .ok ()
    | .ok (some stored) => .error (.conflict cell stored.ownerName)
    | .error e => .error e

variable {s : Realm} {cell : Cell} {actor : PlayerId}

theorem result_checkVacant (s : Realm) (cell : Cell) (actor : PlayerId) :
    (s.checkVacant cell actor).result = s.vacancy cell := by
  unfold checkVacant vacancy Storage.claimAt
  cases s.cache.owner? cell with
  | some existing => rfl
  | none =>
    cases s.storage.answer .claimGet s.storage.tables.claims[cell]? with
    | error e => rfl
    | ok found => cases found <;> rfl

/-- A cell that can be had is asked for with one read of the store. -/
theorem checkVacant_of_vacancy_eq_ok (h : s.vacancy cell = .ok ()) :
    s.checkVacant cell actor = ⟨s.withReads (s.storage.reads+1),[],.ok ()⟩ := by
  rcases s.checkVacant_cases cell actor with ⟨-,hv⟩ | ⟨n,events,e,-,hv⟩
  · exact hv
  · rw [← s.result_checkVacant cell actor, hv] at h
    cases h

theorem Vacant.vacancy_eq (h : s.Vacant cell) : s.vacancy cell = .ok () := by
  simp only [vacancy, h.cached, Storage.answer, if_neg h.readable, h.stored]

theorem vacancy_of_owner {claim : Claim} (h : s.cache.owner? cell = some claim) :
    s.vacancy cell = .error (.conflict cell claim.ownerName) := by
  simp only [vacancy, h]

/-- A cell cannot be had if it is taken, or if the store cannot be asked for it. -/
theorem error_of_vacancy {e : Error} (h : s.vacancy cell = .error e) :
    (∃ name, e = .conflict cell name) ∨ .claimGet ∈ s.storage.faults.unreadable := by
  unfold vacancy Storage.answer at h
  split at h
  · cases h
    exact .inl ⟨_,rfl⟩
  · by_cases hu : ReadMethod.claimGet ∈ s.storage.faults.unreadable
    · exact .inr hu
    · rw [if_neg hu] at h
      split at h <;> cases h
      · exact .inl ⟨_,rfl⟩
      · next he => cases he

end Realm

namespace Request
variable {α β : Type} {s : Realm}

/-- The plan that a request comes to, or the error that refuses it. -/
def verdict : Request α → Realm → Except Error (Plan α)
  | refuse e, _ => .error e
  | note _ next, s => next.verdict s
  | look next, s => (next s).verdict s
  | lock _ next, s => next.verdict s
  | vacant cell _ next, s =>
    match s.vacancy cell with
    | .ok () => next.verdict (s.withReads (s.storage.reads+1))
    | .error e => .error e
  | commit plan, _ => .ok plan

theorem plan?_eq_toOption_verdict (r : Request α) (s : Realm) :
    r.plan? s = (r.verdict s).toOption := by
  induction r generalizing s with
  | refuse | commit => rfl
  | note _ _ ih | lock _ _ ih => exact ih s
  | look _ ih => exact ih s s
  | vacant cell actor next ih =>
    rw [plan?, verdict]
    cases hv : s.vacancy cell with
    | ok u =>
      rw [Realm.checkVacant_of_vacancy_eq_ok hv]
      exact ih _
    | error e =>
      rcases s.checkVacant_cases cell actor with ⟨-,hc⟩ | ⟨n,events,e',-,hc⟩
      · rw [← s.result_checkVacant cell actor, hc] at hv
        cases hv
      · rw [hc]
        rfl

/-- A request comes to its plan when its verdict lets it pass. -/
theorem plan?_eq_some_iff_verdict {r : Request α} {p : Plan α} :
    r.plan? s = some p ↔ r.verdict s = .ok p := by
  rw [plan?_eq_toOption_verdict]
  cases r.verdict s <;> simp [Except.toOption]

theorem result_run_of_verdict_error {r : Request α} {e : Error} (h : r.verdict s = .error e) :
    (r.run s).result = .error e := by
  induction r generalizing s with
  | refuse | commit => cases h <;> rfl
  | note _ _ ih | lock _ _ ih => exact ih h
  | look _ ih => exact ih s h
  | vacant cell actor next ih =>
    rw [verdict] at h
    rw [run]
    cases hv : s.vacancy cell with
    | ok u =>
      rw [hv] at h
      rw [Realm.checkVacant_of_vacancy_eq_ok hv]
      exact ih h
    | error e' =>
      rw [hv] at h
      cases h
      have hresult : (s.checkVacant cell actor).result = .error e :=
        (s.result_checkVacant cell actor).trans hv
      split
      · next heq =>
        rw [heq] at hresult
        cases hresult
      · next heq =>
        rw [heq] at hresult
        exact congrArg Except.error (Except.error.inj hresult)

/-- What refuses a request is a rule or a taken cell, as long as the store can be asked for cells. -/
theorem error_of_verdict {r : Request α} (hr : r.Ruled) {e : Error} (h : r.verdict s = .error e) :
    e.byRule = true ∨ (∃ cell name, e = .conflict cell name) ∨
      .claimGet ∈ s.storage.faults.unreadable := by
  induction r generalizing s with
  | refuse =>
    cases h
    exact .inl hr
  | commit => cases h
  | note _ _ ih | lock _ _ ih => exact ih hr h
  | look _ ih => exact ih s (hr s) h
  | vacant cell actor next ih =>
    rw [verdict] at h
    cases hv : s.vacancy cell with
    | ok u =>
      rw [hv] at h
      exact ih (s := s.withReads (s.storage.reads+1)) hr h
    | error e' =>
      rw [hv] at h
      cases h
      rcases Realm.error_of_vacancy hv with ⟨name,hname⟩ | hu
      · exact .inr (.inl ⟨cell,name,hname⟩)
      · exact .inr (.inr hu)

/-! ### The verdict, check by check -/

def answered (check : Except Refusal β) : Except Error β := check.mapError (·.error)

@[simp] theorem verdict_look (next : Realm → Request α) :
    (look next).verdict s = (next s).verdict s := rfl

@[simp] theorem verdict_lock (key : LockKey) (next : Request α) :
    (lock key next).verdict s = next.verdict s := rfl

@[simp] theorem verdict_commit (plan : Plan α) : (commit plan).verdict s = .ok plan := rfl

@[simp] theorem verdict_demand (check : Except Error Unit) (next : Request α) :
    (demand check next).verdict s = check >>= fun _ => next.verdict s := by
  cases check <;> rfl

@[simp] theorem verdict_require (check : Except Refusal β) (next : β → Request α) :
    (require check next).verdict s = answered check >>= fun b => (next b).verdict s := by
  match check with
  | .ok b => rfl
  | .error ⟨e,none⟩ => rfl
  | .error ⟨e,some n⟩ => rfl

@[simp] theorem verdict_vacant (cell : Cell) (actor : PlayerId) (next : Request α) :
    (vacant cell actor next).verdict s =
      s.vacancy cell >>= fun _ => next.verdict (s.withReads (s.storage.reads+1)) := by
  rw [verdict]
  cases s.vacancy cell <;> rfl

@[simp] theorem verdict_map (f : α → β) (r : Request α) :
    (r.map f).verdict s = (r.verdict s).map (.map f) := by
  induction r generalizing s with
  | refuse | commit => rfl
  | note _ _ ih | lock _ _ ih => exact ih
  | look _ ih => exact ih s
  | vacant cell actor next ih =>
    rw [map, verdict_vacant, verdict_vacant]
    cases s.vacancy cell with
    | ok u => exact ih
    | error e => rfl

section Land
variable (a : Actor) (cell : Cell) (cost : Cost) (stamp : Stamp)

/-- The checks of a personal claim, in their order. -/
theorem verdict_claimPersonal (veteran : Option Bool) :
    (claimPersonal a cell cost veteran stamp).verdict s = (do
      s.checkOffer cost
      s.vacancy cell
      answered (s.checkSlot a.id cell cost)
      answered (s.checkNewcomer a.id cell veteran)
      return .claim a.id (.make cell (.personal a.id) a.name cost stamp.now) stamp) := by
  simp only [claimPersonal, verdict_look, verdict_demand, verdict_lock, verdict_vacant,
    verdict_require, verdict_commit]
  rfl

theorem verdict_claimNext (requested : Option Tier) (veteran : Bool) :
    (claimNext a cell requested veteran stamp).verdict s =
      s.quote a.id requested >>= fun cost =>
        (claimPersonal a cell cost (some veteran) stamp).verdict s := by
  rw [claimNext, verdict_look]
  cases s.quote a.id requested <;> rfl

theorem verdict_unclaim (reason : Option String) :
    (unclaim a cell reason stamp).verdict s = (do
      let claim ← answered (s.claimAt cell)
      let ground ← answered (s.releaseGround a.id cell claim)
      return .release s.config.claims a.id cell claim ground reason stamp) := by
  simp only [unclaim, verdict_look, verdict_lock, verdict_require, verdict_commit]
  rfl

/-- The checks of a claim for a village, in their order. -/
theorem verdict_expand :
    (expand a cell cost stamp).verdict s = (do
      s.checkVillageOffer cost
      let village ← answered (s.directory.ownVillage a.id)
      let v ← answered (s.directory.villageFor village a.id .expandLand)
      s.vacancy cell
      answered (s.checkBorder village cell)
      return .claim a.id (.make cell (.village village) v.name cost stamp.now) stamp) := by
  simp only [expand, verdict_look, verdict_demand, verdict_lock, verdict_vacant, verdict_require,
    verdict_commit]
  rfl

end Land

end Request

end Freehold
