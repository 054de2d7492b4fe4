import Freehold.Proofs.CacheChanges
import Freehold.Request

/-!
How a request ends that runs on its own. Either it comes to a plan, which the store takes or refuses
as a whole, or it is refused before that. In the first case everything that changes is named in the
plan. In the second nothing changes, unless the request met a claim that only the store knew.
-/

namespace Freehold

def Error.byRule : Error → Bool
  | conflict _ _ | persistence _ | invariantViolation _ | config _ => false
  | _ => true

namespace Realm

def withReads (s : Realm) (n : Nat) : Realm := { s with storage := { s.storage with reads := n } }

structure Vacant (s : Realm) (cell : Cell) : Prop where
  cached : s.cache.owner? cell = none
  stored : s.storage.tables.claims[cell]? = none
  readable : .claimGet ∉ s.storage.faults.unreadable

/-- The cache after an error: a conflict over a cell that the cache knows no claim of comes from the
store, and its claim is remembered. -/
def healed (s : Realm) : Error → Cache
  | .conflict cell _ =>
    match s.cache.owner? cell, s.storage.tables.claims[cell]? with
    | none, some stored => s.cache.upsert stored
    | _, _ => s.cache
  | _ => s.cache

theorem healed_withReads (s : Realm) (n : Nat) (e : Error) :
    (s.withReads n).healed e = s.healed e := by
  cases e <;> rfl

/-- A broken rule teaches the cache nothing. Only a conflict over a cell that it knows no claim of
does. -/
theorem healed_of_byRule (s : Realm) {e : Error} (h : e.byRule = true) : s.healed e = s.cache := by
  cases e <;> first | rfl | cases h

/-- The check for a vacant cell either counts one read, or ends with the cache healed. -/
theorem checkVacant_cases (s : Realm) (cell : Cell) (actor : PlayerId) :
    (s.Vacant cell ∧ s.checkVacant cell actor = ⟨s.withReads (s.storage.reads+1),[],.ok ()⟩) ∨
      ∃ n events e, ¬s.Vacant cell ∧
        s.checkVacant cell actor =
          ⟨{ s.withReads n with cache := s.healed e },events,.error e⟩ := by
  unfold checkVacant Storage.claimAt Storage.answer
  cases hc : s.cache.owner? cell with
  | some existing =>
    have hh : s.healed (.conflict cell existing.ownerName) = s.cache := by simp only [healed, hc]
    have hn : ¬s.Vacant cell := fun hv => by simp [hv.cached] at hc
    exact .inr ⟨s.storage.reads,_,_,hn,by rw [hh]; rfl⟩
  | none =>
    by_cases hr : ReadMethod.claimGet ∈ s.storage.faults.unreadable
    · simp only [if_pos hr]
      exact .inr ⟨s.storage.reads,_,.persistence .lockPoisoned,fun hv => hv.readable hr,rfl⟩
    · simp only [if_neg hr]
      cases ht : s.storage.tables.claims[cell]? with
      | none => exact .inl ⟨⟨hc,ht,hr⟩,rfl⟩
      | some stored =>
        have hh : s.healed (.conflict cell stored.ownerName) = s.cache.upsert stored := by
          simp only [healed, hc, ht]
        have hn : ¬s.Vacant cell := fun hv => by simp [hv.stored] at ht
        exact .inr ⟨s.storage.reads+1,_,_,hn,by rw [hh]; rfl⟩

end Realm

namespace Plan
variable {α β : Type}

@[simp] theorem batch_map (f : α → β) (p : Plan α) : (p.map f).batch = p.batch := rfl

@[simp] theorem cacheChanges_map (f : α → β) (p : Plan α) :
    (p.map f).cacheChanges = p.cacheChanges := rfl

/-- A plan changes what is remembered only if the store has taken all of its batch. -/
theorem run_cases (p : Plan α) (s : Realm) :
    (∃ storage, s.storage.tables.writeAll p.batch = .ok storage.tables ∧
      (p.run s).result = .ok p.answer ∧
      (p.run s).realm = { s with
        storage := storage
        cache := s.cache.changeAll p.cacheChanges
        directory := p.directoryChange s.directory }) ∨
    ∃ storage cause, storage.tables = s.storage.tables ∧
      (p.run s).result = .error (.persistence cause) ∧
      (p.run s).realm = { s with storage := storage } := by
  have hcases := s.storage.apply_cases p.batch
  unfold run
  rcases hs : s.storage.apply p.batch with ⟨storage,events,outcome⟩
  rw [hs] at hcases
  rcases hcases with ⟨hok,hw⟩ | ⟨cause,herr,ht⟩
  · cases hok
    exact .inl ⟨storage,hw,rfl,rfl⟩
  · cases herr
    exact .inr ⟨storage,cause,ht,rfl,rfl⟩

end Plan

namespace Request
variable {α β : Type}

/-- The plan that a request comes to, unless it is refused before. -/
def plan? : Request α → Realm → Option (Plan α)
  | refuse _, _ => none
  | note _ next, s => next.plan? s
  | look next, s => (next s).plan? s
  | lock _ next, s => next.plan? s
  | vacant cell actor next, s =>
    match s.checkVacant cell actor with
    | ⟨s,_,.ok ()⟩ => next.plan? s
    | ⟨_,_,.error _⟩ => none
  | commit plan, _ => some plan

/-- Every refusal of its own that a request can come to stands for a rule. -/
def Ruled : Request α → Prop
  | refuse e => e.byRule = true
  | note _ next => next.Ruled
  | look next => ∀ s, (next s).Ruled
  | lock _ next => next.Ruled
  | vacant _ _ next => next.Ruled
  | commit _ => True

/-- A request that comes to a plan runs as the plan does, after some reads and notes. -/
theorem run_of_plan?_eq_some {r : Request α} {s : Realm} {p : Plan α} (h : r.plan? s = some p) :
    ∃ n events, r.run s = (p.run (s.withReads n)).after events := by
  -- On the way to a plan the realm changes in nothing but the number of reads.
  induction r generalizing s with
  | refuse e => cases h
  | note note next ih =>
    obtain ⟨n, events, hn⟩ := ih h
    exact ⟨n, ⟨.debug,note⟩ :: events, by rw [run, hn]; rfl⟩
  | look next ih => exact ih s h
  | lock key next ih => exact ih h
  | vacant cell actor next ih =>
    rcases s.checkVacant_cases cell actor with ⟨-,hv⟩ | ⟨n,events,e,-,hv⟩
    · rw [plan?, hv] at h
      obtain ⟨n, events, hn⟩ := ih h
      refine ⟨n, events, ?_⟩
      rw [run, hv]
      exact hn
    · rw [plan?, hv] at h
      cases h
  | commit plan =>
    cases h
    exact ⟨s.storage.reads,[],rfl⟩

/-- A request that comes to no plan fails and changes nothing but what was healed. -/
theorem run_of_plan?_eq_none {r : Request α} (hr : r.Ruled) {s : Realm} (h : r.plan? s = none) :
    ∃ n e, (r.run s).result = .error e ∧
      (r.run s).realm = { s.withReads n with cache := s.healed e } := by
  induction r generalizing s with
  | refuse e => exact ⟨s.storage.reads, e, rfl, by rw [s.healed_of_byRule hr]; rfl⟩
  | note note next ih => exact ih hr h
  | look next ih => exact ih s (hr s) h
  | lock key next ih => exact ih hr h
  | vacant cell actor next ih =>
    rcases s.checkVacant_cases cell actor with ⟨-,hv⟩ | ⟨n,events,e,-,hv⟩
    · rw [plan?, hv] at h
      obtain ⟨n, e, he, hn⟩ := ih hr h
      rw [Realm.healed_withReads] at hn
      rw [run, hv]
      exact ⟨n,e,he,hn⟩
    · -- The cell itself was the obstacle, and the cache has been healed on finding that.
      rw [run, hv]
      exact ⟨n,e,rfl,rfl⟩
  | commit plan => cases h

structure Refused (r : Request α) (s : Realm) (e : Error) : Prop where
  result : (r.run s).result = .error e
  tables : (r.run s).realm.storage.tables = s.storage.tables
  cache : (r.run s).realm.cache = s.healed e
  directory : (r.run s).realm.directory = s.directory
  config : (r.run s).realm.config = s.config
  trusted : (r.run s).realm.trusted = s.trusted
  elevated : (r.run s).realm.elevated = s.elevated

structure Done (r : Request α) (s : Realm) (p : Plan α) : Prop where
  plan : r.plan? s = some p
  result : (r.run s).result = .ok p.answer
  written : s.storage.tables.writeAll p.batch = .ok (r.run s).realm.storage.tables
  cache : (r.run s).realm.cache = s.cache.changeAll p.cacheChanges
  directory : (r.run s).realm.directory = p.directoryChange s.directory
  config : (r.run s).realm.config = s.config
  trusted : (r.run s).realm.trusted = s.trusted
  elevated : (r.run s).realm.elevated = s.elevated

theorem refused_of_realm_eq {r : Request α} {s : Realm} {e : Error} (storage : Storage)
    (hresult : (r.run s).result = .error e) (ht : storage.tables = s.storage.tables)
    (hr : (r.run s).realm = { s with storage := storage, cache := s.healed e }) :
    r.Refused s e where
  result := hresult
  tables := by rw [hr, ← ht]
  cache := by rw [hr]
  directory := by rw [hr]
  config := by rw [hr]
  trusted := by rw [hr]
  elevated := by rw [hr]

/-- A request is refused, or the store takes its plan. -/
theorem refused_or_done {r : Request α} (hr : r.Ruled) (s : Realm) :
    (∃ e, r.Refused s e) ∨ ∃ p, r.Done s p := by
  cases hp : r.plan? s with
  | none =>
    obtain ⟨n, e, he, hn⟩ := run_of_plan?_eq_none hr hp
    exact .inl ⟨e,refused_of_realm_eq (s.withReads n).storage he rfl hn⟩
  | some p =>
    obtain ⟨n, events, hn⟩ := run_of_plan?_eq_some hp
    have hrealm : (r.run s).realm = (p.run (s.withReads n)).realm := by
      rw [hn]
      rfl
    have hresult : (r.run s).result = (p.run (s.withReads n)).result := by
      rw [hn]
      rfl
    rcases p.run_cases (s.withReads n) with ⟨storage,hw,ho,ht⟩ | ⟨storage,cause,hs,ho,ht⟩
    · rw [ht] at hrealm
      rw [ho] at hresult
      refine .inr ⟨p, hp, hresult, ?_, ?_, ?_, ?_, ?_, ?_⟩ <;> rw [hrealm]
      · exact hw
      all_goals rfl
    · rw [ht] at hrealm
      rw [ho] at hresult
      exact .inl ⟨_,refused_of_realm_eq storage hresult hs hrealm⟩

/-! ### Coming to a plan, step by step -/

section Steps
variable {s : Realm} {p : Plan α}

@[simp] theorem plan?_refuse (e : Error) : (refuse e : Request α).plan? s = none := rfl

@[simp] theorem plan?_note (n : Note) (next : Request α) :
    (note n next).plan? s = next.plan? s := rfl

@[simp] theorem plan?_look (next : Realm → Request α) :
    (look next).plan? s = (next s).plan? s := rfl

@[simp] theorem plan?_lock (key : LockKey) (next : Request α) :
    (lock key next).plan? s = next.plan? s := rfl

@[simp] theorem plan?_commit (plan : Plan α) : (commit plan).plan? s = some plan := rfl

@[simp] theorem plan?_lockCells (cells : List Cell) (next : Request α) :
    (lockCells cells next).plan? s = next.plan? s := by
  induction cells with
  | nil => rfl
  | cons cell cells ih => exact ih

@[simp] theorem plan?_noteAll (notes : List Note) (next : Request α) :
    (noteAll notes next).plan? s = next.plan? s := by
  induction notes with
  | nil => rfl
  | cons note notes ih => exact ih

@[simp] theorem plan?_require {check : Except Refusal β} {next : β → Request α} :
    (require check next).plan? s = some p ↔ ∃ b, check = .ok b ∧ (next b).plan? s = some p := by
  match check with
  | .ok b => simp [require]
  | .error ⟨e,none⟩ => simp [require]
  | .error ⟨e,some n⟩ => simp [require]

@[simp] theorem plan?_demand {check : Except Error Unit} {next : Request α} :
    (demand check next).plan? s = some p ↔ check = .ok () ∧ next.plan? s = some p := by
  match check with
  | .ok () => simp [demand]
  | .error e => simp [demand]

/-- A refusal for the form of what is asked. -/
@[simp] theorem plan?_refuse_or {condition : Prop} [Decidable condition] {e : Error}
    {r : Request α} :
    (if condition then refuse e else r).plan? s = some p ↔ ¬condition ∧ r.plan? s = some p := by
  split <;> simp_all

/-- To ask for a vacant cell costs one read of the store. -/
@[simp] theorem plan?_vacant {cell : Cell} {actor : PlayerId} {next : Request α} :
    (vacant cell actor next).plan? s = some p ↔
      s.Vacant cell ∧ next.plan? (s.withReads (s.storage.reads+1)) = some p := by
  rw [plan?]
  rcases s.checkVacant_cases cell actor with ⟨hv,hc⟩ | ⟨n,events,e,hv,hc⟩
  · simp [hc, hv]
  · simp [hc, hv]

@[simp] theorem plan?_map (f : α → β) (r : Request α) :
    (r.map f).plan? s = (r.plan? s).map (.map f) := by
  induction r generalizing s with
  | refuse | commit => rfl
  | note _ _ ih | lock _ _ ih => exact ih
  | look _ ih => exact ih s
  | vacant cell actor next ih =>
    rcases s.checkVacant_cases cell actor with ⟨-,hc⟩ | ⟨n,events,e,-,hc⟩
    · simp only [map, plan?, hc]
      exact ih
    · simp only [map, plan?, hc]
      rfl

end Steps

end Request

end Freehold
