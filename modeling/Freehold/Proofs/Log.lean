import Freehold.Proofs.Failure
import Freehold.Proofs.Moves

/-!
What the log tells of a command. Besides notes for debugging there is one event at most. Its level says
how the command ended: it was carried out, or the store failed, or the store knew of a claim that the
cache had missed. A command that a rule refuses leaves nothing but notes.
-/

namespace Freehold
open Std

def Outcome.logged {α : Type} (o : Outcome α) (level : Level) : Nat :=
  o.events.countP (·.level = level)

def reported (events : List Event) : List Level := (events.map (·.level)).filter (· ≠ .debug)

theorem reported_append (a b : List Event) : reported (a ++ b) = reported a ++ reported b := by
  rw [reported, List.map_append, List.filter_append]
  rfl

theorem reported_of_debug {events : List Event} (h : ∀ e ∈ events, e.level = .debug) :
    reported events = [] := by
  rw [reported, List.filter_eq_nil_iff, List.forall_mem_map]
  intro e he
  simp [h e he]

theorem Outcome.logged_eq_count {α : Type} (o : Outcome α) {level : Level} (h : level ≠ .debug) :
    o.logged level = (reported o.events).count level := by
  let loud (l : Level) : Bool := decide (l ≠ .debug)
  have hcount : ((o.events.map (·.level)).filter loud).count level =
      (o.events.map (·.level)).count level := List.count_filter (decide_eq_true h)
  change _ = ((o.events.map (·.level)).filter loud).count level
  rw [hcount, List.count, List.countP_map]
  rfl

/-- The arranged failures of the store are noted for debugging. -/
theorem Storage.reported_apply (s : Storage) (b : Batch) : reported (s.apply b).2.1 = [] := by
  apply reported_of_debug
  unfold apply
  dsimp only
  split
  · exact List.forall_mem_singleton.mpr rfl
  · split
    · nofun
    · nofun
    · exact List.forall_mem_singleton.mpr rfl

namespace Realm
variable {α : Type} {s : Realm} {after : Cache} {result : Except Error α} {levels : List Level}

inductive Reports (s : Realm) (after : Cache) : Except Error α → List Level → Prop where
  | done (a : α) : Reports s after (.ok a) [.info]
  | failed (cause : StorageError) : Reports s after (.error (.persistence cause)) [.error]
  -- The claim that the store reported is in the cache from then on.
  | healed {cell : Cell} {stored : Claim} (missed : s.cache.owner? cell = none)
    (held : s.storage.tables.claims[cell]? = some stored)
    (learnt : after = s.cache.upsert stored) :
    Reports s after (.error (.conflict cell stored.ownerName)) [.warn]
  | refused {e : Error} (sound : ∀ cause, e ≠ .persistence cause)
    (known : ∀ cell stored, ¬s.Missed e cell stored) : Reports s after (.error e) []

namespace Reports

/-- No more than one thing has to be reported. -/
theorem count_add_le (h : s.Reports after result levels) :
    levels.count .info + levels.count .warn + levels.count .error ≤ 1 := by
  cases h <;> decide

theorem count_info_iff (h : s.Reports after result levels) :
    levels.count .info = 1 ↔ ∃ a, result = .ok a := by
  cases h with
  | done a => exact iff_of_true rfl ⟨a,rfl⟩
  | failed | healed | refused => exact iff_of_false (by decide) nofun

theorem count_error_iff (h : s.Reports after result levels) :
    levels.count .error = 1 ↔ ∃ cause, result = .error (.persistence cause) := by
  cases h with
  | failed cause => exact iff_of_true rfl ⟨cause,rfl⟩
  | done | healed => exact iff_of_false (by decide) nofun
  | refused sound =>
    refine iff_of_false (by decide) ?_
    rintro ⟨cause, he⟩
    exact sound cause (Except.error.inj he)

/-- A warning goes with a claim that the cache had missed and now has. -/
theorem healed_of_warn (h : s.Reports after result levels) (hw : levels.count .warn = 1) :
    ∃ cell stored, s.cache.owner? cell = none ∧ s.storage.tables.claims[cell]? = some stored ∧
      result = .error (.conflict cell stored.ownerName) ∧ after = s.cache.upsert stored := by
  cases h with
  | done | failed | refused => cases hw
  | healed missed held learnt => exact ⟨_,_,missed,held,rfl,learnt⟩

/-- A claim that the cache had missed is reported as a warning. -/
theorem warn_of_missed {e : Error} {cell : Cell} {stored : Claim}
    (h : s.Reports after (.error e : Except Error α) levels) (hm : s.Missed e cell stored) :
    levels.count .warn = 1 := by
  cases h with
  | failed cause =>
    obtain ⟨name, he⟩ := hm.conflict
    cases he
  | healed => rfl
  | refused _ known => exact absurd hm (known cell stored)

/-- Reading a claim from the store changes nothing that a report is about. -/
theorem of_withReads {n : Nat} (h : (s.withReads n).Reports after result levels) :
    s.Reports after result levels := by
  cases h with
  | done a => exact .done a
  | failed cause => exact .failed cause
  | healed missed held learnt => exact .healed missed held learnt
  | refused sound known =>
    exact .refused sound fun cell stored hm =>
      known cell stored ⟨hm.conflict,hm.cached,hm.stored⟩

end Reports

/-- A broken rule is not reported: the caller is told. -/
theorem reports_of_byRule {e : Error} (he : e.byRule = true) :
    s.Reports after (.error e : Except Error α) [] := by
  refine .refused ?_ ?_
  · rintro cause rfl
    cases he
  · rintro cell stored ⟨⟨name,rfl⟩, -, -⟩
    cases he

/-- The check for a vacant cell goes by in silence, or ends with what has to be reported. -/
theorem reports_checkVacant (α : Type) (s : Realm) (cell : Cell) (actor : PlayerId) :
    s.checkVacant cell actor = ⟨s.withReads (s.storage.reads+1),[],.ok ()⟩ ∨
      ∃ t events e, s.checkVacant cell actor = ⟨t,events,.error e⟩ ∧
        s.Reports t.cache (.error e : Except Error α) (reported events) := by
  unfold checkVacant Storage.claimAt Storage.answer
  cases hc : s.cache.owner? cell with
  | some existing =>
    -- The cache knows the claim, so there is none that it missed.
    refine .inr ⟨_,_,_,rfl,.refused nofun ?_⟩
    rintro other stored ⟨⟨name,he⟩, hcached, -⟩
    cases he
    rw [hc] at hcached
    cases hcached
  | none =>
    by_cases hr : ReadMethod.claimGet ∈ s.storage.faults.unreadable
    · simp only [if_pos hr]
      exact .inr ⟨_,_,_,rfl,.failed _⟩
    · simp only [if_neg hr]
      cases ht : s.storage.tables.claims[cell]? with
      | none => exact .inl rfl
      | some stored => exact .inr ⟨_,_,_,rfl,.healed hc ht rfl⟩

end Realm

/-- The batch of a plan is taken, which is reported as information, or it is not, which is an
error. -/
theorem Plan.reports_run {α : Type} (p : Plan α) (s : Realm) :
    s.Reports (p.run s).realm.cache (p.run s).result (reported (p.run s).events) := by
  have hcases := s.storage.apply_cases p.batch
  have hnotes := s.storage.reported_apply p.batch
  unfold run
  rcases hs : s.storage.apply p.batch with ⟨storage,events,outcome⟩
  rw [hs] at hcases hnotes
  rcases hcases with ⟨hok,-⟩ | ⟨cause,herr,-⟩
  · cases hok
    dsimp only at hnotes ⊢
    rw [reported_append, hnotes]
    exact .done p.answer
  · cases herr
    dsimp only at hnotes ⊢
    rw [reported_append, hnotes]
    exact .failed cause

/-- Step by step: what a request logs on its way are notes, and it ends with what has to be reported. -/
theorem Request.reports_run {α : Type} {r : Request α} (hr : r.Ruled) (s : Realm) :
    s.Reports (r.run s).realm.cache (r.run s).result (reported (r.run s).events) := by
  induction r generalizing s with
  | refuse e => exact Realm.reports_of_byRule hr
  | note note next ih =>
    rw [run, Outcome.after, reported_append, reported_of_debug (List.forall_mem_singleton.mpr rfl)]
    exact ih hr s
  | look next ih => exact ih s (hr s) s
  | lock key next ih => exact ih hr s
  | vacant cell actor next ih =>
    rcases s.reports_checkVacant α cell actor with hv | ⟨t,events,e,hv,hreports⟩
    · rw [run, hv]
      exact (ih hr _).of_withReads
    · rw [run, hv]
      exact hreports
  | commit plan => exact plan.reports_run s

namespace Command
variable {stamp : Stamp} {s : Realm} {c : Command} {p : Plan Answer} {cell : Cell}

/-- A plan changes the cache only where that knows a claim, or where the store was found to have none. -/
theorem ComesTo.known_or_vacant (hc : c.ComesTo stamp s p) (hk : Keyed Claim.cell s.cache.byCell)
    {x : CacheChange} (hx : x ∈ p.cacheChanges) :
    (∃ claim, s.cache.owner? x.cell = some claim) ∨ s.Vacant x.cell := by
  cases hc with
  | claim may | claimWithLimit may | claimNext _ may =>
    obtain rfl := List.mem_singleton.mp hx
    exact .inr may.vacant
  | expand _ _ _ _ vacant =>
    obtain rfl := List.mem_singleton.mp hx
    exact .inr vacant
  | unclaim found =>
    obtain rfl := List.mem_singleton.mp hx
    exact .inl ⟨_,found⟩
  | found _ _ _ _ own =>
    obtain ⟨claim, hclaim, rfl⟩ := List.mem_map.mp hx
    exact .inl ⟨claim,(own.owned_of_keyed hk claim hclaim).1⟩
  | returnCells _ _ _ _ own =>
    obtain ⟨claim, hclaim, rfl⟩ := List.mem_map.mp hx
    exact .inl ⟨claim,(own.owned_of_keyed hk claim hclaim).1⟩
  | disband =>
    obtain ⟨claim, hclaim, rfl⟩ := List.mem_map.mp hx
    exact .inl ⟨claim,(Realm.owned_of_mem_stillOwned_of_keyed hk hclaim).1⟩
  | rename =>
    rw [Plan.cacheChanges_map] at hx
    simp only [Plan.rename, List.map_map] at hx
    obtain ⟨claim, hclaim, rfl⟩ := List.mem_map.mp hx
    exact .inl ⟨claim,(Realm.owned_of_mem_stillOwned_of_keyed hk hclaim).1⟩
  | transfer | addMember | kick | setRole | leave | grant | revoke => cases hx

/-- A claim that only the store knew becomes known only by a failure to take its cell. -/
theorem missed_of_learnt (hk : Keyed Claim.cell s.cache.byCell) {stored : Claim}
    (missed : s.cache.owner? cell = none)
    (held : s.storage.tables.claims[cell]? = some stored)
    (learnt : (c.run stamp s).realm.cache.owner? cell ≠ none) :
    ∃ e asked other, (c.run stamp s).result = .error e ∧ s.Missed e asked other := by
  rcases c.refused_or_done stamp s with ⟨e,he⟩ | ⟨p,hc,hp⟩
  · have hcache : (c.run stamp s).realm.cache = s.healed e := he.cache
    by_contra hn
    have hsame : s.healed e = s.cache :=
      Realm.healed_of_not_missed fun asked other hm => hn ⟨e,asked,other,he.result,hm⟩
    rw [hcache, hsame] at learnt
    exact learnt missed
  · have hcache : (c.run stamp s).realm.cache = s.cache.changeAll p.cacheChanges := hp.cache
    have hcell : cell ∉ p.cacheChanges.map CacheChange.cell := by
      intro hm
      obtain ⟨x, hx, rfl⟩ := List.mem_map.mp hm
      rcases hc.known_or_vacant hk hx with ⟨claim,hclaim⟩ | hv
      · rw [missed] at hclaim
        cases hclaim
      · rw [hv.stored] at held
        cases held
    rw [hcache, Cache.owner?, Cache.byCell_changeAll,
      CacheChange.getElem?_foldl_onClaims_of_notMem _ hcell] at learnt
    exact absurd missed learnt

/-- Every command, in whatever state and under whatever failures, logs at most one event that is no note
for debugging: an event of success if it succeeds, one of failure if the store fails it, and a warning if
it is refused a cell for a claim that only the store knew, which the cache knows from then on. So where
claims stand under their own cells, a warning is logged just when the cache comes to know what only the
store knew of some cell. -/
theorem log_tells_result (c : Command) (stamp : Stamp) (s : Realm) :
    let o := c.run stamp s
    o.logged .info + o.logged .warn + o.logged .error ≤ 1 ∧
    (o.logged .info = 1 ↔ ∃ answer, o.result = .ok answer) ∧
    (o.logged .error = 1 ↔ ∃ cause, o.result = .error (.persistence cause)) ∧
    (o.logged .warn = 1 ↔ ∃ cell stored, s.cache.owner? cell = none ∧
      s.storage.tables.claims[cell]? = some stored ∧
      o.result = .error (.conflict cell stored.ownerName) ∧
      o.realm.cache = s.cache.upsert stored) ∧
    (Keyed Claim.cell s.cache.byCell → s.storage.tables.RowsKeyed →
      (o.logged .warn = 1 ↔ ∃ cell stored, s.cache.owner? cell = none ∧
        s.storage.tables.claims[cell]? = some stored ∧
        o.realm.cache.owner? cell = some stored)) := by
  intro o
  have hreports : s.Reports o.realm.cache o.result (reported o.events) :=
    Request.reports_run (c.ruled stamp) s
  have hinfo : o.logged .info = _ := o.logged_eq_count (by decide)
  have herror : o.logged .error = _ := o.logged_eq_count (by decide)
  have hwarn : o.logged .warn = _ := o.logged_eq_count (by decide)
  rw [hinfo, herror, hwarn]
  refine ⟨hreports.count_add_le, hreports.count_info_iff, hreports.count_error_iff,
    ⟨hreports.healed_of_warn,?_⟩, fun hk hrows => ⟨fun hw => ?_,?_⟩⟩
  · rintro ⟨cell, stored, missed, held, hresult, -⟩
    rw [hresult] at hreports
    exact hreports.warn_of_missed ⟨⟨_,rfl⟩,missed,held⟩
  · obtain ⟨cell, stored, missed, held, -, learnt⟩ := hreports.healed_of_warn hw
    refine ⟨cell,stored,missed,held,?_⟩
    rw [learnt, Cache.owner?, Cache.byCell_upsert, ← hrows.claims cell stored held]
    exact ExtTreeMap.getElem?_insert_self
  · rintro ⟨cell, stored, missed, held, hafter⟩
    have hlearnt : o.realm.cache.owner? cell ≠ none := by
      rw [hafter]
      exact Option.some_ne_none stored
    obtain ⟨e, asked, other, hresult, hm⟩ := missed_of_learnt hk missed held hlearnt
    rw [hresult] at hreports
    exact hreports.warn_of_missed hm

end Command

namespace Sample

/-- Ben's attempt on a cell that only the store knows to be Ann's is logged as a warning, and as no
more. -/
theorem bensAttempt_log :
    Keyed Claim.cell behind.cache.byCell ∧ behind.storage.tables.RowsKeyed ∧
    bensAttempt.logged .warn = 1 ∧ bensAttempt.logged .info = 0 ∧ bensAttempt.logged .error = 0 ∧
    ∃ cell stored, behind.cache.owner? cell = none ∧
      behind.storage.tables.claims[cell]? = some stored ∧
      bensAttempt.realm.cache.owner? cell = some stored := by
  have hcache : Keyed Claim.cell behind.cache.byCell := keyed_empty
  have hrows : behind.storage.tables.RowsKeyed :=
    ⟨keyed_empty.insert annsClaim,keyed_empty,keyed_empty,keyed_empty⟩
  obtain ⟨hsum, -, -, -, hwarn⟩ :=
    (Command.claim ben (road 0) (.free 1)).log_tells_result (stamp 1) behind
  change bensAttempt.logged .info + bensAttempt.logged .warn + bensAttempt.logged .error ≤ 1 at hsum
  have hone : bensAttempt.logged .warn = 1 := by decide +kernel
  exact ⟨hcache,hrows,hone,by omega,by omega,(hwarn hcache hrows).mp hone⟩

end Sample

end Freehold
