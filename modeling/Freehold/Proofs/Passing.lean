import Freehold.Proofs.Acceptance
import Freehold.Proofs.Healing
import Freehold.Proofs.LandIndex

/-!
Land that passes from one owner to another in one batch. Where the store takes the batch, each cell
keeps what was paid for it and when it was first claimed, and gets one entry in the audit trail. Where
the request was refused before it came to a batch, and asked for no cell on the way, the realm is the
one that it was given.
-/

namespace Freehold
open Std

/-! ### A store that takes the batch -/

section Accepted
variable {α : Type} {s : Realm} {p : Plan α} {r : Request α}

/-- How often claims were read from a store has no part in whether it takes a batch. -/
theorem Storage.apply_withReads (s : Realm) (n : Nat) (b : Batch) :
    ((s.withReads n).storage.apply b).2.2 = (s.storage.apply b).2.2 := by
  unfold apply Realm.withReads
  dsimp only
  split
  · rfl
  · split <;> rfl

theorem Plan.result_run_of_accepted (h : (s.storage.apply p.batch).2.2 = .ok ()) :
    (p.run s).result = .ok p.answer := by
  unfold run
  rcases hs : s.storage.apply p.batch with ⟨storage,events,outcome⟩
  rw [hs] at h
  obtain rfl : outcome = .ok () := h
  rfl

/-- A request that comes to a plan is done when the store takes its batch. -/
theorem Request.done_of_accepted (hr : r.Ruled) (hp : r.plan? s = some p)
    (ha : (s.storage.apply p.batch).2.2 = .ok ()) : r.Done s p := by
  have hresult : (r.run s).result = .ok p.answer := by
    obtain ⟨n, events, hrun⟩ := run_of_plan?_eq_some hp
    rw [← Storage.apply_withReads s n] at ha
    rw [hrun]
    exact Plan.result_run_of_accepted ha
  rcases refused_or_done hr s with ⟨e,he⟩ | ⟨p',hd⟩
  · rw [he.result] at hresult
    cases hresult
  · obtain rfl : p' = p := Option.some.inj (hd.plan.symm.trans hp)
    exact hd

def Command.Accepted (c : Command) (stamp : Stamp) (s : Realm) : Prop :=
  ∀ p, (c.request stamp).plan? s = some p → (s.storage.apply p.batch).2.2 = .ok ()

theorem Command.Accepted.done {c : Command} {stamp : Stamp} {p : Plan Answer}
    (h : c.Accepted stamp s) (hp : (c.request stamp).plan? s = some p) :
    (c.request stamp).Done s p :=
  Request.done_of_accepted (c.ruled stamp) hp (h p hp)

/-- With no failure arranged, a store takes what any command brings, new villages under new ids. -/
theorem Realm.Calm.accepted (h : s.Calm) {c : Command} {stamp : Stamp}
    (fresh : ∀ a name cells, c = .found a name cells →
      stamp.village ∉ s.storage.tables.villages) : c.Accepted stamp s := by
  intro p hp
  have haccepts : s.storage.tables.Accepts p.batch :=
    (Command.ComesTo.of_plan? hp).accepts h.managed.orderly fresh
  obtain ⟨t, ht⟩ := Store.accepts_iff_exists_writeAll.mp haccepts
  rw [Storage.apply_of_writeAll h.faults ht]

end Accepted

/-- What ends well in one case and badly in all others ends well in that case only. -/
theorem Except.decided_well {ε α : Type} {x : Except ε α} {well : α → Prop} {may : Prop}
    {refuses : ε → Prop} (total : may ∨ ∃ e, refuses e) (hok : may → ∃ a, x = .ok a ∧ well a)
    (herror : ∀ e, refuses e → x = .error e) :
    ((∃ a, x = .ok a) ↔ may) ∧ (∀ a, x = .ok a → well a) ∧ ∀ e, x = .error e ↔ refuses e := by
  rcases total with hm | ⟨e,he⟩
  · obtain ⟨a, rfl, hwell⟩ := hok hm
    have hno (e : ε) : ¬refuses e := by
      intro he
      cases herror e he
    refine ⟨⟨fun _ => hm,fun _ => ⟨a,rfl⟩⟩,fun b hb => Except.ok.inj hb ▸ hwell,fun e => ?_⟩
    exact ⟨nofun,fun he => absurd he (hno e)⟩
  · have hx := herror e he
    have hno : ¬may := by
      intro hm
      obtain ⟨a, hx', -⟩ := hok hm
      cases hx.symm.trans hx'
    rw [hx] at herror ⊢
    refine ⟨⟨fun ⟨_,hb⟩ => (nomatch hb),fun hm => absurd hm hno⟩,nofun,fun e' => ⟨?_,herror e'⟩⟩
    intro hb
    exact Except.error.inj hb ▸ he

theorem Except.decided {ε α : Type} {x : Except ε α} {a : α} {may : Prop} {refuses : ε → Prop}
    (total : may ∨ ∃ e, refuses e) (hok : may → x = .ok a)
    (herror : ∀ e, refuses e → x = .error e) :
    ((∃ b, x = .ok b) ↔ may) ∧ (∀ b, x = .ok b → b = a) ∧ ∀ e, x = .error e ↔ refuses e :=
  decided_well total (fun hm => ⟨a,hok hm,rfl⟩) herror

/-! ### A request that asks for no cell -/

namespace Request
variable {α : Type} {s : Realm}

/-- Where no vacant cell is asked for, a refusal leaves the realm just as it was. -/
theorem realm_run_of_verdict_error {r : Request α} {e : Error} (hask : ∀ cell, ¬r.AsksFor cell s)
    (h : r.verdict s = .error e) : (r.run s).realm = s := by
  induction r with
  | refuse => rfl
  | note _ _ ih | lock _ _ ih => exact ih hask h
  | look _ ih => exact ih s hask h
  | vacant asked => exact absurd rfl (hask asked)
  | commit => cases h

@[simp] theorem not_asksFor_refuse {cell : Cell} (e : Error) :
    ¬(refuse e : Request α).AsksFor cell s := id

@[simp] theorem not_asksFor_commit {cell : Cell} (plan : Plan α) :
    ¬(commit plan).AsksFor cell s := id

@[simp] theorem asksFor_lockCells {cell : Cell} (cells : List Cell) (next : Request α) :
    (lockCells cells next).AsksFor cell s ↔ next.AsksFor cell s := by
  induction cells with
  | nil => rfl
  | cons _ _ ih => exact ih

@[simp] theorem asksFor_noteAll {cell : Cell} (notes : List Note) (next : Request α) :
    (noteAll notes next).AsksFor cell s ↔ next.AsksFor cell s := by
  induction notes with
  | nil => rfl
  | cons _ _ ih => exact ih

end Request

/-! ### Land that passes on -/

structure Store.Passes (t t' : Store) (cells : List Cell) (old new : Owner) (name : String)
    (actor : PlayerId) (reason : String) (stamp : Stamp) : Prop where
  distinct : cells.Nodup
  -- A claim keeps its cost and the time at which it was made.
  passed : ∀ cell ∈ cells, ∃ claim, t.claims[cell]? = some claim ∧ claim.owner = old ∧
    t'.claims[cell]? = some { claim with owner := new, ownerName := name, updatedAt := stamp.now }
  kept : ∀ cell, cell ∉ cells → t'.claims[cell]? = t.claims[cell]?
  history : t'.history = t.history ++ cells.map fun cell =>
    ⟨stamp.entry cell,cell,some old,some new,actor,.transferred,some reason,stamp.now⟩
  marks : t'.marks = t.marks

/-- A batch that writes these claims, which were of one owner, anew for another. -/
theorem Store.passes_of_writeAll {s : Realm} {t : Store} {b : Batch} {claims : List Claim}
    {old new : Owner} {name reason : String} {actor : PlayerId} {stamp : Stamp} (h : s.InSync)
    (hw : s.storage.tables.writeAll b = .ok t)
    (hx : Batch.changes b = claims.map fun c => .upsert (c.passTo new name stamp.now))
    (he : Batch.entries b = claims.map fun c =>
      .transferred c (c.passTo new name stamp.now) actor reason stamp)
    (hn : (claims.map (·.cell)).Nodup)
    (ho : ∀ c ∈ claims, s.cache.owner? c.cell = some c ∧ c.owner = old) :
    s.storage.tables.Passes t (claims.map (·.cell)) old new name actor reason stamp := by
  have hcells : (Batch.changes b).map CacheChange.cell = claims.map (·.cell) := by
    rw [hx, List.map_map]
    rfl
  refine ⟨hn, ?_, ?_, ?_, ?_⟩
  · intro cell hc
    obtain ⟨c, hm, rfl⟩ := List.mem_map.mp hc
    obtain ⟨hfound, howner⟩ := ho c hm
    rw [h.owner?_eq] at hfound
    refine ⟨c,hfound,howner, ?_⟩
    have hxm : .upsert (c.passTo new name stamp.now) ∈ Batch.changes b :=
      hx ▸ List.mem_map_of_mem hm
    rw [claims_writeAll hw]
    exact CacheChange.getElem?_foldl_onClaims_of_mem _ (hcells ▸ hn) hxm _
  · intro cell hc
    rw [claims_writeAll hw, CacheChange.getElem?_foldl_onClaims_of_notMem _ (hcells ▸ hc)]
  · rw [history_writeAll hw, he, List.map_map]
    congr 1
    apply List.map_congr_left
    intro c hm
    rw [HistoryEntry.transferred, (ho c hm).2]
    rfl
  · rw [marks_writeAll hw]
    apply CacheChange.foldl_onMarks_eq_self
    rw [hx, List.forall_mem_map]
    intro c _ marks
    rfl

namespace Realm.InSync
variable {s : Realm} {cell : Cell} {owner : Owner}

theorem ownerOf_eq_some_iff (h : s.InSync) :
    s.storage.tables.ownerOf cell = some owner ↔
      ∃ claim, s.cache.owner? cell = some claim ∧ claim.owner = owner := by
  rw [Store.ownerOf, Cache.owner?, h.claims, Option.map_eq_some_iff]

theorem mem_landOf (h : s.InSync) (he : s.cache.Exact) {village : VillageId} :
    cell ∈ s.cache.landOf village ↔ s.storage.tables.ownerOf cell = some (.village village) := by
  rw [he.mem_landOf, h.ownerOf_eq_some_iff]

/-- The claims of these cells can be looked up when they are all of one owner. -/
theorem exists_owns_iff (h : s.InSync) {cells : List Cell} :
    (∃ claims, s.Owns owner cells claims) ↔
      ∀ cell ∈ cells, s.storage.tables.ownerOf cell = some owner := by
  induction cells with
  | nil => simp [Owns]
  | cons cell cells ih =>
    rw [List.forall_mem_cons, ← ih, h.ownerOf_eq_some_iff]
    simp only [owns_cons_iff]
    constructor
    · rintro ⟨_, claim, rest, hfound, howner, hrest, -⟩
      exact ⟨⟨claim,hfound,howner⟩,rest,hrest⟩
    · rintro ⟨⟨claim, hfound, howner⟩, rest, hrest⟩
      exact ⟨_,claim,rest,hfound,howner,hrest,rfl⟩

end Realm.InSync

end Freehold
