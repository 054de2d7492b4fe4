import Freehold.Proofs.Failure
import Freehold.Proofs.Managed
import Freehold.Proofs.Plans

/-!
The cache mirrors the store. Every plan tells the cache just what its batch tells the table of
claims and the marks, so the two can only part where something is written behind the cache's back.
-/

namespace Freehold
open Std

structure Realm.InSync (s : Realm) : Prop where
  claims : s.cache.byCell = s.storage.tables.claims
  marks : s.cache.marks = s.storage.tables.marks
  keyed : s.storage.tables.RowsKeyed

namespace Command.ComesTo
variable {c : Command} {stamp : Stamp} {s : Realm} {p : Plan Answer}

/-- What is told to the cache is what becomes of the claims in the store. -/
theorem claims_eq (hc : c.ComesTo stamp s p) (hp : (c.request stamp).Done s p) :
    (c.run stamp s).realm.storage.tables.claims =
      p.cacheChanges.foldl CacheChange.onClaims s.storage.tables.claims := by
  rw [← hc.changes_batch]
  exact Store.claims_writeAll hp.written

theorem marks_eq (hc : c.ComesTo stamp s p) (hp : (c.request stamp).Done s p) :
    (c.run stamp s).realm.storage.tables.marks =
      p.cacheChanges.foldl CacheChange.onMarks s.storage.tables.marks := by
  rw [← hc.changes_batch]
  exact Store.marks_writeAll hp.written

end Command.ComesTo

namespace Realm.InSync
variable {s t : Realm}

theorem owner?_eq (h : s.InSync) (cell : Cell) :
    s.cache.owner? cell = s.storage.tables.claims[cell]? := by
  rw [Cache.owner?, h.claims]

/-- Where both agree there is nothing to heal. -/
theorem healed (h : s.InSync) (e : Error) : s.healed e = s.cache := by
  apply healed_of_not_missed
  intro cell stored hm
  have hc : s.cache.owner? cell = some stored := by
    rw [h.owner?_eq, hm.stored]
  rw [hm.cached] at hc
  cases hc

theorem recalls (h : s.InSync) (hr : s.Recalls t) : t.InSync := by
  have hk : t.storage.tables.RowsKeyed := hr.tables ▸ h.keyed
  rcases hr.cache with hc | hc
  · exact ⟨by rw [hc, hr.tables, h.claims],by rw [hc, hr.tables, h.marks],hk⟩
  · refine ⟨?_, ?_, hk⟩
    · rw [hc, hr.tables, Cache.byCell_load h.keyed.claims (.refl _)]
    · rw [hc, hr.tables, Cache.marks_load]

/-- A request that was carried out keeps both in step, if its plan tells the cache what it
writes. -/
theorem done {α : Type} {r : Request α} {p : Plan α} (h : s.InSync) (hr : r.Done s p)
    (hp : Batch.changes p.batch = p.cacheChanges) : (r.run s).realm.InSync := by
  refine ⟨?_, ?_, h.keyed.writeAll hr.written⟩
  · rw [hr.cache, Cache.byCell_changeAll, Store.claims_writeAll hr.written, hp, h.claims]
  · rw [hr.cache, Cache.marks_changeAll, Store.marks_writeAll hr.written, hp, h.marks]

/-- In a realm that is in sync, an operation writes only by carrying out the plan of a command. A
command of which no plan was carried out is not granted. -/
theorem granted_cases (h : s.InSync) (o : Operation) (stamp : Stamp) :
    (s.Recalls (o.run stamp s).realm ∧
      ∀ c answer, (o,(o.run stamp s).result) ≠ (.command c,.ok answer)) ∨
      ∃ c p, o = .command c ∧ c.ComesTo stamp s p ∧ (c.request stamp).Done s p := by
  by_cases ho : ∃ c, o = .command c
  · obtain ⟨c, rfl⟩ := ho
    rcases c.refused_or_done stamp s with ⟨e,he⟩ | ⟨p,hc,hp⟩
    · refine .inl ⟨⟨he.tables,.inl (he.cache.trans (h.healed e)),.inl he.directory⟩, ?_⟩
      intro d answer heq
      cases he.result.symm.trans (Prod.mk.inj heq).2
    · exact .inr ⟨c,p,rfl,hc,hp⟩
  · have hr : s.Recalls (o.run stamp s).realm := by
      rcases o.run_cases stamp s with hr | ⟨c,hc,-⟩
      · exact hr
      · exact absurd ⟨c,hc⟩ ho
    exact .inl ⟨hr,fun c _ heq => ho ⟨c,(Prod.mk.inj heq).1⟩⟩

theorem run_cases (h : s.InSync) (o : Operation) (stamp : Stamp) :
    s.Recalls (o.run stamp s).realm ∨
      ∃ c p, o = .command c ∧ c.ComesTo stamp s p ∧ (c.request stamp).Done s p :=
  (h.granted_cases o stamp).imp_left And.left

theorem run (h : s.InSync) (o : Operation) (stamp : Stamp) : (o.run stamp s).realm.InSync := by
  rcases h.run_cases o stamp with hr | ⟨c,p,rfl,hc,hp⟩
  · exact h.recalls hr
  · exact h.done hp hc.changes_batch

end Realm.InSync

theorem inSync_of_empty {s : Realm} (ht : s.storage.tables = {}) (hc : s.cache = {}) :
    s.InSync := by
  refine ⟨?_, ?_, ht ▸ Store.rowsKeyed_empty⟩ <;> rw [ht, hc]

/-- In every state that a server comes to, the cache has the claims and the marks of the store,
whose rows stand under their own keys. -/
theorem Managed.inSync {s : Realm} (h : Managed s) : s.InSync := by
  induction h with
  | @start s empty started =>
    -- With nothing remembered and nothing stored, both sides are empty before the first load.
    have hf : s.forget.InSync := inSync_of_empty empty rfl
    exact hf.recalls (Realm.recalls_start started)
  | run _ o stamp ih => exact ih.run o stamp

/-- Whatever a server was asked since it started, its cache has the claims and the marks that the
store has. A comparison finds no cell on which they differ. -/
theorem Managed.cache_eq_store {s : Realm} (h : Managed s) :
    s.cache.byCell = s.storage.tables.claims ∧
    (∀ player, s.cache.markOf player = s.storage.tables.marks.of player) ∧
    ∀ cell, (s.verify cell).result =
      if .claimGet ∈ s.storage.faults.unreadable then .error (.persistence .lockPoisoned)
      else .ok .inSync := by
  obtain ⟨hclaims, hmarks, -⟩ := h.inSync
  refine ⟨hclaims, fun player => ?_, fun cell => ?_⟩
  · rw [Cache.markOf, hmarks]
  · rcases s.verify_cases cell with ⟨hu,-,hr⟩ | ⟨hu,-,hr⟩
    · rw [hr, if_pos hu]
    · rw [hr, if_neg hu, Cache.owner?, hclaims, if_pos rfl]

theorem Sample.hamlet_cache_eq_store :
    Managed hamlet ∧
    hamlet.cache.byCell = hamlet.storage.tables.claims ∧
    (hamlet.storage.tables.claims[road 2]?).map (·.owner) = some (.village ⟨.ofNat 3⟩) ∧
    hamlet.cache.markOf ann.id = hamlet.storage.tables.marks.of ann.id ∧
    hamlet.storage.tables.marks.of ann.id = 2 ∧
    (hamlet.verify (road 2)).result = .ok .inSync := by
  obtain ⟨hclaims, hmarks, hverify⟩ := managed_hamlet.cache_eq_store
  exact ⟨managed_hamlet,hclaims,by decide +kernel,hmarks ann.id,by decide +kernel,
    hverify (road 2)⟩

end Freehold
