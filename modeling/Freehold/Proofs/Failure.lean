import Freehold.Proofs.Command
import Freehold.Sample

/-!
What a command that fails leaves behind. Nothing is written and nothing is forgotten, whatever the
state it was given in and whatever failure of the store was arranged. The one thing that can be
learnt from a failure is a claim that only the store knew.
-/

namespace Freehold
open Std

/-- An error that reports `cell` as taken, by a claim that the store holds and the cache lacks. -/
structure Realm.Missed (s : Realm) (e : Error) (cell : Cell) (stored : Claim) : Prop where
  conflict : ∃ name, e = .conflict cell name
  cached : s.cache.owner? cell = none
  stored : s.storage.tables.claims[cell]? = some stored

namespace Realm
variable {s : Realm} {e : Error}

theorem healed_of_missed {cell : Cell} {stored : Claim} (h : s.Missed e cell stored) :
    s.healed e = s.cache.upsert stored := by
  obtain ⟨⟨name,rfl⟩, hc, hs⟩ := h
  simp only [healed, hc, hs]

theorem healed_of_not_missed (h : ∀ cell stored, ¬s.Missed e cell stored) :
    s.healed e = s.cache := by
  unfold healed
  split
  · split
    · next hc hs => exact absurd ⟨⟨_,rfl⟩,hc,hs⟩ (h _ _)
    · rfl
  · rfl

end Realm

namespace Command

/-- A command with an error for an answer was refused, by a check or by the store. -/
theorem refused_of_error {c : Command} {stamp : Stamp} {s : Realm} {e : Error}
    (h : (c.run stamp s).result = .error e) : (c.request stamp).Refused s e := by
  rcases c.refused_or_done stamp s with ⟨other,ho⟩ | ⟨p,-,hp⟩
  · have he : Except.error other = Except.error e := ho.result.symm.trans h
    cases he
    exact ho
  · have he : Except.ok p.answer = Except.error e := hp.result.symm.trans h
    cases he

/-- A command that fails leaves the store and the directory as they were, and the cache too, unless
the failure is a conflict with a claim that the cache had missed. That claim is then added to the
cache, and nothing else in it changes. -/
theorem unchanged_of_error {c : Command} {stamp : Stamp} {s : Realm} {e : Error}
    (h : (c.run stamp s).result = .error e) :
    (c.run stamp s).realm.storage.tables = s.storage.tables ∧
    (c.run stamp s).realm.directory = s.directory ∧
    ((∀ cell stored, ¬s.Missed e cell stored) → (c.run stamp s).realm.cache = s.cache) ∧
    ∀ cell stored, s.Missed e cell stored →
      (c.run stamp s).realm.cache = s.cache.upsert stored ∧
      (stored.cell = cell → (c.run stamp s).realm.cache = s.cache.gain stored) := by
  have hr : (c.request stamp).Refused s e := refused_of_error h
  have hcache : (c.run stamp s).realm.cache = s.healed e := hr.cache
  refine ⟨hr.tables, hr.directory, ?_, ?_⟩
  · intro hn
    rw [hcache, Realm.healed_of_not_missed hn]
  · intro cell stored hm
    have hu : (c.run stamp s).realm.cache = s.cache.upsert stored := by
      rw [hcache, Realm.healed_of_missed hm]
    refine ⟨hu, ?_⟩
    rintro rfl
    rw [hu, Cache.upsert_eq_gain hm.cached]

end Command

namespace Sample

def annsClaim : Claim := .make (road 0) (.personal ann.id) ann.name (.free 1) (.ofSeconds 0)

def behind : Realm where
  config := {}
  storage := { tables := { claims := (∅ : ExtTreeMap Cell Claim).insert (road 0) annsClaim } }

def bensAttempt : Outcome Answer := (Command.claim ben (road 0) (.free 1)).run (stamp 1) behind

/-- Ben cannot have the cell, and the claim on it is remembered from then on. -/
theorem bensAttempt_unchanged :
    bensAttempt.result = .error (.conflict (road 0) "Ann") ∧
    behind.Missed (.conflict (road 0) "Ann") (road 0) annsClaim ∧
    bensAttempt.realm.storage.tables = behind.storage.tables ∧
    bensAttempt.realm.cache = behind.cache.gain annsClaim := by
  have hresult : bensAttempt.result = .error (.conflict (road 0) "Ann") := by rfl
  have hmissed : behind.Missed (.conflict (road 0) "Ann") (road 0) annsClaim :=
    ⟨⟨_,rfl⟩,by decide +kernel,by decide +kernel⟩
  obtain ⟨htables, -, -, hgain⟩ := Command.unchanged_of_error hresult
  exact ⟨hresult,hmissed,htables,(hgain (road 0) annsClaim hmissed).2 rfl⟩

end Sample

end Freehold
