import Freehold.Proofs.Restart
import Freehold.Protection

/-!
A reload that fails. Five tables are read one after the other, and the cache is replaced when the first
two are there, before the other three are asked for. So a failure of one of those three leaves the new
cache beside the old directory. That shows only where something else has written to the store: a server
that is its only writer puts the same cache in its place.
-/

namespace Freehold
open Std

namespace Rows

def cache (rows : Rows) : Except Error Cache := do
  let claims ← rows.claims
  let marks ← rows.marks
  return .load claims marks

def directory (rows : Rows) : Except Error Directory := do
  let villages ← rows.villages
  let memberships ← rows.memberships
  let permissions ← rows.permissions
  return .build villages memberships permissions

theorem cache_eq_ok_iff {rows : Rows} {cache : Cache} :
    rows.cache = .ok cache ↔
      ∃ claims marks, rows.claims = .ok claims ∧ rows.marks = .ok marks ∧
        .load claims marks = cache := by
  simp only [Rows.cache, Except.bind_eq_ok_iff, exists_and_left]
  simp only [pure, Except.pure, Except.ok.injEq]

end Rows

namespace Realm
variable {s : Realm} {rows : Rows} {e : Error} {cache : Cache} {directory : Directory}

theorem loadDirectory_of_error (h : rows.directory = .error e) :
    s.loadDirectory rows = ⟨s,[],.error e⟩ := by
  obtain ⟨_, _, villages, memberships, permissions⟩ := rows
  cases villages <;> cases memberships <;> cases permissions <;> cases h <;> rfl

theorem loadDirectory_of_ok (h : rows.directory = .ok directory) :
    (s.loadDirectory rows).result = .ok () ∧
    (s.loadDirectory rows).realm = { s with directory := directory } := by
  obtain ⟨_, _, villages, memberships, permissions⟩ := rows
  cases villages <;> cases memberships <;> cases permissions <;> cases h
  exact ⟨rfl,rfl⟩

theorem reloadFrom_of_cache_error (h : rows.cache = .error e) :
    s.reloadFrom rows = ⟨s,[],.error e⟩ := by
  obtain ⟨claims, marks, _, _, _⟩ := rows
  cases claims <;> cases marks <;> cases h <;> rfl

/-- Once the cache is replaced, what becomes of the directory decides. -/
theorem reloadFrom_of_cache (h : rows.cache = .ok cache) :
    (s.reloadFrom rows).result = ({ s with cache := cache }.loadDirectory rows).result ∧
    (s.reloadFrom rows).realm = ({ s with cache := cache }.loadDirectory rows).realm := by
  obtain ⟨claims, marks, hc, hk, rfl⟩ := Rows.cache_eq_ok_iff.mp h
  unfold reloadFrom
  rw [hc, hk]
  dsimp only
  split
  · next heq => simp only [heq, and_self]
  · next heq => simp only [heq, and_self]

/-- A reload replaces nothing, the cache alone, or both. -/
theorem reloadFrom_cases (s : Realm) (rows : Rows) :
    (∃ e, rows.cache = .error e ∧ s.reloadFrom rows = ⟨s,[],.error e⟩) ∨
    ∃ cache, rows.cache = .ok cache ∧
      ((∃ e, rows.directory = .error e ∧ (s.reloadFrom rows).result = .error e ∧
        (s.reloadFrom rows).realm = { s with cache := cache }) ∨
      ∃ directory, rows.directory = .ok directory ∧ (s.reloadFrom rows).result = .ok () ∧
        (s.reloadFrom rows).realm = { s with cache := cache, directory := directory }) := by
  cases hc : rows.cache with
  | error e => exact .inl ⟨e,rfl,reloadFrom_of_cache_error hc⟩
  | ok cache =>
    obtain ⟨hresult, hrealm⟩ := reloadFrom_of_cache (s := s) hc
    refine .inr ⟨cache,rfl, ?_⟩
    cases hd : rows.directory with
    | error e =>
      rw [loadDirectory_of_error hd] at hresult hrealm
      exact .inl ⟨e,rfl,hresult,hrealm⟩
    | ok directory =>
      obtain ⟨hok, hdone⟩ := loadDirectory_of_ok (s := { s with cache := cache }) hd
      exact .inr ⟨directory,rfl,hresult.trans hok,hrealm.trans hdone⟩

/-- A reload that fails has replaced the cache if it was the directory that could not be read. -/
theorem reloadFrom_error_cases (h : (s.reloadFrom rows).result = .error e) :
    (rows.cache = .error e ∧ (s.reloadFrom rows).realm = s) ∨
    ∃ cache, rows.cache = .ok cache ∧ rows.directory = .error e ∧
      (s.reloadFrom rows).realm = { s with cache := cache } := by
  rcases s.reloadFrom_cases rows with ⟨e',hc,hr⟩ | ⟨cache,hc,⟨e',hd,hr,hs⟩ | ⟨d,-,hr,-⟩⟩
  · rw [hr] at h
    cases h
    exact .inl ⟨hc,congrArg Outcome.realm hr⟩
  · cases hr.symm.trans h
    exact .inr ⟨cache,hc,hd,hs⟩
  · cases hr.symm.trans h

/-- Nothing has changed just when no other cache was put in place. -/
theorem realm_reloadFrom_eq_iff (h : (s.reloadFrom rows).result = .error e) :
    (s.reloadFrom rows).realm = s ↔ ∀ cache, rows.cache = .ok cache → cache = s.cache := by
  rcases reloadFrom_error_cases h with ⟨hc,hs⟩ | ⟨cache,hc,-,hs⟩
  · rw [hc]
    exact ⟨fun _ => nofun,fun _ => hs⟩
  · rw [hc, hs]
    constructor
    · rintro heq _ ⟨⟩
      exact congrArg Realm.cache heq
    · intro hcache
      rw [hcache cache rfl]

end Realm

/-- A reload that fails has kept the directory. It has kept everything, if it was the claims or the
marks that could not be read. Else the cache is the one that was made of them, and everything is as it
was just when that cache is the old one. So it is on a server whose store was written by nobody else. -/
theorem Realm.kept_of_reload_error {s : Realm} {rows : Rows} {e : Error}
    (h : (s.reloadFrom rows).result = .error e) :
    let after := (s.reloadFrom rows).realm
    after.directory = s.directory ∧
    (rows.cache = .error e ∧ after = s ∨
      ∃ cache, rows.cache = .ok cache ∧ rows.directory = .error e ∧
        after = { s with cache := cache }) ∧
    (after = s ↔ ∀ cache, rows.cache = .ok cache → cache = s.cache) ∧
    (Managed s → (∀ claims, rows.claims = .ok claims → claims.Perm s.storage.tables.claims.values) →
      (∀ marks, rows.marks = .ok marks → marks = s.storage.tables.marks) → after = s) := by
  intro after
  have hsame : after = s ↔ ∀ cache, rows.cache = .ok cache → cache = s.cache :=
    realm_reloadFrom_eq_iff h
  refine ⟨?_,reloadFrom_error_cases h,hsame,fun hm hclaims hmarks => hsame.mpr ?_⟩
  · rcases reloadFrom_error_cases h with ⟨-,hs⟩ | ⟨cache,-,-,hs⟩ <;> simp only [after, hs]
  · intro cache hc
    obtain ⟨claims, marks, hread, hmread, rfl⟩ := Rows.cache_eq_ok_iff.mp hc
    rw [hmarks marks hmread]
    exact hm.inSync.load_eq hm.exact (hclaims claims hread)

namespace Sample

/-- A server whose store got a village of Ann's from elsewhere, with one cell of the road. The store
cannot be read for villages. -/
def outgrown : Realm :=
  let s : Realm := ({ config := {} } : Realm).start.realm
  let batch : Batch :=
    [.insertVillage (.found oakham "Oakham" ann.id (.ofSeconds 0)),
      .upsertMembership (.join oakham ann .mayor (.ofSeconds 0)),
      .insertClaim (.make (road 0) (.village oakham) "Oakham" (.paid .ironIngot 64) (.ofSeconds 0))]
  { s with storage := (s.storage.apply batch).1 }.failReads [.loadVillages]

/-- The server that was its only writer loses nothing by a reload that fails. The other one keeps its
directory beside the new cache, and all of it when even the marks cannot be read. -/
theorem parish_kept_of_reload_error :
    Managed (parish.failReads [.loadPermissions]) ∧
    (parish.failReads [.loadPermissions]).reload.realm = parish.failReads [.loadPermissions] ∧
    outgrown.reload.result = .error (.persistence .lockPoisoned) ∧
    outgrown.reload.realm.directory = outgrown.directory ∧
    (outgrown.failReads [.loadMarks]).reload.result = .error (.persistence .lockPoisoned) ∧
    (outgrown.failReads [.loadMarks]).reload.realm = outgrown.failReads [.loadMarks] := by
  have hmanaged : Managed (parish.failReads [.loadPermissions]) :=
    managed_parish.run (.failReads [.loadPermissions]) (stamp 17)
  have hparish : (parish.failReads [.loadPermissions]).reload.result =
      .error (.persistence .lockPoisoned) := by
    rfl
  have houtgrown : outgrown.reload.result = .error (.persistence .lockPoisoned) := by rfl
  have hmarks : (outgrown.failReads [.loadMarks]).reload.result =
      .error (.persistence .lockPoisoned) := by
    rfl
  obtain ⟨-, -, -, hkept⟩ := Realm.kept_of_reload_error hparish
  obtain ⟨hdirectory, -⟩ := Realm.kept_of_reload_error houtgrown
  obtain ⟨-, -, hsame, -⟩ := Realm.kept_of_reload_error hmarks
  have hunread : (outgrown.failReads [.loadMarks]).storage.rows.cache =
      .error (.persistence .lockPoisoned) := by
    rfl
  refine ⟨hmanaged,hkept hmanaged ?_ ?_,houtgrown,hdirectory,hmarks,hsame.mpr ?_⟩
  · intro claims hread
    simp only [Storage.rows] at hread
    obtain ⟨-, rfl⟩ := Storage.answer_eq_ok_iff.mp hread
    exact .refl _
  · intro marks hread
    simp only [Storage.rows] at hread
    exact (Storage.answer_eq_ok_iff.mp hread).2.symm
  · rw [hunread]
    exact nofun

/-- The reload that fails leaves land in the cache whose village the directory does not know, though it
is active in the store. Not even its mayor may build there. -/
theorem outgrown_cache_ahead :
    outgrown.reload.result = .error (.persistence .lockPoisoned) ∧
    outgrown.cache.owner? (road 0) = none ∧
    (outgrown.reload.realm.cache.owner? (road 0)).map (·.owner) = some (.village oakham) ∧
    (outgrown.reload.realm.storage.tables.villages[oakham]?).map (·.active) = some true ∧
    outgrown.reload.realm.directory.village? oakham = none ∧
    (outgrown.decide (road 0) ann.id .build).2 = .allowed ∧
    (outgrown.reload.realm.decide (road 0) ann.id .build).2 = .denied "Oakham" .village :=
  ⟨by rfl,by decide +kernel,by decide +kernel,by decide +kernel,by decide +kernel,by decide +kernel,
    by decide +kernel⟩

end Sample

end Freehold
