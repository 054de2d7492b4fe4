import Freehold.Proofs.DirectoryMirror
import Freehold.Proofs.LandIndex

/-!
A restart goes unnoticed. What is remembered after any run is what loading the store brings back, in
whatever order its rows come, so a server that was stopped and started goes on where it was.
-/

namespace Freehold
open Std

structure Rows.Deliver (rows : Rows) (t : Store) : Prop where
  -- The rows of a table come in any order.
  claims : ∃ claims, rows.claims = .ok claims ∧ claims.Perm t.claims.values
  marks : rows.marks = .ok t.marks
  villages : ∃ villages, rows.villages = .ok villages ∧ villages.Perm t.villages.values
  memberships : ∃ memberships, rows.memberships = .ok memberships ∧
    memberships.Perm t.memberships.values
  permissions : ∃ permissions, rows.permissions = .ok permissions ∧
    permissions.Perm t.permissions.values

/-- A store that can be read delivers its own rows. -/
theorem Storage.rows_deliver {s : Storage}
    (h : ∀ method ∈ s.faults.unreadable, method = .claimGet ∨ method = .historyForCell) :
    s.rows.Deliver s.tables := by
  have hanswer {α : Type} (method : ReadMethod) (value : α)
      (hm : ¬(method = .claimGet ∨ method = .historyForCell)) :
      s.answer method value = .ok value :=
    answer_eq_ok_iff.mpr ⟨fun hu => hm (h method hu),rfl⟩
  exact {
    claims := ⟨_,hanswer _ _ (by decide),.refl _⟩
    marks := hanswer _ _ (by decide)
    villages := ⟨_,hanswer _ _ (by decide),.refl _⟩
    memberships := ⟨_,hanswer _ _ (by decide),.refl _⟩
    permissions := ⟨_,hanswer _ _ (by decide),.refl _⟩ }

namespace Realm
variable {s t : Realm} {rows : Rows}

def startFrom (s : Realm) (rows : Rows) : Outcome Unit :=
  match s.config.validate with
  | .ok () => s.forget.reloadFrom rows
  | .error e => ⟨s,[],.error (.config e)⟩

theorem start_eq_startFrom (s : Realm) : s.start = s.startFrom s.storage.rows := rfl

/-- With all five tables at hand, cache and directory are made of their rows. -/
theorem reloadFrom_of_ok {claims : List Claim} {marks : Marks} {villages : List Village}
    {memberships : List Membership} {permissions : List Permission}
    (hc : rows.claims = .ok claims) (hk : rows.marks = .ok marks)
    (hv : rows.villages = .ok villages) (hm : rows.memberships = .ok memberships)
    (hp : rows.permissions = .ok permissions) :
    (s.reloadFrom rows).result = .ok () ∧
    (s.reloadFrom rows).realm =
      { s with
        cache := .load claims marks
        directory := .build villages memberships permissions } := by
  simp only [reloadFrom, loadDirectory, hc, hk, hv, hm, hp, and_self]

/-- A cache that is loaded from the claims of the store is the one that was there. Its indices need no
comparing: they are exact on both sides, and claims have only one index. -/
theorem InSync.load_eq (h : s.InSync) (he : s.cache.Exact) {claims : List Claim}
    (hclaims : claims.Perm s.storage.tables.claims.values) :
    Cache.load claims s.storage.tables.marks = s.cache := by
  refine (Cache.exact_load _ _).eq he ?_ ?_
  · rw [Cache.byCell_load h.keyed.claims hclaims, h.claims]
  · rw [Cache.marks_load, h.marks]

/-- Nothing that was remembered before matters for a load, only what the store delivers. -/
theorem Orderly.reloadFrom_eq (h : s.Orderly) (he : s.cache.Exact)
    (hr : rows.Deliver s.storage.tables) (ht : t.forget = s.forget) :
    (t.reloadFrom rows).result = .ok () ∧ (t.reloadFrom rows).realm = s := by
  obtain ⟨claims, hc, hclaims⟩ := hr.claims
  obtain ⟨villages, hv, hvillages⟩ := hr.villages
  obtain ⟨memberships, hm, hmembers⟩ := hr.memberships
  obtain ⟨permissions, hp, hpermits⟩ := hr.permissions
  have hcache : Cache.load claims s.storage.tables.marks = s.cache := h.sync.load_eq he hclaims
  have hdirectory : Directory.build villages memberships permissions = s.directory :=
    h.mirrors.build_eq h.sound h.sync.keyed hvillages hmembers hpermits
  obtain ⟨hresult, hrealm⟩ := reloadFrom_of_ok (s := t) hc hr.marks hv hm hp
  refine ⟨hresult, ?_⟩
  rw [hrealm, hcache, hdirectory]
  exact congrArg (fun r : Realm => { r with cache := s.cache, directory := s.directory }) ht

/-- The realm after a reload, or after it was stopped and started anew, with the rows of the store in
some order. -/
def Restarts (s t : Realm) : Prop :=
  ∃ rows : Rows, rows.Deliver s.storage.tables ∧
    (t = (s.reloadFrom rows).realm ∨ t = (s.shutdown.realm.startFrom rows).realm)

/-- A run with any number of restarts in between, and what its operations were answered. -/
inductive Interrupted :
    Realm → List (Operation × Stamp) → Realm → List (Operation × Except Error Answer) → Prop where
  | done (s : Realm) : Interrupted s [] s []
  | step {s t : Realm} {o : Operation} {stamp : Stamp} {operations : List (Operation × Stamp)}
    {answers : List (Operation × Except Error Answer)}
    (later : Interrupted (o.run stamp s).realm operations t answers) :
    Interrupted s ((o,stamp) :: operations) t ((o,(o.run stamp s).result) :: answers)
  | restart {s s' t : Realm} {operations : List (Operation × Stamp)}
    {answers : List (Operation × Except Error Answer)} (again : s.Restarts s')
    (later : Interrupted s' operations t answers) : Interrupted s operations t answers

end Realm

namespace Managed
variable {s t : Realm} {rows : Rows}

theorem config_valid (h : Managed s) : s.config.validate = .ok () := by
  induction h with
  | @start s _ started =>
    rw [s.config_start]
    unfold Realm.start at started
    split at started
    · next hv => exact hv
    · cases started
  | @run s _ o stamp ih =>
    rw [o.config_run stamp s]
    exact ih

/-- Rows of the store, in whatever order they come, make up the memory that is there already. -/
theorem reloadFrom_eq (h : Managed s) (hr : rows.Deliver s.storage.tables) :
    (s.reloadFrom rows).result = .ok () ∧ (s.reloadFrom rows).realm = s :=
  h.orderly.reloadFrom_eq h.exact hr rfl

/-- A start forgets first, so it does not matter whether the server was stopped. -/
theorem startFrom_eq (h : Managed s) (hr : rows.Deliver s.storage.tables)
    (ht : t.forget = s.forget) :
    (t.startFrom rows).result = .ok () ∧ (t.startFrom rows).realm = s := by
  have hconfig : t.config = s.config := congrArg (·.config) ht
  have hv : t.config.validate = .ok () := hconfig ▸ h.config_valid
  have hstart : t.startFrom rows = t.forget.reloadFrom rows := by
    unfold Realm.startFrom
    rw [hv]
  rw [hstart]
  exact h.orderly.reloadFrom_eq h.exact hr ht

/-- A server whose store can be read loses nothing by a reload or a restart of its own. -/
theorem reload_restart_eq (h : Managed s) (hu : ∀ method ∈ s.storage.faults.unreadable,
      method = .claimGet ∨ method = .historyForCell) :
    s.reload.result = .ok () ∧ s.reload.realm = s ∧
    s.restart.result = .ok () ∧ s.restart.realm = s := by
  have hr : s.storage.rows.Deliver s.storage.tables := Storage.rows_deliver hu
  obtain ⟨hreloaded, hreload⟩ := h.reloadFrom_eq hr
  obtain ⟨hstarted, hstart⟩ := h.startFrom_eq hr rfl
  refine ⟨hreloaded,hreload, ?_⟩
  unfold Realm.restart
  rw [Realm.start_eq_startFrom]
  split
  · next heq =>
    rw [heq] at hstart
    exact ⟨rfl,hstart⟩
  · next heq =>
    rw [heq] at hstarted
    cases hstarted

theorem eq_of_restarts (h : Managed s) (ht : s.Restarts t) : t = s := by
  obtain ⟨rows, hr, rfl | rfl⟩ := ht
  · exact (h.reloadFrom_eq hr).2
  · exact (h.startFrom_eq (t := s.shutdown.realm) hr rfl).2

/-- A run with restarts in between ends where the run without them ends, with the same answers. -/
theorem eq_runAll_of_interrupted (h : Managed s) {operations : List (Operation × Stamp)}
    {answers : List (Operation × Except Error Answer)}
    (ht : s.Interrupted operations t answers) :
    t = s.runAll operations ∧ answers = s.answers operations := by
  induction ht with
  | done => exact ⟨rfl,rfl⟩
  | @step s t o stamp operations answers later ih =>
    obtain ⟨hrealm, hanswers⟩ := ih (h.run o stamp)
    exact ⟨hrealm,by rw [hanswers]; rfl⟩
  | restart again later ih =>
    -- The run goes on from the state that it was in, which therefore is still one of a server.
    obtain rfl := h.eq_of_restarts again
    exact ih h

/-- In every state that a server comes to, the memory that is rebuilt from the rows of the store is the
one that it has, whether it reloads or was stopped and starts anew. A run answers the same with
restarts in between as without, and comes to the same. -/
theorem restart_invisible (h : Managed s) :
    (∀ rows : Rows, rows.Deliver s.storage.tables →
      (s.reloadFrom rows).result = .ok () ∧ (s.reloadFrom rows).realm = s ∧
      (s.shutdown.realm.startFrom rows).result = .ok () ∧
      (s.shutdown.realm.startFrom rows).realm = s) ∧
    ∀ operations t answers, s.Interrupted operations t answers →
      t = s.runAll operations ∧ answers = s.answers operations := by
  refine ⟨?_,fun _ _ _ ht => h.eq_runAll_of_interrupted ht⟩
  intro rows hr
  obtain ⟨hreloaded, hreload⟩ := h.reloadFrom_eq hr
  obtain ⟨hstarted, hstart⟩ := h.startFrom_eq (t := s.shutdown.realm) hr rfl
  exact ⟨hreloaded,hreload,hstarted,hstart⟩

end Managed

namespace Sample

def backwards : Rows where
  claims := .ok parish.storage.tables.claims.values.reverse
  marks := .ok parish.storage.tables.marks
  villages := .ok parish.storage.tables.villages.values.reverse
  memberships := .ok parish.storage.tables.memberships.values.reverse
  permissions := .ok parish.storage.tables.permissions.values.reverse

def settling : Operation := .command (.claimNext cay (road 7) none true)

/-- The rows of the village come last first. Then Cay claims a cell. -/
theorem parish_restart_invisible :
    Managed parish ∧
    backwards.Deliver parish.storage.tables ∧
    parish.storage.tables.claims.values.reverse ≠ parish.storage.tables.claims.values ∧
    (parish.shutdown.realm.startFrom backwards).result = .ok () ∧
    (parish.shutdown.realm.startFrom backwards).realm = parish ∧
    parish.cache.byVillage.size = 1 ∧
    (settling.run (stamp 17) (parish.shutdown.realm.startFrom backwards).realm).realm =
      parish.runAll [(settling,stamp 17)] := by
  have hr : backwards.Deliver parish.storage.tables := {
    claims := ⟨_,rfl,List.reverse_perm _⟩
    marks := rfl
    villages := ⟨_,rfl,List.reverse_perm _⟩
    memberships := ⟨_,rfl,List.reverse_perm _⟩
    permissions := ⟨_,rfl,List.reverse_perm _⟩ }
  have hclaims : parish.storage.tables.claims.values.reverse ≠
      parish.storage.tables.claims.values := by
    decide +kernel
  have hland : parish.cache.byVillage.size = 1 := by decide +kernel
  obtain ⟨hrebuilt, hruns⟩ := managed_parish.restart_invisible
  obtain ⟨-, -, hresult, hrealm⟩ := hrebuilt backwards hr
  have hrun : parish.Interrupted [(settling,stamp 17)] _ _ :=
    .restart ⟨backwards,hr,.inr rfl⟩ (.step (.done _))
  exact ⟨managed_parish,hr,hclaims,hresult,hrealm,hland,(hruns _ _ _ hrun).1⟩

end Sample

end Freehold
