import Freehold.Proofs.Command
import Freehold.Sample

/-!
The states that a server can come to, and what it answers on the way. It starts on an empty store and
is then asked anything, in any order, while the store fails as was arranged. One step either leaves
the tables as they were, or is a command whose plan was carried out.
-/

namespace Freehold
open Std

/-- A read answers unless it was arranged to fail. -/
theorem Storage.answer_eq_ok_iff {α : Type} {s : Storage} {method : ReadMethod} {value a : α} :
    s.answer method value = .ok a ↔ method ∉ s.faults.unreadable ∧ value = a := by
  unfold answer
  split <;> simp_all

namespace Realm

structure Recalls (s t : Realm) : Prop where
  tables : t.storage.tables = s.storage.tables
  cache : t.cache = s.cache ∨
    t.cache = .load s.storage.tables.claims.values s.storage.tables.marks
  directory : t.directory = s.directory ∨
    t.directory = .build s.storage.tables.villages.values s.storage.tables.memberships.values
      s.storage.tables.permissions.values

theorem recalls_refl (s : Realm) : s.Recalls s := ⟨rfl,.inl rfl,.inl rfl⟩

/-- The directory is rebuilt as a whole or not at all. -/
theorem loadDirectory_cases (s : Realm) (rows : Rows) :
    (∃ e, (s.loadDirectory rows).result = .error e ∧ (s.loadDirectory rows).realm = s) ∨
      ∃ villages memberships permissions, rows.villages = .ok villages ∧
        rows.memberships = .ok memberships ∧ rows.permissions = .ok permissions ∧
        (s.loadDirectory rows).result = .ok () ∧
        (s.loadDirectory rows).realm =
          { s with directory := .build villages memberships permissions } := by
  unfold loadDirectory
  split
  · exact .inl ⟨_,rfl,rfl⟩
  · exact .inl ⟨_,rfl,rfl⟩
  · exact .inl ⟨_,rfl,rfl⟩
  · next villages memberships permissions hv hm hp =>
    exact .inr ⟨villages,memberships,permissions,hv,hm,hp,rfl,rfl⟩

theorem recalls_loadDirectory (s : Realm) : s.Recalls (s.loadDirectory s.storage.rows).realm := by
  rcases s.loadDirectory_cases s.storage.rows with ⟨e,-,hr⟩ | ⟨vs,ms,ps,hv,hm,hp,-,hr⟩
  · rw [hr]
    exact s.recalls_refl
  · obtain ⟨-, rfl⟩ := Storage.answer_eq_ok_iff.mp hv
    obtain ⟨-, rfl⟩ := Storage.answer_eq_ok_iff.mp hm
    obtain ⟨-, rfl⟩ := Storage.answer_eq_ok_iff.mp hp
    rw [hr]
    exact ⟨rfl,.inl rfl,.inr rfl⟩

/-- The cache is rebuilt before the directory, and stays so when the directory cannot be read. -/
theorem recalls_reload (s : Realm) : s.Recalls s.reload.realm := by
  unfold reload reloadFrom
  split
  · exact s.recalls_refl
  · exact s.recalls_refl
  · next claims marks hc hm =>
    obtain ⟨-, rfl⟩ := Storage.answer_eq_ok_iff.mp hc
    obtain ⟨-, rfl⟩ := Storage.answer_eq_ok_iff.mp hm
    -- From here on the cache is the new one, whatever becomes of the directory.
    let fresh : Realm :=
      { s with cache := .load s.storage.tables.claims.values s.storage.tables.marks }
    have hf : fresh.Recalls (fresh.loadDirectory s.storage.rows).realm :=
      fresh.recalls_loadDirectory
    have hs (t : Realm) (ht : fresh.Recalls t) : s.Recalls t :=
      ⟨ht.tables,.inr (ht.cache.elim id id),ht.directory⟩
    split
    · next t events heq =>
      have ht : (fresh.loadDirectory s.storage.rows).realm = t := congrArg Outcome.realm heq
      exact hs t (ht ▸ hf)
    · next t events e heq =>
      have ht : (fresh.loadDirectory s.storage.rows).realm = t := congrArg Outcome.realm heq
      exact hs t (ht ▸ hf)

/-- A comparison counts one read and tells what it found, if the store can be asked. -/
theorem verify_cases (s : Realm) (cell : Cell) :
    (.claimGet ∈ s.storage.faults.unreadable ∧ (s.verify cell).realm = s ∧
      (s.verify cell).result = .error (.persistence .lockPoisoned)) ∨
    (.claimGet ∉ s.storage.faults.unreadable ∧
      (s.verify cell).realm = s.withReads (s.storage.reads+1) ∧
      (s.verify cell).result = .ok (if s.cache.owner? cell = s.storage.tables.claims[cell]?
        then .inSync else .drift (s.cache.owner? cell) s.storage.tables.claims[cell]?)) := by
  unfold verify Storage.claimAt Storage.answer
  by_cases hr : ReadMethod.claimGet ∈ s.storage.faults.unreadable
  · refine .inl ⟨hr, ?_, ?_⟩ <;> simp only [if_pos hr]
  · by_cases hc : s.cache.owner? cell = s.storage.tables.claims[cell]?
    · refine .inr ⟨hr, ?_, ?_⟩ <;> simp only [if_neg hr, if_pos hc, withReads]
    · refine .inr ⟨hr, ?_, ?_⟩ <;> simp only [if_neg hr, if_neg hc, withReads]

theorem recalls_verify (s : Realm) (cell : Cell) : s.Recalls (s.verify cell).realm := by
  rcases s.verify_cases cell with ⟨-,hr,-⟩ | ⟨-,hr,-⟩ <;> rw [hr] <;>
    exact ⟨rfl,.inl rfl,.inl rfl⟩

theorem config_verify (s : Realm) (cell : Cell) : (s.verify cell).realm.config = s.config := by
  rcases s.verify_cases cell with ⟨-,hr,-⟩ | ⟨-,hr,-⟩ <;> rw [hr]
  rfl

/-- A realm that was just started knows only what the store holds. -/
theorem recalls_start {s : Realm} (h : s.start.result = .ok ()) :
    s.forget.Recalls s.start.realm := by
  unfold start at h ⊢
  split
  · exact s.forget.recalls_reload
  · next e he =>
    rw [he] at h
    cases h

theorem config_loadDirectory (s : Realm) (rows : Rows) :
    (s.loadDirectory rows).realm.config = s.config := by
  rcases s.loadDirectory_cases rows with ⟨e,-,hr⟩ | ⟨vs,ms,ps,-,-,-,-,hr⟩ <;> rw [hr]

theorem config_reload (s : Realm) : s.reload.realm.config = s.config := by
  unfold reload reloadFrom
  split
  · rfl
  · rfl
  · next claims marks _ _ =>
    let fresh : Realm := { s with cache := .load claims marks }
    have hf : (fresh.loadDirectory s.storage.rows).realm.config = s.config :=
      fresh.config_loadDirectory s.storage.rows
    split
    · next heq => exact congrArg (·.realm.config) heq.symm |>.trans hf
    · next heq => exact congrArg (·.realm.config) heq.symm |>.trans hf

theorem config_start (s : Realm) : s.start.realm.config = s.config := by
  unfold start
  split
  · exact s.forget.config_reload
  · rfl

def runAll (s : Realm) (operations : List (Operation × Stamp)) : Realm :=
  operations.foldl (fun s (o,stamp) => (o.run stamp s).realm) s

def answers (s : Realm) : List (Operation × Stamp) → List (Operation × Except Error Answer)
  | [] => []
  | (o,stamp) :: operations =>
    (o,(o.run stamp s).result) :: (o.run stamp s).realm.answers operations

theorem runAll_append (s : Realm) (first second : List (Operation × Stamp)) :
    s.runAll (first ++ second) = (s.runAll first).runAll second :=
  List.foldl_append

/-- A run goes on from the state that it was in, and so do its answers. -/
theorem answers_append (s : Realm) (first second : List (Operation × Stamp)) :
    s.answers (first ++ second) = s.answers first ++ (s.runAll first).answers second := by
  induction first generalizing s with
  | nil => rfl
  | cons step first ih =>
    rw [List.cons_append, answers, ih]
    rfl

end Realm

/-- What one operation does: it remembers, or it is a command that was refused or carried out. -/
theorem Operation.run_cases (o : Operation) (stamp : Stamp) (s : Realm) :
    s.Recalls (o.run stamp s).realm ∨
      ∃ c, o = .command c ∧ ((∃ e, (c.request stamp).Refused s e) ∨
        ∃ p, c.ComesTo stamp s p ∧ (c.request stamp).Done s p) := by
  cases o with
  | command c => exact .inr ⟨c,rfl,c.refused_or_done stamp s⟩
  | reload => exact .inl s.recalls_reload
  | reloadDirectory => exact .inl s.recalls_loadDirectory
  | verify cell => exact .inl (s.recalls_verify cell)
  | trust | untrust | elevate | demote | refuseAllBatches | failNextBatchAt | failReads =>
    exact .inl ⟨rfl,.inl rfl,.inl rfl⟩

/-- No operation changes the configuration. -/
theorem Operation.config_run (o : Operation) (stamp : Stamp) (s : Realm) :
    (o.run stamp s).realm.config = s.config := by
  cases o with
  | command c =>
    rcases c.refused_or_done stamp s with ⟨e,he⟩ | ⟨p,-,hp⟩
    · exact he.config
    · exact hp.config
  | reload => exact s.config_reload
  | reloadDirectory => exact s.config_loadDirectory s.storage.rows
  | verify cell => exact s.config_verify cell
  | trust | untrust | elevate | demote | refuseAllBatches | failNextBatchAt | failReads => rfl

theorem Realm.config_runAll (s : Realm) (operations : List (Operation × Stamp)) :
    (s.runAll operations).config = s.config := by
  induction operations generalizing s with
  | nil => rfl
  | cons step operations ih => exact (ih _).trans (step.1.config_run step.2 s)

/-- The states that a server comes to which was started on an empty store. -/
inductive Managed : Realm → Prop where
  | start {s : Realm} (empty : s.storage.tables = {}) (started : s.start.result = .ok ()) :
    Managed s.start.realm
  | run {s : Realm} (managed : Managed s) (o : Operation) (stamp : Stamp) :
    Managed (o.run stamp s).realm

/-- A run leads from one state of a server to another. -/
theorem Managed.runAll {s : Realm} (h : Managed s) (operations : List (Operation × Stamp)) :
    Managed (s.runAll operations) := by
  induction operations generalizing s with
  | nil => exact h
  | cons step operations ih => exact ih (h.run step.1 step.2)

namespace Sample

def hamlet : Realm :=
  ({ config := {} } : Realm).start.realm.runAll
    [(.command (.claim ann (road 0) (.free 1)),stamp 1),
      (.command (.claim ann (road 1) (.free 2)),stamp 2),
      (.command (.found ann "Oakham" [road 1,road 0]),stamp 3),
      (.command (.claim ben (road 5) (.free 1)),stamp 4),
      (.failNextBatchAt 1,stamp 5),
      (.command (.expand ann (road 2) (.paid .ironIngot 64)),stamp 6),
      (.command (.expand ann (road 2) (.paid .ironIngot 64)),stamp 7),
      (.command (.returnCells ann [road 0] none),stamp 8)]

/-- Ann founded a village of two cells. She adds a third one in the second attempt, as the store was
arranged to fail in the first, and gives the first one back. -/
theorem managed_hamlet : Managed hamlet := (Managed.start rfl rfl).runAll _

def ending : Operation := .command (.disband ann ⟨.ofNat 3⟩)

end Sample

end Freehold
