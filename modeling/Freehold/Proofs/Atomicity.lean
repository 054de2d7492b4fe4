import Freehold.Proofs.Batch
import Freehold.Proofs.Checks
import Freehold.Sample

/-!
A batch is performed as a whole or not at all. Its writes are tried one after the other, each on the
tables that those before it have left, and a failure arranged for one of them comes when that write is
reached. So the first failure is the one that is reported, and of two in one place the arranged one.
-/

namespace Freehold
open Std

namespace Store
variable {s t : Store} {w : Write} {b : Batch} {e e' : StorageError} {i k : Nat}

/-- The writes before place `i` of the batch are performed, and the one in that place is refused. -/
def FailsAt (s : Store) (b : Batch) (i : Nat) (e : StorageError) : Prop :=
  ∃ u w, s.writeAll (b.take i) = .ok u ∧ b[i]? = some w ∧ u.write w = .error e

/-- Two batches in one are performed one after the other. -/
theorem writeAll_append (s : Store) (b₁ b₂ : Batch) :
    s.writeAll (b₁ ++ b₂) = s.writeAll b₁ >>= fun t => t.writeAll b₂ := by
  induction b₁ generalizing s with
  | nil => rfl
  | cons w b₁ ih =>
    rw [List.cons_append, writeAll, writeAll]
    cases s.write w with
    | ok t => exact ih t
    | error e => rfl

theorem writeAll_append_eq_ok_iff {b₁ b₂ : Batch} :
    s.writeAll (b₁ ++ b₂) = .ok t ↔ ∃ u, s.writeAll b₁ = .ok u ∧ u.writeAll b₂ = .ok t := by
  rw [writeAll_append, Except.bind_eq_ok_iff]

theorem writeAll_cons_of_ok (h : s.write w = .ok t) : s.writeAll (w :: b) = t.writeAll b := by
  rw [writeAll, h]

theorem failsAt_zero (h : s.write w = .error e) : s.FailsAt (w :: b) 0 e := ⟨s,w,rfl,rfl,h⟩

theorem FailsAt.cons (hw : s.write w = .ok t) (h : t.FailsAt b i e) :
    s.FailsAt (w :: b) (i+1) e := by
  obtain ⟨u, w', hu, hat, hfails⟩ := h
  exact ⟨u,w',(writeAll_cons_of_ok hw).trans hu,hat,hfails⟩

/-- A failure is there already in a shorter batch that reaches its place. -/
theorem FailsAt.take (h : s.FailsAt b i e) (hk : i < k) : s.FailsAt (b.take k) i e := by
  obtain ⟨u, w, hu, hat, hfails⟩ := h
  refine ⟨u,w, ?_, ?_,hfails⟩
  · rw [List.take_take, Nat.min_eq_left (Nat.le_of_lt hk)]
    exact hu
  · rw [List.getElem?_take_of_lt hk]
    exact hat

theorem FailsAt.writeAll_eq (h : s.FailsAt b i e) : s.writeAll b = .error e := by
  obtain ⟨u, w, hu, hat, hfails⟩ := h
  obtain ⟨hi, rfl⟩ := List.getElem?_eq_some_iff.mp hat
  rw [← List.take_append_drop i b, writeAll_append, hu, List.drop_eq_getElem_cons hi]
  change u.writeAll (b[i] :: b.drop (i+1)) = _
  rw [writeAll, hfails]

end Store

namespace Storage

inductive Ends (s : Storage) (b : Batch) : Except Error Unit → Store → Prop
  -- No failure was arranged for a place in the batch.
  | done {t : Store} (performed : s.tables.writeAll b = .ok t)
    (beyond : ∀ k, s.faults.failAt = some k → b.length ≤ k) : Ends s b (.ok ()) t
  -- The arranged failure comes first.
  | injected {k : Nat} {w : Write} (arranged : s.faults.failAt = some k) (there : b[k]? = some w)
    (unfailed : ∀ i < k, ∀ e, ¬s.tables.FailsAt b i e) :
    Ends s b (.error (.persistence (.transactionFailed
      ("injected failure at op " ++ toString k ++ " (" ++ w.label ++ ")")))) s.tables
  -- A write that finds its row missing, or its place taken, comes first.
  | refused {i : Nat} {e : StorageError} (fails : s.tables.FailsAt b i e)
    (before : ∀ k, s.faults.failAt = some k → i < k) : Ends s b (.error (.persistence e)) s.tables

variable {s : Storage} {b : Batch} {r r' : Except Error Unit} {t t' : Store}

/-- A batch can end in one way only: as it is, at its first refused write, or at the place where a
failure was arranged. -/
theorem Ends.unique (h : s.Ends b r t) (h' : s.Ends b r' t') : r = r' ∧ t = t' := by
  -- A batch has one first failure, and the arranged one counts only where that does not come before.
  cases h with
  | done performed beyond =>
    cases h' with
    | done performed' =>
      cases performed.symm.trans performed'
      exact ⟨rfl,rfl⟩
    | injected arranged there =>
      obtain ⟨hk, -⟩ := List.getElem?_eq_some_iff.mp there
      exact absurd hk (Nat.not_lt.mpr (beyond _ arranged))
    | refused fails => cases performed.symm.trans fails.writeAll_eq
  | injected arranged there unfailed =>
    cases h' with
    | done _ beyond' =>
      obtain ⟨hk, -⟩ := List.getElem?_eq_some_iff.mp there
      exact absurd hk (Nat.not_lt.mpr (beyond' _ arranged))
    | injected arranged' there' =>
      cases arranged.symm.trans arranged'
      cases there.symm.trans there'
      exact ⟨rfl,rfl⟩
    | refused fails before => exact absurd fails (unfailed _ (before _ arranged) _)
  | refused fails before =>
    cases h' with
    | done performed' => cases performed'.symm.trans fails.writeAll_eq
    | injected arranged' _ unfailed' => exact absurd fails (unfailed' _ (before _ arranged') _)
    | refused fails' =>
      cases fails.writeAll_eq.symm.trans fails'.writeAll_eq
      exact ⟨rfl,rfl⟩

/-- Writes are performed up to the end, up to the one that was arranged to fail, or up to one that
fails before it. -/
theorem writeUntil_cases (s : Store) (failAt : Option Nat) (b : Batch) :
    (∃ t, writeUntil s failAt b = .done t ∧ s.writeAll b = .ok t ∧
      ∀ k, failAt = some k → b.length ≤ k) ∨
    (∃ k w t, writeUntil s failAt b = .injected w ∧ failAt = some k ∧ b[k]? = some w ∧
      s.writeAll (b.take k) = .ok t) ∨
    ∃ i e, writeUntil s failAt b = .refused e ∧ s.FailsAt b i e ∧
      ∀ k, failAt = some k → i < k := by
  fun_induction writeUntil s failAt b with
  | case1 => exact .inl ⟨_,rfl,rfl,fun k _ => Nat.zero_le k⟩
  | case2 s w b => exact .inr (.inl ⟨0,w,s,rfl,rfl,rfl,rfl⟩)
  | case3 s failAt w b hne u hu ih =>
    -- What is arranged for the whole batch is arranged one place earlier for the rest of it.
    have hshift (k : Nat) (hk : failAt = some k) : ∃ n, k = n+1 ∧ failAt.map (· - 1) = some n := by
      cases k with
      | zero => exact absurd hk hne
      | succ n => exact ⟨n,rfl,by rw [hk]; rfl⟩
    rcases ih with ⟨t,hrun,hall,hbeyond⟩ | ⟨k,w',t,hrun,hk,hat,hall⟩ | ⟨i,e,hrun,hfails,hbefore⟩
    · refine .inl ⟨t,hrun,(Store.writeAll_cons_of_ok hu).trans hall, ?_⟩
      intro k hk
      obtain ⟨n, rfl, hn⟩ := hshift k hk
      exact Nat.succ_le_succ (hbeyond n hn)
    · obtain ⟨k', hk', -⟩ := Option.map_eq_some_iff.mp hk
      obtain ⟨n, rfl, hn⟩ := hshift k' hk'
      cases hk.symm.trans hn
      exact .inr (.inl ⟨k+1,w',t,hrun,hk',hat,(Store.writeAll_cons_of_ok hu).trans hall⟩)
    · refine .inr (.inr ⟨i+1,e,hrun,hfails.cons hu, ?_⟩)
      intro k hk
      obtain ⟨n, rfl, hn⟩ := hshift k hk
      exact Nat.succ_lt_succ (hbefore n hn)
  | case4 s failAt w b hne e he =>
    refine .inr (.inr ⟨0,e,rfl,Store.failsAt_zero he, ?_⟩)
    intro k hk
    refine Nat.pos_of_ne_zero ?_
    rintro rfl
    exact hne hk

/-- A store that refuses every batch counts it and keeps all else, the next arranged failure
included. -/
theorem apply_of_refuseAll (h : s.faults.refuseAll = true) :
    (s.apply b).2.2 = .error (.persistence (.transactionFailed "injected failure")) ∧
    (s.apply b).1 = { s with applies := s.applies+1 } := by
  simp only [apply, h]
  exact ⟨rfl,rfl⟩

/-- Unless every batch is refused, a batch ends as its writes and the failure arranged for it say.
It uses the failure up, is counted, and leaves all else of the store but the tables alone. -/
theorem ends_apply (h : s.faults.refuseAll = false) :
    s.Ends b (s.apply b).2.2 (s.apply b).1.tables ∧
    (s.apply b).1 = { s with
      tables := (s.apply b).1.tables
      faults := { s.faults with failAt := none }
      applies := s.applies+1 } := by
  rcases writeUntil_cases s.tables s.faults.failAt b with
    ⟨t,hrun,hall,hbeyond⟩ | ⟨k,w,t,hrun,hk,hat,hall⟩ | ⟨i,e,hrun,hfails,hbefore⟩
  · simp only [apply, h, hrun]
    exact ⟨.done hall hbeyond,rfl⟩
  · have hunfailed (i : Nat) (hi : i < k) (e : StorageError) : ¬s.tables.FailsAt b i e := by
      intro hfails
      cases hall.symm.trans (hfails.take hi).writeAll_eq
    simp only [apply, h, hrun]
    simp only [hk, Option.getD_some]
    exact ⟨.injected hk hat hunfailed,rfl⟩
  · simp only [apply, h, hrun]
    exact ⟨.refused hfails hbefore,rfl⟩

/-- With no failure arranged, the writes themselves decide. -/
theorem apply_eq_ok_iff (h : s.faults.refuseAll = false) (hn : s.faults.failAt = none) :
    (s.apply b).2.2 = .ok () ∧ (s.apply b).1.tables = t ↔ s.tables.writeAll b = .ok t := by
  constructor
  · rintro ⟨hok, rfl⟩
    rcases s.apply_cases b with ⟨-,hall⟩ | ⟨cause,he,-⟩
    · exact hall
    · cases he.symm.trans hok
  · intro hall
    have hends : s.Ends b (.ok ()) t := .done hall fun k hk => nomatch hn.symm.trans hk
    exact (ends_apply h).1.unique hends

/-- A store without arranged failures has none after a batch either. -/
theorem faults_apply_of_none (h : s.faults.refuseAll = false) (hn : s.faults.failAt = none) :
    (s.apply b).1.faults = s.faults := by
  rw [(ends_apply h).2, ← hn]

theorem apply_append_eq_ok_iff {next : Batch} (h : s.faults.refuseAll = false)
    (hn : s.faults.failAt = none) :
    (s.apply (b ++ next)).2.2 = .ok () ∧ (s.apply (b ++ next)).1.tables = t ↔
      (s.apply b).2.2 = .ok () ∧ ((s.apply b).1.apply next).2.2 = .ok () ∧
        ((s.apply b).1.apply next).1.tables = t := by
  have hfaults : (s.apply b).1.faults = s.faults := faults_apply_of_none h hn
  rw [apply_eq_ok_iff h hn, apply_eq_ok_iff (hfaults ▸ h) (hfaults ▸ hn),
    Store.writeAll_append_eq_ok_iff]
  constructor
  · rintro ⟨u, hb, hnext⟩
    obtain ⟨hok, rfl⟩ := (apply_eq_ok_iff h hn).mpr hb
    exact ⟨hok,hnext⟩
  · rintro ⟨hok, hnext⟩
    exact ⟨_,(apply_eq_ok_iff h hn).mp ⟨hok,rfl⟩,hnext⟩

/-- A store that refuses every batch stays as it is, with the failure arranged for the next one. Else
that failure is used up, and a batch ends in the one way there is for it. With none arranged, two
batches in one succeed just when they do so one after the other, and leave the same tables. -/
theorem apply_atomic (s : Storage) (b : Batch) :
    let after := (s.apply b).1
    let result := (s.apply b).2.2
    (s.faults.refuseAll = true →
      result = .error (.persistence (.transactionFailed "injected failure")) ∧
      after = { s with applies := s.applies+1 }) ∧
    (s.faults.refuseAll = false →
      (∀ r t, s.Ends b r t ↔ r = result ∧ t = after.tables) ∧
      after = { s with
        tables := after.tables
        faults := { s.faults with failAt := none }
        applies := s.applies+1 }) ∧
    (s.faults.refuseAll = false → s.faults.failAt = none → ∀ next : Batch,
      let whole := s.apply (b ++ next)
      (whole.2.2 = .ok () ↔ result = .ok () ∧ (after.apply next).2.2 = .ok ()) ∧
      (whole.2.2 = .ok () → whole.1.tables = (after.apply next).1.tables)) := by
  intro after result
  refine ⟨apply_of_refuseAll,fun h => ⟨?_,(ends_apply h).2⟩,fun h hn next => ?_⟩
  · intro r t
    constructor
    · exact fun hends => hends.unique (ends_apply h).1
    · rintro ⟨rfl, rfl⟩
      exact (ends_apply h).1
  · intro whole
    have hwhole (t : Store) : whole.2.2 = .ok () ∧ whole.1.tables = t ↔
        result = .ok () ∧ (after.apply next).2.2 = .ok () ∧ (after.apply next).1.tables = t :=
      apply_append_eq_ok_iff h hn
    constructor
    · constructor
      · intro hok
        obtain ⟨hresult, hnext, -⟩ := (hwhole _).mp ⟨hok,rfl⟩
        exact ⟨hresult,hnext⟩
      · rintro ⟨hresult, hnext⟩
        exact ((hwhole _).mpr ⟨hresult,hnext,rfl⟩).1
    · intro hok
      obtain ⟨-, -, htables⟩ := (hwhole _).mp ⟨hok,rfl⟩
      exact htables.symm

end Storage

namespace Sample

def plot : Claim := .make (road 0) (.personal ann.id) ann.name (.free 1) (.ofSeconds 0)

def twice : Batch := [.insertClaim plot,.insertClaim plot]

/-- The second claim is the one that fails by itself. -/
theorem failsAt_twice :
    ({} : Store).FailsAt twice 1 (.insertFailed "claim" (road 0).text "already exists") :=
  ⟨_,_,rfl,rfl,by rfl⟩

/-- A failure arranged for the second of two writes is reported where that write fails anyway, and one
arranged for what comes after it is not. A store that refuses every batch keeps what was arranged. One
that was left alone takes the first claim, and no second batch with the same. -/
theorem twice_atomic :
    let faulty (failAt : Option Nat) : Storage := { faults := { failAt := failAt } }
    let barred : Storage := { faults := { refuseAll := true, failAt := some 1 } }
    ((faulty (some 1)).apply twice).2.2 =
      .error (.persistence (.transactionFailed "injected failure at op 1 (insert_claim)")) ∧
    ((faulty (some 2)).apply twice).2.2 =
      .error (.persistence (.insertFailed "claim" (road 0).text "already exists")) ∧
    ((faulty (some 2)).apply twice).1.faults.failAt = none ∧
    (barred.apply twice).1 = { barred with applies := 1 } ∧
    ((faulty none).apply (twice.take 1)).2.2 = .ok () ∧
    (((faulty none).apply (twice.take 1)).1.apply (twice.drop 1)).2.2 ≠ .ok () := by
  intro faulty barred
  obtain ⟨-, hfirst, -⟩ := Storage.apply_atomic (faulty (some 1)) twice
  obtain ⟨-, hsecond, -⟩ := Storage.apply_atomic (faulty (some 2)) twice
  obtain ⟨hbarred, -, -⟩ := Storage.apply_atomic barred twice
  obtain ⟨-, -, hnone⟩ := Storage.apply_atomic (faulty none) (twice.take 1)
  have hinjected : (faulty (some 1)).Ends twice (.error (.persistence (.transactionFailed
      ("injected failure at op " ++ toString 1 ++ " (" ++ (Write.insertClaim plot).label ++ ")"))))
      {} := by
    refine .injected rfl rfl ?_
    intro i hi e hfails
    obtain rfl : i = 0 := by omega
    obtain ⟨_, _, hu, hw, he⟩ := hfails
    cases hu
    cases hw
    cases he
  have hrefused : (faulty (some 2)).Ends twice
      (.error (.persistence (.insertFailed "claim" (road 0).text "already exists"))) {} :=
    .refused failsAt_twice (by rintro k ⟨⟩; omega)
  have hok : ((faulty none).apply (twice.take 1)).2.2 = .ok () := by rfl
  refine ⟨(((hfirst rfl).1 _ _).mp hinjected).1.symm,(((hsecond rfl).1 _ _).mp hrefused).1.symm, ?_,
    (hbarred rfl).2,hok, ?_⟩
  · rw [(hsecond rfl).2]
  · intro hnext
    have hwhole := (hnone rfl rfl (twice.drop 1)).1.mpr ⟨hok,hnext⟩
    cases hwhole

end Sample

end Freehold
