import Freehold.Cache
import Freehold.Proofs.Keyed
import Freehold.Store.Faults

/-!
What a batch makes of each table. The claims and the marks depend only on the writes of claims,
which are also the changes that the cache has to follow, the audit trail only on its own writes, and
the tables about villages on what is filed there. A batch that is refused leaves no trace, whichever
write it was refused for.
-/

namespace Freehold
open Std

namespace CacheChange

def cell : CacheChange → Cell
  | insert claim => claim.cell
  | upsert claim => claim.cell
  | remove cell => cell

def claim? : CacheChange → Option Claim
  | insert claim => some claim
  | upsert claim => some claim
  | remove _ => none

def onClaims (claims : ExtTreeMap Cell Claim) : CacheChange → ExtTreeMap Cell Claim
  | insert claim => claims.insert claim.cell claim
  | upsert claim => claims.insert claim.cell claim
  | remove cell => claims.erase cell

def onMarks (marks : Marks) : CacheChange → Marks
  | insert claim => marks.raise claim
  | upsert _ => marks
  | remove _ => marks

/-- A change replaces or removes the claim of its own cell and looks at no other. -/
theorem getElem?_onClaims (claims : ExtTreeMap Cell Claim) (x : CacheChange) (k : Cell) :
    (x.onClaims claims)[k]? = if x.cell = k then x.claim? else claims[k]? := by
  cases x with
  | insert claim =>
    by_cases hk : claim.cell = k <;> simp [onClaims, cell, claim?, ExtTreeMap.getElem?_insert, hk]
  | upsert claim =>
    by_cases hk : claim.cell = k <;> simp [onClaims, cell, claim?, ExtTreeMap.getElem?_insert, hk]
  | remove gone =>
    by_cases hk : gone = k <;> simp [onClaims, cell, claim?, ExtTreeMap.getElem?_erase, hk]

theorem getElem?_foldl_onClaims_of_notMem (changes : List CacheChange) {k : Cell}
    (h : k ∉ changes.map cell) (claims : ExtTreeMap Cell Claim) :
    (changes.foldl onClaims claims)[k]? = claims[k]? := by
  induction changes generalizing claims with
  | nil => rfl
  | cons x changes ih =>
    simp only [List.map_cons, List.mem_cons, not_or] at h
    rw [List.foldl_cons, ih h.2, getElem?_onClaims, if_neg (Ne.symm h.1)]

/-- Where no cell is changed twice, each one ends as its change says. -/
theorem getElem?_foldl_onClaims_of_mem (changes : List CacheChange)
    (hn : (changes.map cell).Nodup) {x : CacheChange} (hx : x ∈ changes)
    (claims : ExtTreeMap Cell Claim) : (changes.foldl onClaims claims)[x.cell]? = x.claim? := by
  induction changes generalizing claims with
  | nil => cases hx
  | cons first changes ih =>
    rw [List.map_cons, List.nodup_cons] at hn
    rw [List.foldl_cons]
    rcases List.mem_cons.mp hx with rfl | hx
    · rw [getElem?_foldl_onClaims_of_notMem changes hn.1, getElem?_onClaims, if_pos rfl]
    · exact ih hn.2 hx _

/-- A claim that is there after changes was made by one of them, or was there before and its cell is
changed by none. -/
theorem eq_some_of_foldl_onClaims {changes : List CacheChange} {claims : ExtTreeMap Cell Claim}
    {k : Cell} {claim : Claim} (h : (changes.foldl onClaims claims)[k]? = some claim) :
    (∃ x ∈ changes, x.claim? = some claim) ∨
      (k ∉ changes.map cell ∧ claims[k]? = some claim) := by
  induction changes generalizing claims with
  | nil => exact .inr ⟨nofun,h⟩
  | cons first changes ih =>
    rcases ih h with ⟨x,hx,hc⟩ | ⟨hn,hc⟩
    · exact .inl ⟨x,List.mem_cons_of_mem _ hx,hc⟩
    · rw [getElem?_onClaims] at hc
      split at hc
      · exact .inl ⟨first,List.mem_cons_self,hc⟩
      · next hk =>
        have hnk : k ∉ (first :: changes).map cell := by
          rw [List.map_cons, List.mem_cons, not_or]
          exact ⟨Ne.symm hk,hn⟩
        exact .inr ⟨hnk,hc⟩

/-- Marks that none of these changes raises. -/
theorem foldl_onMarks_eq_self {changes : List CacheChange}
    (h : ∀ x ∈ changes, ∀ marks, onMarks marks x = marks) (marks : Marks) :
    changes.foldl onMarks marks = marks := by
  induction changes with
  | nil => rfl
  | cons x changes ih =>
    rw [List.foldl_cons, h x List.mem_cons_self]
    exact ih fun y hy => h y (List.mem_cons_of_mem _ hy)

end CacheChange

namespace Write

def change? : Write → Option CacheChange
  | insertClaim claim => some (.insert claim)
  | updateClaim claim => some (.upsert claim)
  | deleteClaim cell => some (.remove cell)
  | _ => none

def appended? : Write → Option HistoryEntry
  | appendHistory entry => some entry
  | _ => none

def village? : Write → Option Village
  | insertVillage village => some village
  | updateVillage village => some village
  | _ => none

def seat? : Write → Option (MemberKey × Option Membership)
  | upsertMembership m => some (m.key,some m)
  | deleteMembership key => some (key,none)
  | _ => none

def permit? : Write → Option (PermissionKey × Option Permission)
  | grantPermission p => some (p.key,some p)
  | revokePermission key => some (key,none)
  | _ => none

end Write

def setRow {κ ν : Type} [Ord κ] [TransOrd κ] (table : ExtTreeMap κ ν) :
    κ × Option ν → ExtTreeMap κ ν
  | (k,some row) => table.insert k row
  | (k,none) => table.erase k

section SetRow
variable {κ ν : Type} [Ord κ] [TransOrd κ] [LawfulEqOrd κ] [DecidableEq κ]

theorem getElem?_setRow (table : ExtTreeMap κ ν) (place : κ) (row : Option ν) (k : κ) :
    (setRow table (place,row))[k]? = if place = k then row else table[k]? := by
  cases row <;> simp [setRow, ExtTreeMap.getElem?_insert, ExtTreeMap.getElem?_erase]

/-- After rows were put in, a place is as it was or as one of them says. -/
theorem getElem?_foldl_setRow_cases (rows : List (κ × Option ν)) (table : ExtTreeMap κ ν) (k : κ) :
    (rows.foldl setRow table)[k]? = table[k]? ∨
      ∃ x ∈ rows, x.1 = k ∧ (rows.foldl setRow table)[k]? = x.2 := by
  induction rows generalizing table with
  | nil => exact .inl rfl
  | cons first rows ih =>
    obtain ⟨place, row⟩ := first
    rw [List.foldl_cons]
    rcases ih (setRow table (place,row)) with h | ⟨x,hx,hk,h⟩
    · rw [h, getElem?_setRow]
      split
      · next hk => exact .inr ⟨_,List.mem_cons_self,hk,rfl⟩
      · exact .inl rfl
    · exact .inr ⟨x,List.mem_cons_of_mem _ hx,hk,h⟩

end SetRow

structure Filings where
  villages : List Village := []
  seats : List (MemberKey × Option Membership) := []
  permits : List (PermissionKey × Option Permission) := []

namespace Batch

def changes (b : Batch) : List CacheChange := b.filterMap Write.change?

def entries (b : Batch) : List HistoryEntry := b.filterMap Write.appended?

def filings (b : Batch) : Filings :=
  ⟨b.filterMap Write.village?,b.filterMap Write.seat?,b.filterMap Write.permit?⟩

@[simp] theorem changes_append (a b : Batch) : changes (a ++ b) = changes a ++ changes b :=
  List.filterMap_append

@[simp] theorem entries_append (a b : Batch) : entries (a ++ b) = entries a ++ entries b :=
  List.filterMap_append

@[simp] theorem changes_map {α : Type} (xs : List α) (f : α → Write) :
    changes (xs.map f) = xs.filterMap fun x => (f x).change? :=
  List.filterMap_map

@[simp] theorem entries_map {α : Type} (xs : List α) (f : α → Write) :
    entries (xs.map f) = xs.filterMap fun x => (f x).appended? :=
  List.filterMap_map

@[simp] theorem changes_flatMap {α : Type} (xs : List α) (f : α → Batch) :
    changes (xs.flatMap f) = xs.flatMap fun x => changes (f x) :=
  List.filterMap_flatMap

@[simp] theorem entries_flatMap {α : Type} (xs : List α) (f : α → Batch) :
    entries (xs.flatMap f) = xs.flatMap fun x => entries (f x) :=
  List.filterMap_flatMap

end Batch

namespace Store
variable {s t : Store} {w : Write} {b : Batch}

def Takes (s : Store) : Write → Prop
  | .insertClaim claim => claim.cell ∉ s.claims
  | .updateClaim claim => claim.cell ∈ s.claims
  | .deleteClaim cell => cell ∈ s.claims
  | .insertVillage village => village.id ∉ s.villages
  | .updateVillage village => village.id ∈ s.villages
  | .deleteMembership key => key ∈ s.memberships
  | .revokePermission key => key ∈ s.permissions
  | .appendHistory _ | .upsertMembership _ | .grantPermission _ => True

def put (s : Store) : Write → Store
  | .insertClaim claim =>
    { s with claims := s.claims.insert claim.cell claim, marks := s.marks.raise claim }
  | .updateClaim claim => { s with claims := s.claims.insert claim.cell claim }
  | .deleteClaim cell => { s with claims := s.claims.erase cell }
  | .appendHistory entry => { s with history := s.history ++ [entry] }
  | .insertVillage village => { s with villages := s.villages.insert village.id village }
  | .updateVillage village => { s with villages := s.villages.insert village.id village }
  | .upsertMembership m => { s with memberships := s.memberships.insert m.key m }
  | .deleteMembership key => { s with memberships := s.memberships.erase key }
  | .grantPermission p => { s with permissions := s.permissions.insert p.key p }
  | .revokePermission key => { s with permissions := s.permissions.erase key }

/-- A write is taken when it finds the row that it needs, or the place that it needs free, and puts
its row there. -/
theorem write_eq_ok_iff : s.write w = .ok t ↔ s.Takes w ∧ t = s.put w := by
  cases w <;> simp only [write, Takes, put]
  case appendHistory | upsertMembership | grantPermission => simp [eq_comm]
  all_goals split <;> simp_all [eq_comm]

/-- What a write does to the table of claims is what it tells the cache. -/
theorem claims_put (s : Store) (w : Write) :
    (s.put w).claims = w.change?.toList.foldl CacheChange.onClaims s.claims := by
  cases w <;> rfl

theorem marks_put (s : Store) (w : Write) :
    (s.put w).marks = w.change?.toList.foldl CacheChange.onMarks s.marks := by
  cases w <;> rfl

theorem villages_put (s : Store) (w : Write) :
    (s.put w).villages = w.village?.toList.foldl (fun t v => t.insert v.id v) s.villages := by
  cases w <;> rfl

theorem memberships_put (s : Store) (w : Write) :
    (s.put w).memberships = w.seat?.toList.foldl setRow s.memberships := by
  cases w <;> rfl

theorem permissions_put (s : Store) (w : Write) :
    (s.put w).permissions = w.permit?.toList.foldl setRow s.permissions := by
  cases w <;> rfl

theorem history_put (s : Store) (w : Write) :
    (s.put w).history = s.history ++ w.appended?.toList := by
  cases w <;> simp [put, Write.appended?]

/-- A batch that is taken was taken write by write. -/
theorem writeAll_cons_eq_ok_iff :
    s.writeAll (w :: b) = .ok t ↔ s.Takes w ∧ (s.put w).writeAll b = .ok t := by
  rw [writeAll]
  cases hw : s.write w with
  | ok u =>
    obtain ⟨htakes, rfl⟩ := write_eq_ok_iff.mp hw
    simp [htakes]
  | error e =>
    have hn : ¬s.Takes w := by
      intro htakes
      rw [write_eq_ok_iff.mpr ⟨htakes,rfl⟩] at hw
      cases hw
    simp [hn]

/-- A part of the tables after a batch, when `told` is what a write tells that part. -/
theorem foldl_writeAll {α β : Type} {part : Store → α} {told : Write → Option β}
    {step : α → β → α}
    (hput : ∀ s w, part (s.put w) = (told w).toList.foldl step (part s))
    (h : s.writeAll b = .ok t) : part t = (b.filterMap told).foldl step (part s) := by
  induction b generalizing s with
  | nil => cases h; rfl
  | cons w b ih =>
    rw [ih (writeAll_cons_eq_ok_iff.mp h).2, hput, ← List.foldl_append]
    cases hc : told w <;> simp [hc]

theorem claims_writeAll (h : s.writeAll b = .ok t) :
    t.claims = (Batch.changes b).foldl CacheChange.onClaims s.claims :=
  foldl_writeAll claims_put h

theorem marks_writeAll (h : s.writeAll b = .ok t) :
    t.marks = (Batch.changes b).foldl CacheChange.onMarks s.marks :=
  foldl_writeAll marks_put h

theorem history_writeAll (h : s.writeAll b = .ok t) : t.history = s.history ++ Batch.entries b := by
  induction b generalizing s with
  | nil => cases h; simp [Batch.entries]
  | cons w b ih =>
    rw [ih (writeAll_cons_eq_ok_iff.mp h).2, history_put, List.append_assoc]
    cases he : w.appended? <;> simp [Batch.entries, he]

structure Filed (s t : Store) (f : Filings) : Prop where
  villages : t.villages = f.villages.foldl (fun t v => t.insert v.id v) s.villages
  memberships : t.memberships = f.seats.foldl setRow s.memberships
  permissions : t.permissions = f.permits.foldl setRow s.permissions

/-- A batch leaves the three tables about villages as its filings say. -/
theorem filed_of_writeAll (h : s.writeAll b = .ok t) : s.Filed t (Batch.filings b) :=
  ⟨foldl_writeAll villages_put h,foldl_writeAll memberships_put h,
    foldl_writeAll permissions_put h⟩

structure RowsKeyed (s : Store) : Prop where
  claims : Keyed Claim.cell s.claims
  villages : Keyed Village.id s.villages
  memberships : Keyed Membership.key s.memberships
  permissions : Keyed Permission.key s.permissions

theorem rowsKeyed_empty : RowsKeyed {} := ⟨keyed_empty,keyed_empty,keyed_empty,keyed_empty⟩

theorem RowsKeyed.put (h : s.RowsKeyed) (w : Write) : (s.put w).RowsKeyed := by
  obtain ⟨hc, hv, hm, hp⟩ := h
  cases w with
  | insertClaim | updateClaim => exact ⟨hc.insert _,hv,hm,hp⟩
  | deleteClaim => exact ⟨hc.erase _,hv,hm,hp⟩
  | appendHistory => exact ⟨hc,hv,hm,hp⟩
  | insertVillage | updateVillage => exact ⟨hc,hv.insert _,hm,hp⟩
  | upsertMembership => exact ⟨hc,hv,hm.insert _,hp⟩
  | deleteMembership => exact ⟨hc,hv,hm.erase _,hp⟩
  | grantPermission => exact ⟨hc,hv,hm,hp.insert _⟩
  | revokePermission => exact ⟨hc,hv,hm,hp.erase _⟩

theorem RowsKeyed.writeAll (hk : s.RowsKeyed) (h : s.writeAll b = .ok t) : t.RowsKeyed := by
  induction b generalizing s with
  | nil => cases h; exact hk
  | cons w b ih => exact ih (hk.put w) (writeAll_cons_eq_ok_iff.mp h).2

end Store

namespace Storage

/-- A batch that came to its end met no arranged failure on the way. -/
theorem writeAll_of_writeUntil {s t : Store} {failAt : Option Nat} {b : Batch}
    (h : writeUntil s failAt b = .done t) : s.writeAll b = .ok t := by
  fun_induction writeUntil s failAt b with
  | case1 => cases h; rfl
  | case2 => cases h
  | case3 s failAt w b _ u hu ih =>
    rw [Store.writeAll, hu]
    exact ih h
  | case4 => cases h

/-- A batch is taken as a whole, or refused with the tables left as they were. -/
theorem apply_cases (s : Storage) (b : Batch) :
    ((s.apply b).2.2 = .ok () ∧ s.tables.writeAll b = .ok (s.apply b).1.tables) ∨
      ∃ cause, (s.apply b).2.2 = .error (.persistence cause) ∧
        (s.apply b).1.tables = s.tables := by
  unfold apply
  dsimp only
  split
  · exact .inr ⟨_,rfl,rfl⟩
  · split
    · next t ht => exact .inl ⟨rfl,writeAll_of_writeUntil ht⟩
    · exact .inr ⟨_,rfl,rfl⟩
    · exact .inr ⟨_,rfl,rfl⟩

end Storage

end Freehold
