import Freehold.Proofs.Batch

/-!
What changes of the cache make of the claims and the marks in it: what the writes they follow make
of the tables. The two indices beside them are not looked at here.
-/

namespace Freehold
open Std

namespace Cache

theorem byCell_remove (c : Cache) (cell : Cell) : (c.remove cell).byCell = c.byCell.erase cell := by
  unfold remove
  cases h : c.byCell[cell]? with
  | none =>
    apply ExtTreeMap.ext_getElem?
    intro k
    by_cases hk : cell = k
    · subst hk
      rw [ExtTreeMap.getElem?_erase_self]
      exact h
    · simp [ExtTreeMap.getElem?_erase, hk]
  | some claim => cases ho : claim.owner <;> simp only [ho]

theorem marks_remove (c : Cache) (cell : Cell) : (c.remove cell).marks = c.marks := by
  unfold remove
  cases c.byCell[cell]? with
  | none => rfl
  | some claim => cases ho : claim.owner <;> simp only [ho]

theorem byCell_upsert (c : Cache) (claim : Claim) :
    (c.upsert claim).byCell = c.byCell.insert claim.cell claim := by
  have hr : (c.upsert claim).byCell = (c.remove claim.cell).byCell.insert claim.cell claim := by
    unfold upsert
    cases claim.owner <;> rfl
  rw [hr, byCell_remove]
  apply ExtTreeMap.ext_getElem?
  intro k
  by_cases hk : claim.cell = k <;>
    simp [ExtTreeMap.getElem?_insert, ExtTreeMap.getElem?_erase, hk]

theorem marks_upsert (c : Cache) (claim : Claim) : (c.upsert claim).marks = c.marks := by
  have hr : (c.upsert claim).marks = (c.remove claim.cell).marks := by
    unfold upsert
    cases claim.owner <;> rfl
  rw [hr, marks_remove]

/-- A change is made to the claims of the cache as it is made to a table of claims. -/
theorem byCell_change (c : Cache) (x : CacheChange) :
    (c.change x).byCell = x.onClaims c.byCell := by
  cases x with
  | insert claim => exact byCell_upsert _ claim
  | upsert claim => exact byCell_upsert c claim
  | remove cell => exact byCell_remove c cell

theorem marks_change (c : Cache) (x : CacheChange) : (c.change x).marks = x.onMarks c.marks := by
  cases x with
  | insert claim => exact marks_upsert _ claim
  | upsert claim => exact marks_upsert c claim
  | remove cell => exact marks_remove c cell

theorem byCell_changeAll (c : Cache) (changes : List CacheChange) :
    (c.changeAll changes).byCell = changes.foldl CacheChange.onClaims c.byCell := by
  induction changes generalizing c with
  | nil => rfl
  | cons x changes ih => rw [List.foldl_cons, ← byCell_change, ← ih]; rfl

theorem marks_changeAll (c : Cache) (changes : List CacheChange) :
    (c.changeAll changes).marks = changes.foldl CacheChange.onMarks c.marks := by
  induction changes generalizing c with
  | nil => rfl
  | cons x changes ih => rw [List.foldl_cons, ← marks_change, ← ih]; rfl

theorem byCell_foldl_upsert (c : Cache) (claims : List Claim) :
    (claims.foldl upsert c).byCell = claims.foldl (fun t r => t.insert r.cell r) c.byCell := by
  induction claims generalizing c with
  | nil => rfl
  | cons claim claims ih => rw [List.foldl_cons, List.foldl_cons, ih, byCell_upsert]

theorem marks_load (claims : List Claim) (marks : Marks) : (load claims marks).marks = marks := by
  have hc (c : Cache) : (claims.foldl upsert c).marks = c.marks := by
    induction claims generalizing c with
    | nil => rfl
    | cons claim claims ih => rw [List.foldl_cons, ih, marks_upsert]
  exact hc _

/-- A cache that is loaded from the rows of a table of claims has the table's claims. -/
theorem byCell_load {table : ExtTreeMap Cell Claim} (h : Keyed Claim.cell table)
    {claims : List Claim} (hp : claims.Perm table.values) (marks : Marks) :
    (load claims marks).byCell = table := by
  rw [load, byCell_foldl_upsert]
  exact foldl_insert_of_perm h hp

def gain (c : Cache) (claim : Claim) : Cache where
  byCell := c.byCell.insert claim.cell claim
  byPlayer :=
    match claim.owner with
    | .personal p => c.byPlayer.add p claim.cell
    | .village _ => c.byPlayer
  byVillage :=
    match claim.owner with
    | .personal _ => c.byVillage
    | .village v => c.byVillage.add v claim.cell
  marks := c.marks

/-- Remembering the claim of an unknown cell adds it and touches nothing else. -/
theorem upsert_eq_gain {c : Cache} {claim : Claim} (h : c.owner? claim.cell = none) :
    c.upsert claim = c.gain claim := by
  have hr : c.remove claim.cell = c := by
    simp only [remove, show c.byCell[claim.cell]? = none from h]
  unfold upsert gain
  rw [hr]
  cases claim.owner <;> rfl

end Cache

end Freehold
