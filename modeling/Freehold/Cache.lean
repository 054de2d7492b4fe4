import Freehold.Marks

/-!
The memory of all claims. A claim is found by its cell, and the cells of a player and of a village
are found through two indices that follow every change. An index holds no empty set.
-/

namespace Freehold
open Std

abbrev LandIndex (κ : Type) [Ord κ] := ExtTreeMap κ CellSet

namespace LandIndex
variable {κ : Type} [Ord κ] [TransOrd κ]

def cells (index : LandIndex κ) (key : κ) : CellSet := index[key]?.getD ∅

def add (index : LandIndex κ) (key : κ) (cell : Cell) : LandIndex κ :=
  index.insert key ((index.cells key).insert cell)

def drop (index : LandIndex κ) (key : κ) (cell : Cell) : LandIndex κ :=
  let left := (index.cells key).erase cell
  -- The owner goes with the last cell.
  if left.isEmpty then index.erase key else index.insert key left

end LandIndex

structure Cache where
  byCell : ExtTreeMap Cell Claim := ∅
  byPlayer : LandIndex PlayerId := ∅
  byVillage : LandIndex VillageId := ∅
  marks : Marks := ∅

inductive CacheChange where
  -- A claim that was just made, with the free slot it uses up.
  | insert (claim : Claim)
  | upsert (claim : Claim)
  | remove (cell : Cell)
deriving DecidableEq

namespace Cache

def remove (c : Cache) (cell : Cell) : Cache :=
  match c.byCell[cell]? with
  | none => c
  | some claim =>
    let c := { c with byCell := c.byCell.erase cell }
    match claim.owner with
    | .personal p => { c with byPlayer := c.byPlayer.drop p cell }
    | .village v => { c with byVillage := c.byVillage.drop v cell }

def upsert (c : Cache) (claim : Claim) : Cache :=
  let c := c.remove claim.cell
  let c := { c with byCell := c.byCell.insert claim.cell claim }
  match claim.owner with
  | .personal p => { c with byPlayer := c.byPlayer.add p claim.cell }
  | .village v => { c with byVillage := c.byVillage.add v claim.cell }

/-- Remembers a claim that was just made, and raises the mark of its owner. -/
def insertClaimed (c : Cache) (claim : Claim) : Cache :=
  { c with marks := c.marks.raise claim }.upsert claim

def change (c : Cache) : CacheChange → Cache
  | .insert claim => c.insertClaimed claim
  | .upsert claim => c.upsert claim
  | .remove cell => c.remove cell

def changeAll (c : Cache) (changes : List CacheChange) : Cache := changes.foldl change c

/-- A cache of these rows. Of two rows for one cell the later counts. -/
def load (claims : List Claim) (marks : Marks) : Cache :=
  claims.foldl upsert { marks := marks }

def owner? (c : Cache) (cell : Cell) : Option Claim := c.byCell[cell]?

def isClaimed (c : Cache) (cell : Cell) : Bool := cell ∈ c.byCell

def cellsOf (c : Cache) (player : PlayerId) : List Cell := (c.byPlayer.cells player).toList

def landOf (c : Cache) (village : VillageId) : List Cell := (c.byVillage.cells village).toList

def countOf (c : Cache) (player : PlayerId) : Nat := (c.byPlayer.cells player).size

def landCount (c : Cache) (village : VillageId) : Nat := (c.byVillage.cells village).size

def markOf (c : Cache) (player : PlayerId) : UInt32 := c.marks.of player

def villagesWithLand (c : Cache) : List VillageId := c.byVillage.keys

structure Stats where
  cells : Nat
  players : Nat
  villages : Nat
deriving DecidableEq

def stats (c : Cache) : Stats := ⟨c.byCell.size,c.byPlayer.size,c.byVillage.size⟩

end Cache

end Freehold
