import Freehold.Order

/-!
Cells of land. A cell lies in a named world at two 32-bit coordinates, and cells are ordered by
world, then `x`, then `z`. The coordinate space has edges: a step over one leads nowhere, and
opposite edges do not touch.
-/

namespace Freehold
open Std

structure Cell where
  world : String
  x : Int32
  z : Int32
deriving DecidableEq

abbrev Cell.order : Cell → Cell → Ordering :=
  compareLex (compareOn Cell.world) (compareLex (compareOn Cell.x) (compareOn Cell.z))

namespace Cell

instance : Ord Cell := ⟨Cell.order⟩

instance : TransOrd Cell := inferInstanceAs (TransCmp Cell.order)

instance : LawfulEqOrd Cell where
  compare_self {a} := (ReflCmp.compare_self : order a a = .eq)
  eq_of_compare {a b} h := by
    have h' : Cell.order a b = .eq := h
    simp only [compareLex_eq_eq, compareOn, Std.compare_eq_iff_eq] at h'
    obtain ⟨hw,hx,hz⟩ := h'
    cases a; cases b; simp_all

def text (c : Cell) : String :=
  c.world ++ "(" ++ toString c.x.toInt ++ "," ++ toString c.z.toInt ++ ")"

def shift? (a d : Int32) : Option Int32 :=
  let s := a.toInt+d.toInt
  if Int32.minValue.toInt ≤ s ∧ s ≤ Int32.maxValue.toInt then some (Int32.ofInt s) else none

def offset? (c : Cell) (dx dz : Int32) : Option Cell :=
  match shift? c.x dx, shift? c.z dz with
  | some x, some z => some ⟨c.world,x,z⟩
  | _, _ => none

/-- The four sides of a cell, in the order in which neighbours are listed. -/
def sides : List (Int32 × Int32) := [(0,1), (0,-1), (1,0), (-1,0)]

def neighbours (c : Cell) : List Cell := sides.filterMap fun (dx,dz) => c.offset? dx dz

/-- Two cells touch when they lie one apart along exactly one axis of the same world. -/
def touches (a b : Cell) : Bool :=
  a.world == b.world && (a.x.toInt-b.x.toInt).natAbs + (a.z.toInt-b.z.toInt).natAbs == 1

end Cell

abbrev CellSet := ExtTreeSet Cell

def Cell.sorted (cells : List Cell) : List Cell := (ExtTreeSet.ofList cells).toList

end Freehold
