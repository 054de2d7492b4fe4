import Freehold.Cell

/-!
Connected land. The cells of a list fall into regions: two cells are in one region when a path of
listed cells, each touching the next, leads from one to the other. Regions are listed by their
smallest cells, each in ascending order.
-/

namespace Freehold.Region
open Std

/-- Where a search of the land stands: the cells that it came upon, and the queue of those whose
neighbours it did not look at yet. -/
structure Search where
  visited : CellSet
  queue : List Cell

namespace Search

def meet (land : CellSet) (s : Search) (cell : Cell) : Search :=
  if cell ∈ land ∧ cell ∉ s.visited then ⟨s.visited.insert cell, s.queue ++ [cell]⟩ else s

def ahead (land : CellSet) (s : Search) : Nat :=
  s.queue.length + (land.toList.filter (· ∉ s.visited)).length

theorem ahead_meet_le (land : CellSet) (s : Search) (cell : Cell) :
    (s.meet land cell).ahead land ≤ s.ahead land := by
  unfold meet
  split
  case isFalse => exact Nat.le_refl _
  case isTrue h =>
    -- The cell is one more in the queue and one less among those not visited.
    have hfilter : land.toList.filter (· ∉ s.visited.insert cell) =
        (land.toList.filter (· ∉ s.visited)).filter (· ≠ cell) := by
      rw [List.filter_filter]
      apply List.filter_congr
      intro c _
      rw [← Bool.decide_and, decide_eq_decide, ExtTreeSet.mem_insert, Std.compare_eq_iff_eq,
        not_or, eq_comm]
    have hlt : (land.toList.filter (· ∉ s.visited.insert cell)).length <
        (land.toList.filter (· ∉ s.visited)).length := by
      rw [hfilter, List.length_filter_lt_length_iff_exists]
      exact ⟨cell, by simpa using h, by simp⟩
    simp only [ahead, List.length_append, List.length_singleton]
    omega

theorem ahead_foldl_meet_le (land : CellSet) (s : Search) (cells : List Cell) :
    (cells.foldl (meet land) s).ahead land ≤ s.ahead land := by
  induction cells generalizing s with
  | nil => exact Nat.le_refl _
  | cons cell cells ih => exact Nat.le_trans (ih _) (ahead_meet_le land s cell)

end Search

@[semireducible] def drain (land : CellSet) : Search → List Cell × CellSet
  | ⟨visited, []⟩ => ([], visited)
  | ⟨visited, cell :: queue⟩ =>
    let found := drain land (cell.neighbours.foldl (Search.meet land) ⟨visited,queue⟩)
    (cell :: found.1, found.2)
termination_by s => s.ahead land
decreasing_by
  have hle := Search.ahead_foldl_meet_le land ⟨visited,queue⟩ cell.neighbours
  simp only [Search.ahead, List.length_cons] at hle ⊢
  omega

def scan (land : CellSet) : List Cell → CellSet → List (List Cell)
  | [], _ => []
  | start :: pending, visited =>
    if start ∈ visited then scan land pending visited
    else
      let found := drain land ⟨visited.insert start,[start]⟩
      found.1.mergeSort (fun a b => (compare a b).isLE) :: scan land pending found.2

def groups (cells : List Cell) : List (List Cell) :=
  scan (.ofList cells) (Cell.sorted cells) ∅

/-- One region, and not none. -/
def isConnected (cells : List Cell) : Bool := (groups cells).length == 1

def borders (region : List Cell) (cell : Cell) : Bool := region.any (·.touches cell)

end Freehold.Region
