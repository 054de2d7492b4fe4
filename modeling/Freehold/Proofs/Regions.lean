import Mathlib.Combinatorics.Enumerative.DoubleCounting
import Freehold.Proofs.Components
import Freehold.Proofs.Moves
import Freehold.Region

/-!
The search for regions finds the connected components. What it visits besides the cells that it takes
from its queue was visited before, and what it takes from the queue has no edge with land that it does
not visit, so that each region is found whole and the next search cannot miss a path by leaving it out.
-/

namespace Freehold.Region
open Std

namespace Search
variable {land : CellSet} {s : Search} {a cell : Cell} {cells : List Cell}

theorem mem_visited_meet :
    a ∈ (s.meet land cell).visited ↔ a ∈ s.visited ∨ a ∈ land ∧ a = cell := by
  unfold meet
  split
  case isTrue h =>
    rw [ExtTreeSet.mem_insert, Std.compare_eq_iff_eq]
    constructor
    · rintro (rfl | ha)
      · exact .inr ⟨h.1,rfl⟩
      · exact .inl ha
    · rintro (ha | ⟨-,rfl⟩)
      · exact .inr ha
      · exact .inl rfl
  case isFalse h =>
    constructor
    · exact .inl
    · rintro (ha | ⟨hl,rfl⟩)
      · exact ha
      · by_contra hv
        exact h ⟨hl,hv⟩

theorem mem_queue_meet :
    a ∈ (s.meet land cell).queue ↔ a ∈ s.queue ∨ a ∈ land ∧ a ∉ s.visited ∧ a = cell := by
  unfold meet
  split
  case isTrue h =>
    rw [List.mem_append, List.mem_singleton]
    constructor
    · rintro (ha | rfl)
      · exact .inl ha
      · exact .inr ⟨h.1,h.2,rfl⟩
    · rintro (ha | ⟨-,-,rfl⟩)
      · exact .inl ha
      · exact .inr rfl
  case isFalse h =>
    constructor
    · exact .inl
    · rintro (ha | ⟨hl,hv,rfl⟩)
      · exact ha
      · exact absurd ⟨hl,hv⟩ h

theorem mem_visited_foldl_meet :
    a ∈ (cells.foldl (meet land) s).visited ↔ a ∈ s.visited ∨ a ∈ land ∧ a ∈ cells := by
  induction cells generalizing s with
  | nil => simp
  | cons cell cells ih => rw [List.foldl_cons, ih, mem_visited_meet, List.mem_cons]; tauto

theorem mem_queue_foldl_meet :
    a ∈ (cells.foldl (meet land) s).queue ↔
      a ∈ s.queue ∨ a ∈ land ∧ a ∉ s.visited ∧ a ∈ cells := by
  induction cells generalizing s with
  | nil => simp
  | cons cell cells ih =>
    rw [List.foldl_cons, ih, mem_queue_meet, mem_visited_meet, List.mem_cons]
    tauto

structure Fits (land : CellSet) (s : Search) : Prop where
  distinct : s.queue.Nodup
  owned : ∀ cell ∈ s.queue, cell ∈ land
  marked : ∀ cell ∈ s.queue, cell ∈ s.visited

/-- The queue lists visited cells of the land, each once, however many cells are looked at. -/
theorem Fits.meet (h : s.Fits land) (cell : Cell) : (s.meet land cell).Fits land := by
  unfold Search.meet
  split
  case isFalse => exact h
  case isTrue hc =>
    constructor
    case distinct =>
      refine List.nodup_append.mpr ⟨h.distinct,List.nodup_singleton _,fun a ha b hb => ?_⟩
      rw [List.mem_singleton] at hb
      rintro rfl
      exact hc.2 (hb ▸ h.marked a ha)
    case owned =>
      intro a ha
      rcases List.mem_append.mp ha with ha | ha
      · exact h.owned a ha
      · exact List.mem_singleton.mp ha ▸ hc.1
    case marked =>
      intro a ha
      rw [ExtTreeSet.mem_insert, Std.compare_eq_iff_eq]
      rcases List.mem_append.mp ha with ha | ha
      · exact .inr (h.marked a ha)
      · exact .inl (List.mem_singleton.mp ha).symm

theorem Fits.foldl_meet (h : s.Fits land) (cells : List Cell) :
    (cells.foldl (Search.meet land) s).Fits land := by
  induction cells generalizing s with
  | nil => exact h
  | cons cell cells ih => exact ih (h.meet cell)

end Search

structure Drains (land : CellSet) (s : Search) (found : List Cell) (visited : CellSet) : Prop where
  distinct : found.Nodup
  marks : ∀ cell, cell ∈ visited ↔ cell ∈ s.visited ∨ cell ∈ found
  queued : ∀ cell ∈ s.queue, cell ∈ found
  fresh : ∀ cell ∈ found, cell ∈ s.queue ∨ cell ∉ s.visited
  reached : ∀ cell ∈ found, ∃ start ∈ s.queue, Joined (· ∈ land) start cell
  closed : ∀ a ∈ found, ∀ b ∈ land, a.touches b = true → b ∈ visited

/-- One turn of the search: a cell is taken from the queue, and its neighbours are looked at. -/
theorem Drains.turn {land visited visited' : CellSet} {cell : Cell} {queue found : List Cell}
    (hs : Search.Fits land ⟨visited,cell :: queue⟩)
    (h : Drains land (cell.neighbours.foldl (Search.meet land) ⟨visited,queue⟩) found visited') :
    Drains land ⟨visited,cell :: queue⟩ (cell :: found) visited' := by
  let next := cell.neighbours.foldl (Search.meet land) ⟨visited,queue⟩
  have hvisited (c : Cell) : c ∈ next.visited ↔ c ∈ visited ∨ c ∈ land ∧ cell.touches c = true := by
    rw [Search.mem_visited_foldl_meet, Cell.mem_neighbours_iff]
  have hqueue (c : Cell) :
      c ∈ next.queue ↔ c ∈ queue ∨ c ∈ land ∧ c ∉ visited ∧ cell.touches c = true := by
    rw [Search.mem_queue_foldl_meet, Cell.mem_neighbours_iff]
  obtain ⟨hcell, hdistinct⟩ := List.nodup_cons.mp hs.distinct
  have hmarked : cell ∈ visited := hs.marked cell List.mem_cons_self
  constructor
  case distinct =>
    refine List.nodup_cons.mpr ⟨fun hc => ?_,h.distinct⟩
    rcases h.fresh cell hc with hq | hn
    · rcases (hqueue cell).mp hq with hq | ⟨-,hn,-⟩
      · exact hcell hq
      · exact hn hmarked
    · exact hn ((hvisited cell).mpr (.inl hmarked))
  case marks =>
    intro c
    rw [h.marks, hvisited, List.mem_cons]
    constructor
    · rintro ((hc | ⟨hl,ht⟩) | hc)
      · exact .inl hc
      · by_cases hv : c ∈ visited
        · exact .inl hv
        -- A neighbour that is new is queued, and the search finds what is queued.
        · exact .inr (.inr (h.queued c ((hqueue c).mpr (.inr ⟨hl,hv,ht⟩))))
      · exact .inr (.inr hc)
    · rintro (hc | rfl | hc)
      · exact .inl (.inl hc)
      · exact .inl (.inl hmarked)
      · exact .inr hc
  case queued =>
    intro c hc
    rcases List.mem_cons.mp hc with rfl | hc
    · exact List.mem_cons_self
    · exact List.mem_cons_of_mem _ (h.queued c ((hqueue c).mpr (.inl hc)))
  case fresh =>
    intro c hc
    rcases List.mem_cons.mp hc with rfl | hc
    · exact .inl List.mem_cons_self
    · rcases h.fresh c hc with hq | hn
      · rcases (hqueue c).mp hq with hq | ⟨-,hn,-⟩
        · exact .inl (List.mem_cons_of_mem _ hq)
        · exact .inr hn
      · exact .inr fun hv => hn ((hvisited c).mpr (.inl hv))
  case reached =>
    intro c hc
    have howned : cell ∈ land := hs.owned cell List.mem_cons_self
    rcases List.mem_cons.mp hc with rfl | hc
    · exact ⟨c,List.mem_cons_self,.here howned⟩
    · obtain ⟨start, hstart, hpath⟩ := h.reached c hc
      rcases (hqueue start).mp hstart with hq | ⟨hl,-,ht⟩
      · exact ⟨start,List.mem_cons_of_mem _ hq,hpath⟩
      · exact ⟨cell,List.mem_cons_self,(Joined.edge ht howned hl).trans hpath⟩
  case closed =>
    intro a ha b hb htouch
    rcases List.mem_cons.mp ha with rfl | ha
    · exact (h.marks b).mpr (.inl ((hvisited b).mpr (.inr ⟨hb,htouch⟩)))
    · exact h.closed a ha b hb htouch

/-- A search that works off its queue has found all that its cells are joined to. -/
theorem drains_drain (land : CellSet) (s : Search) (hs : s.Fits land) :
    Drains land s (drain land s).1 (drain land s).2 := by
  induction s using drain.induct land with
  | case1 visited =>
    rw [drain]
    exact ⟨.nil,by simp,by simp,by simp,by simp,by simp⟩
  | case2 visited cell queue ih =>
    have hrest : Search.Fits land ⟨visited,queue⟩ :=
      ⟨hs.distinct.of_cons,fun c hc => hs.owned c (List.mem_cons_of_mem _ hc),
        fun c hc => hs.marked c (List.mem_cons_of_mem _ hc)⟩
    rw [drain]
    exact .turn hs (ih (hrest.foldl_meet _))

namespace Drains
variable {land visited visited' : CellSet} {start cell : Cell} {found : List Cell}
  (h : Drains land ⟨visited.insert start,[start]⟩ found visited')
include h

theorem start_mem : start ∈ found := h.queued start (List.mem_singleton_self start)

theorem mem_iff : cell ∈ visited' ↔ cell ∈ visited ∨ cell ∈ found := by
  rw [h.marks, ExtTreeSet.mem_insert, Std.compare_eq_iff_eq]
  constructor
  · rintro ((rfl | hv) | hf)
    · exact .inr h.start_mem
    · exact .inl hv
    · exact .inr hf
  · rintro (hv | hf)
    · exact .inl (.inr hv)
    · exact .inr hf

/-- What is visited after a search has no edge with the rest, if that was so before. -/
theorem detached (hvisited : Detached (· ∈ land) (· ∈ visited)) :
    Detached (· ∈ land) (· ∈ visited') := by
  intro b c hb hc hin htouch
  rcases h.mem_iff.mp hin with hv | hf
  · exact h.mem_iff.mpr (.inl (hvisited b c hb hc hv htouch))
  · exact h.closed b hf c hc htouch

/-- A search finds what paths over cells that were not visited lead to. -/
theorem mem_found_iff (hvisited : Detached (· ∈ land) (· ∈ visited)) (hnew : start ∉ visited) :
    cell ∈ found ↔ Joined (fun c => c ∈ land ∧ c ∉ visited) start cell := by
  constructor
  · intro hc
    obtain ⟨other, ho, hpath⟩ := h.reached cell hc
    obtain rfl : other = start := List.mem_singleton.mp ho
    exact hpath.stays hvisited.compl hnew
  · intro hpath
    have hfound : Detached (fun c => c ∈ land ∧ c ∉ visited) (· ∈ found) := by
      intro b c _ hc hb htouch
      exact (h.mem_iff.mp (h.closed b hb c hc.1 htouch)).resolve_left hc.2
    exact (hpath.stays hfound h.start_mem).target.2

end Drains

/-- While what is visited has no edge with the rest of the land, a scan lists the components of that rest:
every search takes out one of them. -/
theorem components_scan (land : CellSet) (pending : List Cell) (visited : CellSet)
    (hasc : Cell.Ascending pending) (howned : ∀ cell ∈ pending, cell ∈ land)
    (hall : ∀ cell ∈ land, cell ∈ visited ∨ cell ∈ pending)
    (hvisited : Detached (· ∈ land) (· ∈ visited)) :
    Components (fun cell => cell ∈ land ∧ cell ∉ visited) (scan land pending visited) := by
  induction pending generalizing visited with
  | nil =>
    refine .nil fun cell ⟨hl,hv⟩ => ?_
    exact (hall cell hl).elim hv List.not_mem_nil
  | cons start pending ih =>
    obtain ⟨hfirst, hrest⟩ := List.pairwise_cons.mp hasc
    obtain ⟨hstart, howned'⟩ := List.forall_mem_cons.mp howned
    rw [scan]
    by_cases hv : start ∈ visited
    · rw [if_pos hv]
      refine ih visited hrest howned' (fun cell hl => ?_) hvisited
      rcases hall cell hl with hc | hc
      · exact .inl hc
      · rcases List.mem_cons.mp hc with rfl | hc
        · exact .inl hv
        · exact .inr hc
    · rw [if_neg hv]
      have hfits : Search.Fits land ⟨visited.insert start,[start]⟩ :=
        ⟨List.nodup_singleton start,by simpa using hstart,by simp⟩
      have hd := drains_drain land _ hfits
      have hnext := ih _ hrest howned' (fun cell hl => ?_) (hd.detached hvisited)
      · apply Components.cons start
        · intro cell
          rw [List.mem_mergeSort, hd.mem_found_iff hvisited hv]
        · exact ⟨hstart,hv⟩
        · exact .mergeSort hd.distinct
        -- The cells come in ascending order, so that this is the first of those not visited.
        · rintro cell ⟨hl, hnew⟩ hout
          rw [List.mem_mergeSort] at hout
          have hc := (hall cell hl).resolve_left hnew
          rcases List.mem_cons.mp hc with rfl | hc
          · exact absurd hd.start_mem hout
          · exact hfirst cell hc
        · apply hnext.congr
          intro cell
          rw [List.mem_mergeSort, hd.mem_iff, not_or, and_assoc]
      · rw [hd.mem_iff]
        rcases hall cell hl with hc | hc
        · exact .inl (.inl hc)
        · rcases List.mem_cons.mp hc with rfl | hc
          · exact .inl (.inr hd.start_mem)
          · exact .inr hc

/-- The groups of a list of cells are the components of the land that they make up. -/
theorem components_groups (cells : List Cell) : Components (· ∈ cells) (groups cells) := by
  have hmem (cell : Cell) : cell ∈ Cell.sorted cells ↔ cell ∈ (.ofList cells : CellSet) := by
    rw [Cell.sorted, ExtTreeSet.mem_toList]
  have hscan : Components (fun cell => cell ∈ (.ofList cells : CellSet) ∧ cell ∉ (∅ : CellSet))
      (groups cells) := by
    apply components_scan
    · exact .sorted cells
    · exact fun cell => (hmem cell).mp
    · exact fun cell hc => .inr ((hmem cell).mpr hc)
    · intro b c _ _ hb
      exact absurd hb ExtTreeSet.not_mem_empty
  apply hscan.congr
  intro cell
  rw [← hmem, Cell.mem_sorted]
  simp

/-- Order and repetition in the list make no difference. -/
theorem groups_congr {cells cells' : List Cell} (h : ∀ cell, cell ∈ cells' ↔ cell ∈ cells) :
    groups cells' = groups cells :=
  (components_groups cells').unique ((components_groups cells).congr h)

theorem groups_singleton (cell : Cell) : groups [cell] = [[cell]] := by
  apply (components_groups [cell]).unique
  apply Components.cons cell
  · intro c
    constructor
    · intro hc
      obtain rfl : c = cell := List.mem_singleton.mp hc
      exact .here hc
    · exact Joined.target
  · exact List.mem_singleton_self cell
  · exact List.pairwise_singleton _ cell
  · exact fun c hc hout => absurd hc hout
  · exact .nil fun c hc => hc.2 hc.1

/-- Land is one region when there is some, and any two of its cells are joined. -/
theorem length_groups_eq_one_iff (cells : List Cell) :
    (groups cells).length = 1 ↔
      cells ≠ [] ∧ ∀ a ∈ cells, ∀ b ∈ cells, Joined (· ∈ cells) a b := by
  have h := components_groups cells
  constructor
  · intro hlen
    obtain ⟨region, hr⟩ := List.length_eq_one_iff.mp hlen
    have hmem (c) : c ∈ cells ↔ c ∈ region := by
      rw [h.covers, hr]
      simp only [List.mem_singleton, exists_eq_left]
    have hregion : region ∈ groups cells := by rw [hr]; exact List.mem_singleton_self _
    obtain ⟨c, hc⟩ := List.exists_mem_of_ne_nil _ (h.filled region hregion)
    refine ⟨List.ne_nil_of_mem (h.mem hregion hc), fun a ha b hb => ?_⟩
    exact (h.classes region hregion a ((hmem a).mp ha) b).mp ((hmem b).mp hb)
  · rintro ⟨hne, hall⟩
    obtain ⟨c, hc⟩ := List.exists_mem_of_ne_nil _ hne
    obtain ⟨region, hr, hcr⟩ := (h.covers c).mp hc
    have hone (region') (hr' : region' ∈ groups cells) : region' = region := by
      obtain ⟨b, hb⟩ := List.exists_mem_of_ne_nil _ (h.filled region' hr')
      have hcb := (h.classes region hr c hcr b).mpr (hall c hc b (h.mem hr' hb))
      exact h.eq_of_mem hr' hr hb hcb
    have hle : (groups cells).length ≤ 1 :=
      List.nodup_replicate.mp (List.eq_replicate_of_mem hone ▸ h.nodup)
    have hpos := List.length_pos_of_mem hr
    omega

/-- Land that grows by cells joined to what was there falls into no more regions than before: two
regions that hold cells of one former region are the same. -/
theorem length_groups_le {cells cells' : List Cell} (hsub : ∀ cell ∈ cells, cell ∈ cells')
    (hjoin : ∀ cell ∈ cells', ∃ old ∈ cells, Joined (· ∈ cells') cell old) :
    (groups cells').length ≤ (groups cells).length := by
  have h := components_groups cells
  have h' := components_groups cells'
  rw [← List.toFinset_card_of_nodup h.nodup, ← List.toFinset_card_of_nodup h'.nodup]
  apply Finset.card_le_card_of_forall_subsingleton fun region' region =>
    ∃ cell ∈ region, cell ∈ region'
  · intro region' hr'
    rw [List.mem_toFinset] at hr'
    obtain ⟨c, hc⟩ := List.exists_mem_of_ne_nil _ (h'.filled region' hr')
    obtain ⟨old, ho, hpath⟩ := hjoin c (h'.mem hr' hc)
    obtain ⟨region, hr, hor⟩ := (h.covers old).mp ho
    exact ⟨region, List.mem_toFinset.mpr hr, old, hor, (h'.classes region' hr' c hc old).mpr hpath⟩
  · rintro region hr r₁ ⟨h₁, a, ha, ha₁⟩ r₂ ⟨h₂, b, hb, hb₂⟩
    rw [List.mem_toFinset] at hr h₁ h₂
    have hab := ((h.classes region hr a ha b).mp hb).mono hsub
    exact h'.eq_of_mem h₁ h₂ ((h'.classes r₁ h₁ a ha₁ b).mpr hab) hb₂

/-- Land to which one bordering cell is added. -/
theorem length_groups_of_borders {land land' : List Cell} {cell : Cell}
    (hb : borders land cell = true) (hland : ∀ c, c ∈ land' ↔ c = cell ∨ c ∈ land) :
    (groups land').length ≤ (groups land).length := by
  apply length_groups_le
  · intro c hc
    exact (hland c).mpr (.inr hc)
  · intro c hc
    rcases (hland c).mp hc with rfl | hold
    · obtain ⟨old, ho, htouch⟩ := List.any_eq_true.mp hb
      have hold := (hland old).mpr (.inr ho)
      exact ⟨old, ho, (Joined.edge htouch hold hc).symm⟩
    · exact ⟨c, hold, .here hc⟩

/-- The regions of any list of cells are the classes of the cells that are joined by a path of listed
cells, and no other list is: a partition of what is listed, each class once and ascending, in the
order of their smallest cells. They depend on the set of cells only, and there is one region just when
there are cells and any two are joined. -/
theorem groups_partition (cells : List Cell) :
    Equivalence (fun a b : {cell // cell ∈ cells} => Joined (· ∈ cells) a b) ∧
    (∀ regions, Components (· ∈ cells) regions ↔ regions = groups cells) ∧
    (groups cells).Pairwise List.Disjoint ∧
    (∀ cells', (∀ cell, cell ∈ cells' ↔ cell ∈ cells) → groups cells' = groups cells) ∧
    (isConnected cells = true ↔
      cells ≠ [] ∧ ∀ a ∈ cells, ∀ b ∈ cells, Joined (· ∈ cells) a b) := by
  have h := components_groups cells
  refine ⟨Joined.equivalence _, fun regions => ?_, h.disjoint, fun _ => groups_congr, ?_⟩
  · constructor
    · intro hr
      exact hr.unique h
    · rintro rfl
      exact h
  · rw [isConnected, beq_iff_eq]
    exact length_groups_eq_one_iff cells

/-- Opposite edges of the space do not touch, and a cell listed twice is one cell. -/
example : groups [⟨"w",Int32.maxValue,0⟩, ⟨"w",1,0⟩, ⟨"w",0,0⟩, ⟨"w",1,0⟩, ⟨"w",Int32.minValue,0⟩] =
    [[⟨"w",Int32.minValue,0⟩], [⟨"w",0,0⟩, ⟨"w",1,0⟩], [⟨"w",Int32.maxValue,0⟩]] := by
  cbv

end Freehold.Region
