import Mathlib.Data.List.Pairwise
import Freehold.Proofs.Adjacency

/-!
Connected components of land. They are the classes of the cells that a path joins, and there is one way
to list them. Paths do not leave a part of the land that has no edge with the rest, so that one component
can be split off and the others found in what remains.
-/

namespace Freehold
open Std

abbrev Cell.Ascending (cells : List Cell) : Prop := cells.Pairwise fun a b => compare a b = .lt

namespace Cell.Ascending
variable {cells cells' : List Cell}

theorem nodup (h : Ascending cells) : cells.Nodup := by
  apply h.imp
  intro a b hab he
  rw [he, compare_self] at hab
  exact Ordering.noConfusion hab

/-- A set of cells is listed in ascending order in one way only. -/
theorem eq_of_mem_iff (h : Ascending cells) (h' : Ascending cells')
    (hmem : ∀ cell, cell ∈ cells ↔ cell ∈ cells') : cells = cells' := by
  refine List.Perm.eq_of_pairwise (fun a b _ _ hab hba => ?_) h h'
    ((List.perm_ext_iff_of_nodup h.nodup h'.nodup).mpr hmem)
  exact absurd hba (OrientedCmp.not_lt_of_lt hab)

theorem sorted (cells : List Cell) : Ascending (Cell.sorted cells) := ExtTreeSet.ordered_toList

/-- Nothing bad comes before the smallest bad cell. -/
theorem exists_split {cell : Cell} {bad : Cell → Prop} (h : Ascending cells) (hc : cell ∈ cells)
    (hleast : ∀ other ∈ cells, bad other → compare other cell ≠ .lt) :
    ∃ before after, cells = before ++ cell :: after ∧ ∀ c ∈ before, ¬bad c := by
  obtain ⟨before, after, rfl⟩ := List.append_of_mem hc
  refine ⟨before,after,rfl,fun c hm hbad => ?_⟩
  apply hleast c (List.mem_append_left _ hm) hbad
  exact (List.pairwise_append.mp h).2.2 c hm cell List.mem_cons_self

/-- Sorting distinct cells puts them in strictly ascending order. -/
theorem mergeSort (h : cells.Nodup) :
    Ascending (cells.mergeSort fun a b => (compare a b).isLE) := by
  let le (a b : Cell) : Bool := (compare a b).isLE
  have htrans (a b c : Cell) (hab : le a b = true) (hbc : le b c = true) : le a c = true :=
    TransCmp.isLE_trans hab hbc
  have htotal (a b : Cell) : (le a b || le b a) = true := by
    have hswap : compare b a = (compare a b).swap := OrientedCmp.eq_swap
    simp only [le, hswap]
    cases compare a b <;> rfl
  have hdistinct : (cells.mergeSort le).Nodup := (List.mergeSort_perm cells le).nodup_iff.mpr h
  apply (List.pairwise_mergeSort htrans htotal cells).imp₂ _ hdistinct
  intro a b hle hne
  cases hab : compare a b with
  | lt => rfl
  | eq => exact absurd (Std.compare_eq_iff_eq.mp hab) hne
  | gt => simp only [le, hab] at hle; cases hle

end Cell.Ascending

namespace Region

/-- A path of cells of the land leads from `a` to the other cell, each touching the next. -/
inductive Joined (land : Cell → Prop) (a : Cell) : Cell → Prop where
  | here (owned : land a) : Joined land a a
  | step {b c : Cell} (path : Joined land a b) (edge : b.touches c = true) (owned : land c) :
    Joined land a c

/-- The part has no edge with the rest of the land. -/
def Detached (land part : Cell → Prop) : Prop :=
  ∀ b c, land b → land c → part b → b.touches c = true → part c

/-- Where a part has no edge with the rest of the land, the rest has none with it. -/
theorem Detached.compl {land part : Cell → Prop} (h : Detached land part) :
    Detached land fun cell => ¬part cell := by
  intro b c hb hc hout edge hin
  have hback : c.touches b = true := by rw [Cell.touches_comm, edge]
  exact hout (h c b hc hb hin hback)

namespace Joined
variable {land wider part : Cell → Prop} {a b c : Cell}

theorem target (h : Joined land a b) : land b := by
  cases h with
  | here owned => exact owned
  | step _ _ owned => exact owned

theorem edge (h : a.touches b = true) (ha : land a) (hb : land b) : Joined land a b :=
  .step (.here ha) h hb

theorem trans (hab : Joined land a b) (hbc : Joined land b c) : Joined land a c := by
  induction hbc with
  | here _ => exact hab
  | step _ edge owned ih => exact .step ih edge owned

/-- Paths can be walked backwards, as cells touch each other. -/
theorem symm (h : Joined land a b) : Joined land b a := by
  induction h with
  | here owned => exact .here owned
  | @step b c path htouch owned ih =>
    have hback : c.touches b = true := by rw [Cell.touches_comm, htouch]
    exact (edge hback owned path.target).trans ih

theorem mono (h : Joined land a b) (hw : ∀ cell, land cell → wider cell) : Joined wider a b := by
  induction h with
  | here owned => exact .here (hw _ owned)
  | step _ edge owned ih => exact .step ih edge (hw _ owned)

/-- A path stays in a part of the land that has no edge with the rest. -/
theorem stays (h : Joined land a b) (hpart : Detached land part) (ha : part a) :
    Joined (fun cell => land cell ∧ part cell) a b := by
  induction h with
  | here owned => exact .here ⟨owned,ha⟩
  | @step b c _ edge owned ih =>
    obtain ⟨hb, hin⟩ := ih.target
    exact .step ih edge ⟨owned,hpart b c hb owned hin edge⟩

/-- Being joined on the land is an equivalence of its cells. -/
theorem equivalence (land : Cell → Prop) :
    Equivalence fun a b : {cell // land cell} => Joined land a b where
  refl a := .here a.2
  symm := symm
  trans := trans

end Joined

structure Components (land : Cell → Prop) (regions : List (List Cell)) : Prop where
  covers : ∀ cell, land cell ↔ ∃ region ∈ regions, cell ∈ region
  classes : ∀ region ∈ regions, ∀ a ∈ region, ∀ b, b ∈ region ↔ Joined land a b
  filled : ∀ region ∈ regions, region ≠ []
  ascending : ∀ region ∈ regions, Cell.Ascending region
  ordered : regions.Pairwise fun earlier later =>
    ∀ first, earlier.head? = some first → ∀ cell ∈ later, compare first cell = .lt

namespace Components
variable {land : Cell → Prop} {regions regions' : List (List Cell)} {region region' : List Cell}
  {a : Cell}

theorem mem (h : Components land regions) (hr : region ∈ regions) (ha : a ∈ region) : land a :=
  (h.covers a).mpr ⟨region,hr,ha⟩

/-- Components depend on the cells of the land only. -/
theorem congr {land' : Cell → Prop} (h : Components land regions)
    (hland : ∀ cell, land' cell ↔ land cell) : Components land' regions := by
  obtain rfl : land' = land := funext fun cell => propext (hland cell)
  exact h

/-- Two regions have no cell in common: the first cell of the earlier one would be in the later. -/
theorem disjoint (h : Components land regions) : regions.Pairwise List.Disjoint := by
  apply h.ordered.imp_of_mem
  intro earlier later he hl hlt cell hce hcl
  have hhead := List.head?_eq_some_head (h.filled earlier he)
  have hfirst := List.head_mem (h.filled earlier he)
  have hjoin := (h.classes earlier he cell hce _).mp hfirst
  have hlater := (h.classes later hl cell hcl _).mpr hjoin
  exact absurd (hlt _ hhead _ hlater) (by rw [compare_self]; decide)

theorem nodup (h : Components land regions) : regions.Nodup := by
  apply h.disjoint.imp_of_mem
  intro earlier later he _ hd heq
  obtain ⟨cell, hc⟩ := List.exists_mem_of_ne_nil _ (h.filled earlier he)
  exact hd hc (heq ▸ hc)

theorem eq_of_mem (h : Components land regions) (hr : region ∈ regions) (hr' : region' ∈ regions)
    (ha : a ∈ region) (ha' : a ∈ region') : region = region' := by
  by_contra hne
  have hsymm : Std.Symm (@List.Disjoint Cell) := ⟨fun _ _ => List.disjoint_symm⟩
  exact h.disjoint.forall hr hr' hne ha ha'

/-- A region of one list is one of the other: both hold all that is joined to a cell of it. -/
theorem mem_of_mem (h : Components land regions) (h' : Components land regions')
    (hr : region ∈ regions) : region ∈ regions' := by
  obtain ⟨a, ha⟩ := List.exists_mem_of_ne_nil _ (h.filled region hr)
  obtain ⟨region', hr', ha'⟩ := (h'.covers a).mp (h.mem hr ha)
  have hsame : region = region' := by
    apply (h.ascending region hr).eq_of_mem_iff (h'.ascending region' hr')
    intro c
    rw [h.classes region hr a ha, h'.classes region' hr' a ha']
  exact hsame ▸ hr'

/-- There is one list of components. -/
theorem unique (h : Components land regions) (h' : Components land regions') :
    regions = regions' := by
  refine List.Perm.eq_of_pairwise (fun r r' hr hr' hlt hgt => ?_) h.ordered h'.ordered
    ((List.perm_ext_iff_of_nodup h.nodup h'.nodup).mpr fun r =>
      ⟨h.mem_of_mem h',h'.mem_of_mem h⟩)
  have hne := h.filled r hr
  have hne' := h'.filled r' hr'
  have hfirst := hlt _ (List.head?_eq_some_head hne) _ (List.head_mem hne')
  have hback := hgt _ (List.head?_eq_some_head hne') _ (List.head_mem hne)
  exact absurd hback (OrientedCmp.not_lt_of_lt hfirst)

theorem nil (h : ∀ cell, ¬land cell) : Components land [] :=
  ⟨fun cell => by simp [h cell],by simp,by simp,by simp,.nil⟩

/-- The region of the smallest cell comes in front of the components of what is left without it. -/
theorem cons (start : Cell) (hregion : ∀ cell, cell ∈ region ↔ Joined land start cell)
    (hstart : land start) (hasc : Cell.Ascending region)
    (hleast : ∀ cell, land cell → cell ∉ region → compare start cell = .lt)
    (h : Components (fun cell => land cell ∧ cell ∉ region) regions) :
    Components land (region :: regions) := by
  have hmem : start ∈ region := (hregion start).mpr (.here hstart)
  have hdetached : Detached land (· ∈ region) := by
    intro b c _ hc hin edge
    exact (hregion c).mpr (.step ((hregion b).mp hin) edge hc)
  constructor
  case covers =>
    intro c
    rw [List.exists_mem_cons_iff, ← h.covers]
    constructor
    · intro hc
      by_cases hr : c ∈ region
      · exact .inl hr
      · exact .inr ⟨hc,hr⟩
    · rintro (hr | ⟨hc,-⟩)
      · exact ((hregion c).mp hr).target
      · exact hc
  case classes =>
    intro r hr a ha b
    rcases List.mem_cons.mp hr with rfl | hr
    · rw [hregion] at ha ⊢
      exact ⟨ha.symm.trans,ha.trans⟩
    · rw [h.classes r hr a ha b]
      constructor
      · intro hpath
        exact hpath.mono fun _ hc => hc.1
      · intro hpath
        exact hpath.stays hdetached.compl (h.mem hr ha).2
  case filled =>
    intro r hr
    rcases List.mem_cons.mp hr with rfl | hr
    · exact List.ne_nil_of_mem hmem
    · exact h.filled r hr
  case ascending =>
    intro r hr
    rcases List.mem_cons.mp hr with rfl | hr
    · exact hasc
    · exact h.ascending r hr
  case ordered =>
    refine List.pairwise_cons.mpr ⟨fun later hl first hf c hc => ?_,h.ordered⟩
    obtain ⟨hland, hout⟩ := h.mem hl hc
    have hlt : compare start c = .lt := hleast c hland hout
    obtain ⟨others, ho⟩ := List.head?_eq_some_iff.mp hf
    rw [ho] at hmem hasc
    rcases List.mem_cons.mp hmem with rfl | hs
    · exact hlt
    · exact TransCmp.lt_trans ((List.pairwise_cons.mp hasc).1 start hs) hlt

end Components
end Region
end Freehold
