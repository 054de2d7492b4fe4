import Mathlib.Data.List.Nodup
import Freehold.Cell

/-!
The cells next to a cell, as the search lists them, are those that touch it: a step over the edge of the
space leads to no cell, and no cell that touches another is left out. Steps and distances are taken in
exact numbers. The last section shows that 32-bit sums that are checked, and differences of 64-bit
words, come to the same, so nothing wraps around between opposite edges.
-/

namespace Freehold.Cell
variable {a b : Cell}

theorem touches_comm (a b : Cell) : a.touches b = b.touches a := by
  have hx : (a.x.toInt-b.x.toInt).natAbs = (b.x.toInt-a.x.toInt).natAbs := by omega
  have hz : (a.z.toInt-b.z.toInt).natAbs = (b.z.toInt-a.z.toInt).natAbs := by omega
  rw [touches, touches, hx, hz, Bool.beq_comm]

/-- Cells touch when they lie in one world at a distance of one, summed over both axes. -/
theorem touches_iff : a.touches b = true ↔
    a.world = b.world ∧ (a.x.toInt-b.x.toInt).natAbs + (a.z.toInt-b.z.toInt).natAbs = 1 := by
  rw [touches, Bool.and_eq_true, beq_iff_eq, beq_iff_eq]

theorem shift?_eq_some_iff {a d b : Int32} : shift? a d = some b ↔ a.toInt+d.toInt = b.toInt := by
  unfold shift?
  dsimp only
  constructor
  · intro h
    split at h
    case isFalse => cases h
    case isTrue hs =>
      rw [Int32.toInt_minValue, Int32.toInt_maxValue] at hs
      rw [← Option.some.inj h, Int32.toInt_ofInt_of_le (by omega) (by omega)]
  · intro h
    rw [h, if_pos ⟨b.minValue_le_toInt,b.toInt_le⟩, Int32.ofInt_toInt]

theorem offset?_eq_some_iff {dx dz : Int32} :
    a.offset? dx dz = some b ↔
      a.world = b.world ∧ a.x.toInt+dx.toInt = b.x.toInt ∧ a.z.toInt+dz.toInt = b.z.toInt := by
  rw [← shift?_eq_some_iff, ← shift?_eq_some_iff, offset?]
  cases a
  cases b
  cases shift? _ dx <;> cases shift? _ dz <;> simp

theorem mem_neighbours_iff : b ∈ a.neighbours ↔ a.touches b = true := by
  have hone : (1 : Int32).toInt = 1 := by decide
  have hback : (-1 : Int32).toInt = -1 := by decide
  simp only [neighbours, sides, List.mem_filterMap, List.exists_mem_cons_iff, List.not_mem_nil,
    false_and, exists_false, or_false, offset?_eq_some_iff, touches_iff, hone, hback,
    Int32.toInt_zero, ← and_or_left]
  refine and_congr_right fun _ => ?_
  omega

theorem touches_self (a : Cell) : a.touches a = false := by
  rw [touches, Int.sub_self, Int.sub_self]
  exact Bool.and_false _

/-! ### The edges of the space -/

def Fits (n : Int) : Prop := Int32.minValue.toInt ≤ n ∧ n ≤ Int32.maxValue.toInt

instance (n : Int) : Decidable (Fits n) := inferInstanceAs (Decidable (_ ∧ _))

def extremes (c : Cell) : List Int32 :=
  [c.x,c.z].filter fun a => a = Int32.minValue ∨ a = Int32.maxValue

theorem fits_toInt (a : Int32) : Fits a.toInt := ⟨a.minValue_le_toInt,a.toInt_le⟩

/-- A shift is refused just when it would leave the range of 32 bits. -/
theorem isSome_shift?_iff {a d : Int32} :
    (shift? a d).isSome = true ↔ Fits (a.toInt+d.toInt) := by
  unfold shift? Fits
  dsimp only
  split <;> simp_all

theorem isSome_offset?_iff {dx dz : Int32} :
    (a.offset? dx dz).isSome = true ↔ Fits (a.x.toInt+dx.toInt) ∧ Fits (a.z.toInt+dz.toInt) := by
  rw [← isSome_shift?_iff, ← isSome_shift?_iff, offset?]
  cases shift? a.x dx <;> cases shift? a.z dz <;> simp

/-- Different steps lead to different cells. -/
theorem eq_of_offset?_eq_some {d d' : Int32 × Int32} (h : a.offset? d.1 d.2 = some b)
    (h' : a.offset? d'.1 d'.2 = some b) : d = d' := by
  obtain ⟨-, hx, hz⟩ := offset?_eq_some_iff.mp h
  obtain ⟨-, hx', hz'⟩ := offset?_eq_some_iff.mp h'
  apply Prod.ext
  · exact Int32.toInt_inj.mp (by omega)
  · exact Int32.toInt_inj.mp (by omega)

theorem nodup_neighbours (a : Cell) : a.neighbours.Nodup := by
  have hsides : sides.Nodup := by decide
  exact hsides.filterMap fun d d' b hd hd' => eq_of_offset?_eq_some hd hd'

/-- Along one axis there are two steps, or one from an end of the range. -/
theorem steps_on_axis (a : Int32) :
    (if Fits (a.toInt+1) then 1 else 0) + (if Fits (a.toInt-1) then 1 else 0) +
      (if a = Int32.minValue ∨ a = Int32.maxValue then 1 else 0) = 2 := by
  have hmin : a = Int32.minValue ↔ a.toInt = Int32.minValue.toInt := Int32.toInt_inj.symm
  have hmax : a = Int32.maxValue ↔ a.toInt = Int32.maxValue.toInt := Int32.toInt_inj.symm
  obtain ⟨hlo, hhi⟩ := fits_toInt a
  simp only [hmin, hmax, Fits, Int32.toInt_minValue, Int32.toInt_maxValue] at *
  split <;> split <;> split <;> omega

/-- For each coordinate at an end of the range one of the four neighbours is missing. -/
theorem length_neighbours (a : Cell) : a.neighbours.length + a.extremes.length = 4 := by
  have hone : (1 : Int32).toInt = 1 := by decide
  have hback : (-1 : Int32).toInt = -1 := by decide
  have hx := steps_on_axis a.x
  have hz := steps_on_axis a.z
  have hneighbours : a.neighbours.length =
      ((if Fits (a.z.toInt+1) then 1 else 0) + if Fits (a.z.toInt-1) then 1 else 0) +
        ((if Fits (a.x.toInt+1) then 1 else 0) + if Fits (a.x.toInt-1) then 1 else 0) := by
    rw [neighbours, List.length_filterMap_eq_countP]
    simp only [sides, List.countP_cons, List.countP_nil, isSome_offset?_iff, hone, hback,
      Int32.toInt_zero, Int.add_zero, fits_toInt, true_and, and_true, Int.sub_eq_add_neg]
    omega
  have hextremes : a.extremes.length =
      (if a.z = Int32.minValue ∨ a.z = Int32.maxValue then 1 else 0) +
        if a.x = Int32.minValue ∨ a.x = Int32.maxValue then 1 else 0 := by
    rw [extremes, ← List.countP_eq_length_filter]
    simp only [List.countP_cons, List.countP_nil, decide_eq_true_eq, Nat.zero_add]
  omega

/-! ### Words -/

def shiftInWords? (a d : Int32) : Option Int32 :=
  if a.toBitVec.saddOverflow d.toBitVec then none else some (a+d)

def offsetInWords? (c : Cell) (dx dz : Int32) : Option Cell :=
  match shiftInWords? c.x dx, shiftInWords? c.z dz with
  | some x, some z => some ⟨c.world,x,z⟩
  | _, _ => none

/-- Whether two cells touch, by the differences of their coordinates as 64-bit words. -/
def touchesInWords (a b : Cell) : Bool :=
  a.world == b.world && (a.x.toInt64-b.x.toInt64).abs + (a.z.toInt64-b.z.toInt64).abs == 1

/-- The same is computed in words of 32 bits, by a sum that is checked for overflow. -/
theorem shift?_eq_shiftInWords? (a d : Int32) : shift? a d = shiftInWords? a d := by
  have hover : a.toBitVec.saddOverflow d.toBitVec = true ↔ ¬Fits (a.toInt+d.toInt) := by
    simp only [BitVec.saddOverflow, Int32.toInt_toBitVec, Fits, Int32.toInt_minValue,
      Int32.toInt_maxValue, Bool.or_eq_true, decide_eq_true_eq]
    omega
  unfold shiftInWords?
  by_cases h : Fits (a.toInt+d.toInt)
  · obtain ⟨hlo, hhi⟩ := h
    rw [if_neg fun ho => hover.mp ho ⟨hlo,hhi⟩, shift?_eq_some_iff]
    rw [Int32.toInt_minValue] at hlo
    rw [Int32.toInt_maxValue] at hhi
    rw [Int32.toInt_add, Int.bmod_eq_of_le (by omega) (by omega)]
  · rw [if_pos (hover.mpr h), ← Option.not_isSome_iff_eq_none, isSome_shift?_iff]
    exact h

theorem offset?_eq_offsetInWords? (a : Cell) (dx dz : Int32) :
    a.offset? dx dz = a.offsetInWords? dx dz := by
  rw [offset?, shift?_eq_shiftInWords?, shift?_eq_shiftInWords?]
  rfl

theorem natAbs_sub_lt (a b : Int32) : (a.toInt-b.toInt).natAbs < 4294967296 := by
  obtain ⟨hlo, hhi⟩ := fits_toInt a
  obtain ⟨hlo', hhi'⟩ := fits_toInt b
  rw [Int32.toInt_minValue] at hlo hlo'
  rw [Int32.toInt_maxValue] at hhi hhi'
  omega

theorem toInt_abs_sub_toInt64 (a b : Int32) :
    (a.toInt64-b.toInt64).abs.toInt = (a.toInt-b.toInt).natAbs := by
  have hlt := natAbs_sub_lt a b
  have hsub : (a.toInt64-b.toInt64).toInt = a.toInt-b.toInt := by
    rw [Int64.toInt_sub, Int32.toInt_toInt64, Int32.toInt_toInt64,
      Int.bmod_eq_of_le (by omega) (by omega)]
  -- The least word, which is no absolute value of itself, is out of reach.
  have hmin : (a.toInt64-b.toInt64).toBitVec ≠ BitVec.intMin 64 := by
    intro h
    have hlow : (a.toInt64-b.toInt64).toInt = (BitVec.intMin 64).toInt := congrArg BitVec.toInt h
    have hval : (BitVec.intMin 64).toInt = -2^63 := by decide
    omega
  rw [← hsub, ← Int64.toInt_toBitVec, Int64.toBitVec_abs,
    BitVec.toInt_abs_eq_natAbs_of_ne_intMin hmin, Int64.toInt_toBitVec]

/-- The distance in words of 64 bits is the one in integers, wherever the cells lie. -/
theorem touches_eq_touchesInWords (a b : Cell) : a.touches b = a.touchesInWords b := by
  have hone : (1 : Int64).toInt = 1 := by decide
  have hsum : ((a.x.toInt64-b.x.toInt64).abs + (a.z.toInt64-b.z.toInt64).abs).toInt =
      ((a.x.toInt-b.x.toInt).natAbs + (a.z.toInt-b.z.toInt).natAbs : Nat) := by
    have hx := natAbs_sub_lt a.x b.x
    have hz := natAbs_sub_lt a.z b.z
    rw [Int64.toInt_add, toInt_abs_sub_toInt64, toInt_abs_sub_toInt64,
      Int.bmod_eq_of_le (by omega) (by omega), Int.natCast_add]
  rw [touches, touchesInWords]
  congr 1
  rw [Bool.eq_iff_iff, beq_iff_eq, beq_iff_eq, ← Int64.toInt_inj, hsum]
  omega

/-- The cells next to a cell are those that touch it, each listed once, and there are four less one
for each coordinate at an end of the range. Touching goes both ways, and no cell touches itself. A
step leads to the cell at the exact sums of coordinates, just when both are coordinates. Both the step
and the test are the same in words. -/
theorem adjacency_exact (a b : Cell) (dx dz : Int32) :
    (b ∈ a.neighbours ↔ a.touches b = true) ∧
    a.touches b = b.touches a ∧ a.touches a = false ∧
    a.neighbours.Nodup ∧ a.neighbours.length = 4 - a.extremes.length ∧
    (a.offset? dx dz = some b ↔ b.world = a.world ∧
      Fits (a.x.toInt+dx.toInt) ∧ b.x.toInt = a.x.toInt+dx.toInt ∧
      Fits (a.z.toInt+dz.toInt) ∧ b.z.toInt = a.z.toInt+dz.toInt) ∧
    a.offset? dx dz = a.offsetInWords? dx dz ∧ a.touches b = a.touchesInWords b := by
  have hlength := a.length_neighbours
  have hoffset : a.offset? dx dz = some b ↔ b.world = a.world ∧
      Fits (a.x.toInt+dx.toInt) ∧ b.x.toInt = a.x.toInt+dx.toInt ∧
      Fits (a.z.toInt+dz.toInt) ∧ b.z.toInt = a.z.toInt+dz.toInt := by
    rw [offset?_eq_some_iff]
    constructor
    · rintro ⟨hw, hx, hz⟩
      exact ⟨hw.symm,hx ▸ fits_toInt b.x,hx.symm,hz ▸ fits_toInt b.z,hz.symm⟩
    · rintro ⟨hw, -, hx, -, hz⟩
      exact ⟨hw.symm,hx.symm,hz.symm⟩
  exact ⟨mem_neighbours_iff,touches_comm a b,touches_self a,nodup_neighbours a,by omega,hoffset,
    offset?_eq_offsetInWords? a dx dz,touches_eq_touchesInWords a b⟩

/-- Opposite edges of the space do not touch. -/
example : (⟨"overworld",Int32.maxValue,0⟩ : Cell).touches ⟨"overworld",Int32.minValue,0⟩ = false := by
  decide

end Freehold.Cell
