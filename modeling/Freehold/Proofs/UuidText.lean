import Freehold.Uuid
import Mathlib.Tactic.Ring

/-!
An id is read back from the text that it is written as.
-/

namespace Freehold.Uuid

/-- Groups of digits are read back onto the number read so far, whatever text follows. -/
theorem readGroups_writeGroups (ws : List Nat) (acc n : Nat) (rest : List Char) :
    readGroups acc ws (writeGroups n ws ++ rest) =
      some (acc*Nat.pow 16 (width ws) + n%Nat.pow 16 (width ws), rest) := by
  have h16 : 0 < 16 := by decide
  have hread := Digits.readFrom_fixed h16 (Nat.le_refl 16)
  induction ws generalizing acc with
  | nil =>
    have h1 : n%Nat.pow 16 0 = 0 := Nat.mod_one n
    rw [width, h1, Nat.pow_eq, Nat.pow_zero, Nat.mul_one]
    rfl
  | cons w ws ih =>
    cases ws with
    | nil =>
      rw [writeGroups, readGroups, hread, width, width, Nat.add_zero]
    | cons v ws =>
      obtain ⟨s, hs⟩ : ∃ s, width (v :: ws) = s := ⟨_,rfl⟩
      rw [writeGroups, readGroups, List.append_assoc, hread, List.cons_append]
      · show readGroups _ (v :: ws) _ = _
        -- the first group holds the digits above those of the later ones
        have hsplit : n%16^(w+s) = n%16^s + 16^s*(n/16^s%16^w) := by
          rw [Nat.add_comm w s, Nat.pow_add, Nat.mod_mul]
        have hwidth : width (w :: v :: ws) = w + s := by rw [width, hs]
        rw [ih, hwidth, hs]
        simp only [Nat.pow_eq]
        rw [hsplit]
        congr 2
        ring
      all_goals exact List.cons_ne_nil v ws

/-- The written form has 32 digits and four hyphens. -/
theorem length_text (u : Uuid) : (writeGroups u.toNat groups).length = 36 := by
  simp [writeGroups, groups, Digits.length_fixed]

/-- An id is read back from its text. -/
theorem parse?_text (u : Uuid) : parse? u.text = some u := by
  have hlt : u.toNat < Nat.pow 16 32 := u.bits.isLt
  have hread : readGroups 0 groups (writeGroups u.toNat groups) = some (u.toNat,[]) := by
    have h := readGroups_writeGroups groups 0 u.toNat []
    rw [List.append_nil, Nat.zero_mul, Nat.zero_add] at h
    rw [h]
    exact congrArg (fun n => some (n,[])) (Nat.mod_eq_of_lt hlt)
  have hbits : ofNat u.toNat = u := by
    show Uuid.mk (BitVec.ofNat 128 u.bits.toNat) = u
    rw [BitVec.ofNat_toNat, BitVec.setWidth_eq]
  unfold parse? text parseChars?
  rw [String.toList_ofList, length_text]
  show whole (readGroups 0 groups (writeGroups u.toNat groups)) = some u
  rw [hread]
  exact congrArg some hbits

end Freehold.Uuid
