/-!
Numbers written with a fixed count of digits, as in ids and dates. What is written with `width`
digits reads back, whatever text follows.
-/

namespace Freehold.Digits

def value? (c : Char) : Option Nat :=
  let n := c.toNat
  if 48 ≤ n ∧ n ≤ 57 then some (n-48)
  else if 97 ≤ n ∧ n ≤ 102 then some (n-87)
  else if 65 ≤ n ∧ n ≤ 70 then some (n-55)
  else none

/-- The last `width` digits of `n`, leading zeros kept. -/
def fixed (base : Nat) : Nat → Nat → List Char
  | 0, _ => []
  | width+1, n => fixed base width (n/base) ++ [Nat.digitChar (n%base)]

def readFrom (base acc : Nat) : Nat → List Char → Option (Nat × List Char)
  | 0, cs => some (acc, cs)
  | _+1, [] => none
  | width+1, c :: cs =>
    match value? c with
    | some d => if d < base then readFrom base (acc*base+d) width cs else none
    | none => none

def read (base width : Nat) (cs : List Char) : Option (Nat × List Char) :=
  readFrom base 0 width cs

theorem value?_digitChar {d : Nat} (h : d < 16) : value? (Nat.digitChar d) = some d := by
  have hd : ∀ e : Fin 16, value? (Nat.digitChar e.val) = some e.val := by decide
  exact hd ⟨d,h⟩

theorem readFrom_append (base acc m n : Nat) (cs : List Char) :
    readFrom base acc (m+n) cs =
      (readFrom base acc m cs).bind fun r => readFrom base r.1 n r.2 := by
  induction m generalizing acc cs with
  | zero => simp [readFrom]
  | succ m ih =>
    rw [Nat.succ_add]
    cases cs with
    | nil => simp [readFrom]
    | cons c cs =>
      simp only [readFrom]
      cases value? c with
      | none => rfl
      | some d =>
        by_cases hd : d < base
        · simp only [hd, if_true]; exact ih _ _
        · simp [hd]

/-- Reading what `fixed` wrote gives the number back, modulo the range of the digits. -/
theorem readFrom_fixed {base : Nat} (hb : 0 < base) (hb16 : base ≤ 16) (width acc n : Nat)
    (rest : List Char) :
    readFrom base acc width (fixed base width n ++ rest) =
      some (acc*Nat.pow base width + n%Nat.pow base width, rest) := by
  induction width generalizing n rest with
  | zero => simp [readFrom, fixed, Nat.mod_one]
  | succ w ih =>
    have hd : n%base < 16 := Nat.lt_of_lt_of_le (Nat.mod_lt _ hb) hb16
    rw [readFrom_append, fixed, List.append_assoc, ih]
    simp only [Option.bind_some, List.singleton_append, readFrom, value?_digitChar hd,
      Nat.mod_lt _ hb, if_true]
    change _ = some (acc*(Nat.pow base w*base) + n%(Nat.pow base w*base), rest)
    rw [Nat.mul_comm (Nat.pow base w) base, Nat.mod_mul]
    congr 2
    rw [Nat.add_mul, Nat.mul_assoc, Nat.mul_comm (Nat.pow base w) base, Nat.mul_comm (_ % _) base]
    omega

theorem length_fixed (base width n : Nat) : (fixed base width n).length = width := by
  induction width generalizing n with
  | zero => rfl
  | succ w ih => simp [fixed, ih]

end Freehold.Digits
