import Freehold.Proofs.Calendar
import Freehold.Timestamp.Text

/-!
A time is read back from its text. The writer gives every part of a date and a time its full count of
digits, so each part is read up to the mark that follows it. A leap second can be told from its text
only at the end of a minute, and times that were read have theirs there.
-/

namespace Freehold

namespace Digits
variable {width n : Nat}

theorem isDigit_of_mem_fixed {c : Char} (h : c ∈ fixed 10 width n) : c.isDigit = true := by
  induction width generalizing n with
  | zero => cases h
  | succ width ih =>
    rw [fixed, List.mem_append, List.mem_singleton] at h
    rcases h with h | rfl
    · exact ih h
    · have hlt : n%10 < 10 := Nat.mod_lt n (by decide)
      rw [Nat.isDigit_digitChar, decide_eq_true hlt]

theorem exists_fixed_eq_cons (width n : Nat) :
    ∃ c cs, fixed 10 (width+1) n = c :: cs ∧ c.isDigit = true := by
  cases h : fixed 10 (width+1) n with
  | nil =>
    have hlen := length_fixed 10 (width+1) n
    rw [h] at hlen
    cases hlen
  | cons c cs =>
    have hc : c ∈ fixed 10 (width+1) n := by rw [h]; exact List.mem_cons_self
    exact ⟨c,cs,rfl,isDigit_of_mem_fixed hc⟩

/-- The digits of a number have the value of its last places. -/
theorem foldl_fixed (width n : Nat) :
    (fixed 10 width n).foldl (fun n d => 10*n + (d.toNat-48)) 0 = n%10^width := by
  induction width generalizing n with
  | zero => rw [Nat.pow_zero, Nat.mod_one]; rfl
  | succ width ih =>
    have hlt : n%10 < 10 := Nat.mod_lt n (by decide)
    rw [fixed, List.foldl_append, ih, List.foldl_cons, List.foldl_nil,
      Nat.toNat_digitChar_sub_48_of_lt_ten hlt, Nat.pow_succ', Nat.mod_mul, Nat.add_comm]

end Digits

theorem isBlank_eq_false_of_isDigit {c : Char} (h : c.isDigit = true) : isBlank c = false := by
  have hn : 48 ≤ c.toNat ∧ c.toNat ≤ 57 := Char.isDigit_iff_toNat.mp h
  unfold isBlank
  simp only [Bool.or_eq_false_iff, Bool.and_eq_false_iff, decide_eq_false_iff_not,
    beq_eq_false_iff_ne]
  omega

/-- Blanks end at a digit. -/
theorem dropBlanks_of_isDigit {c : Char} (h : c.isDigit = true) (cs : List Char) :
    dropBlanks (c :: cs) = c :: cs := by
  rw [dropBlanks, List.dropWhile_cons, isBlank_eq_false_of_isDigit h]
  rfl

namespace Timestamp
open Digits

def NoDigit (cs : List Char) : Prop := ∀ c ∈ cs.head?, c.isDigit = false

theorem takeWhile_of_noDigit {cs : List Char} (h : NoDigit cs) : cs.takeWhile Char.isDigit = [] := by
  cases cs with
  | nil => rfl
  | cons c cs =>
    have hc : c.isDigit = false := h c rfl
    rw [List.takeWhile_cons, hc]
    rfl

/-- The digits that were written are read, all of them and no more. -/
theorem number_fixed {width most n : Nat} {rest : List Char} (hw : width ≠ 0) (hle : width ≤ most)
    (hend : width = most ∨ NoDigit rest) :
    number most (fixed 10 width n ++ rest) = some (width,n%10^width,rest) := by
  have hlen : (fixed 10 width n).length = width := length_fixed 10 width n
  have htake : (fixed 10 width n ++ rest).take most =
      fixed 10 width n ++ rest.take (most-width) := by
    rw [List.take_append, hlen, List.take_of_length_le (by rw [hlen]; exact hle)]
  -- no more digits may be read, or there are no more
  have hrest : (rest.take (most-width)).takeWhile Char.isDigit = [] := by
    apply takeWhile_of_noDigit
    rcases hend with rfl | hn
    · rw [Nat.sub_self, List.take_zero]
      exact fun c hc => by cases hc
    · intro c hc
      cases rest with
      | nil => simp at hc
      | cons d rest =>
        cases hm : most-width with
        | zero => simp [hm] at hc
        | succ m =>
          rw [hm] at hc
          exact hn c hc
  have hdigits : ((fixed 10 width n ++ rest).take most).takeWhile Char.isDigit =
      fixed 10 width n := by
    rw [htake, List.takeWhile_append_of_pos fun c hc => isDigit_of_mem_fixed hc, hrest,
      List.append_nil]
  have hne : fixed 10 width n ≠ [] := by
    intro h
    rw [h] at hlen
    exact hw hlen.symm
  unfold number
  rw [hdigits, if_neg hne, hlen, foldl_fixed, List.drop_left' hlen]

/-- A part of two digits within its bounds is read. -/
theorem part_fixed {low high n : Nat} (hl : low ≤ n) (hh : n ≤ high) (h100 : n < 100)
    (rest : List Char) : part low high (fixed 10 2 n ++ rest) = some (n,rest) := by
  obtain ⟨c, cs, hc, hd⟩ := exists_fixed_eq_cons 1 n
  have hnumber : number 2 (fixed 10 2 n ++ rest) = some (2,n,rest) := by
    rw [number_fixed (by decide) (Nat.le_refl 2) (.inl rfl),
      Nat.mod_eq_of_lt (show n < 10^2 from h100)]
  have hblank : dropBlanks (fixed 10 2 n ++ rest) = fixed 10 2 n ++ rest := by
    rw [hc, List.cons_append, dropBlanks_of_isDigit hd]
  unfold part
  rw [hblank, hnumber]
  exact if_pos ⟨hl,hh⟩

theorem yearPart_fixed {n : Nat} (h : n < 10000) (rest : List Char) :
    yearPart (fixed 10 4 n ++ rest) = some ((n : Int),rest) := by
  obtain ⟨c, cs, hc, hd⟩ := exists_fixed_eq_cons 3 n
  have hnumber : number 4 (fixed 10 4 n ++ rest) = some (4,n,rest) := by
    rw [number_fixed (by decide) (Nat.le_refl 4) (.inl rfl),
      Nat.mod_eq_of_lt (show n < 10^4 from h)]
  have hminus : c ≠ '-' := fun h => by rw [h] at hd; cases hd
  have hplus : c ≠ '+' := fun h => by rw [h] at hd; cases hd
  rw [hc, List.cons_append] at hnumber ⊢
  unfold yearPart
  rw [dropBlanks_of_isDigit hd]
  split
  · next heq => exact absurd (List.cons.inj heq).1 hminus
  · next heq => exact absurd (List.cons.inj heq).1 hplus
  · rw [hnumber]
    rfl

/-- A separator is no blank, so none is skipped before it. -/
theorem spacedMark_cons {c : Char} (h : isBlank c = false) (rest : List Char) :
    spacedMark c (c :: rest) = some rest := by
  rw [spacedMark, dropBlanks, List.dropWhile_cons, h]
  exact if_pos rfl

/-- A fraction is read with all the places that it was written with. -/
theorem fractionPart_fraction {nanos : Nat} (h : nanos < 1000000000) :
    fractionPart (fraction nanos ++ ['Z']) = some (nanos,['Z']) := by
  have hend : NoDigit ['Z'] := by
    rintro c ⟨⟩
    rfl
  have hplaces {width n : Nat} (hw : width ≠ 0) (hle : width ≤ 9) (hn : n < 10^width)
      (hvalue : n*10^(9-width) = nanos) :
      fractionPart ('.' :: (fixed 10 width n ++ ['Z'])) = some (nanos,['Z']) := by
    have hnumber := number_fixed (n := n) hw hle (.inr hend)
    rw [Nat.mod_eq_of_lt hn] at hnumber
    rw [fractionPart, hnumber, Option.map_some, ← hvalue]
    rfl
  unfold fraction
  split
  · next h0 =>
    rw [h0]
    rfl
  · split
    · next h3 => exact hplaces (by decide) (by decide) (by omega) (by omega)
    · split
      · next h6 => exact hplaces (by decide) (by decide) (by omega) (by omega)
      · exact hplaces (by decide) (by decide) (by omega) (by omega)

def year (t : Timestamp) : Int := (CivilDate.ofDays (t.seconds/86400)).year

def InFourDigits (t : Timestamp) : Prop := 0 ≤ t.year ∧ t.year ≤ 9999

def Regular (t : Timestamp) : Prop := t.nanos < 1000000000 ∨ t.seconds%60 = 59

/-- The years from 0 to 9999 are written with four digits and no sign. -/
theorem yearText_eq {year : Int} (h : 0 ≤ year ∧ year ≤ 9999) :
    yearText year = fixed 10 4 year.toNat := if_pos h

theorem clock_eq (clock : Nat) : clock/3600*3600 + clock/60%60*60 + clock%60 = clock := by
  omega

/-- The seconds read 60 during a leap second only. -/
theorem Regular.leap_cases {t : Timestamp} (h : t.Regular) :
    (t.nanos/1000000000 = 0 ∧ t.nanos%1000000000 = t.nanos) ∨
      (t.nanos/1000000000 = 1 ∧ t.nanos%1000000000 + 1000000000 = t.nanos ∧
        (t.seconds%86400).toNat%60 = 59) := by
  have hlt : t.nanos < 2000000000 := t.nanos_lt
  by_cases hleap : t.nanos < 1000000000
  · exact .inl ⟨Nat.div_eq_of_lt hleap,Nat.mod_eq_of_lt hleap⟩
  · have hend : t.seconds%60 = 59 := h.resolve_left hleap
    exact .inr ⟨by omega,by omega,by omega⟩

/-- A date of four year digits and a time of day in universal time are read as they are written. -/
theorem parseChars?_written {t : Timestamp} {date : CivilDate} {year hour minute second nanos : Nat}
    (hyear : date.year = year) (hfour : year < 10000) (hvalid : date.isValid = true)
    (hhour : hour ≤ 23) (hminute : minute ≤ 59) (hsecond : second ≤ 60) (hnanos : nanos < 1000000000)
    (hshown : inRange t.year = true)
    (hseconds : t.seconds = date.toDays*86400 + (hour*3600 + minute*60 + (min second 59 : Nat)))
    (hleap : t.nanos = nanos + if second = 60 then 1000000000 else 0) :
    parseChars? (fixed 10 4 year ++ '-' :: (fixed 10 2 date.month ++ '-' :: (fixed 10 2 date.day ++
      'T' :: (fixed 10 2 hour ++ ':' :: (fixed 10 2 minute ++ ':' :: (fixed 10 2 second ++
        (fraction nanos ++ ['Z']))))))) = some t := by
  obtain ⟨hmonth, hday⟩ := CivilDate.bounds_of_isValid hvalid
  have hrange : inRange date.year = true := by
    simp only [inRange, Bool.and_eq_true, decide_eq_true_eq]
    omega
  have hdate : (⟨year,date.month,date.day⟩ : CivilDate) = date := by rw [← hyear]
  have hstart : (year : Int) = date.year := hyear.symm
  have hzone : offsetPart (dropBlanks ['Z']) = some (0,[]) := by decide
  -- each part is read up to the mark that follows it
  unfold parseChars?
  rw [yearPart_fixed hfour]
  dsimp only [bind, Option.bind]
  rw [spacedMark_cons (by decide)]
  dsimp only
  rw [part_fixed hmonth.1 hmonth.2 (by omega)]
  dsimp only
  rw [spacedMark_cons (by decide)]
  dsimp only
  rw [part_fixed hday.1 hday.2 (by omega)]
  dsimp only [List.head?_cons, Option.map_some, List.tail_cons]
  rw [if_neg (by decide), part_fixed (Nat.zero_le _) hhour (by omega)]
  dsimp only
  rw [spacedMark_cons (by decide)]
  dsimp only
  rw [part_fixed (Nat.zero_le _) hminute (by omega)]
  dsimp only
  rw [spacedMark_cons (by decide)]
  dsimp only
  rw [part_fixed (Nat.zero_le _) hsecond (by omega)]
  dsimp only
  rw [fractionPart_fraction hnanos]
  dsimp only
  rw [hzone]
  dsimp only
  simp only [hdate, Int.sub_zero, ← hseconds, ← hleap]
  rw [if_pos ⟨rfl,hvalid,hstart ▸ hrange,hshown⟩, dif_pos hnanos]

/-- A time that falls in a year of four digits is read back from its text. -/
theorem parse?_text {t : Timestamp} (hy : t.InFourDigits) (hr : t.Regular) :
    parse? t.text = some t := by
  obtain ⟨date, hdate⟩ : ∃ d, CivilDate.ofDays (t.seconds/86400) = d := ⟨_,rfl⟩
  obtain ⟨clock, hclock⟩ : ∃ n, (t.seconds%86400).toNat = n := ⟨_,rfl⟩
  obtain ⟨leap, hleap⟩ : ∃ n, t.nanos/1000000000 = n := ⟨_,rfl⟩
  obtain ⟨nanos, hnanos⟩ : ∃ n, t.nanos%1000000000 = n := ⟨_,rfl⟩
  have hvalid : date.isValid = true := hdate ▸ CivilDate.isValid_ofDays _
  have hdays : date.toDays = t.seconds/86400 := hdate ▸ CivilDate.toDays_ofDays _
  have hyear : 0 ≤ date.year ∧ date.year ≤ 9999 := hdate ▸ hy
  have hshown : inRange t.year = true := by
    obtain ⟨hlow, hhigh⟩ := hy
    simp only [inRange, Bool.and_eq_true, decide_eq_true_eq]
    omega
  have hcases := hr.leap_cases
  rw [hleap, hnanos, hclock] at hcases
  have hmin : min (clock%60+leap) 59 = clock%60 := by omega
  have hseconds : t.seconds = date.toDays*86400 + (((clock/3600 : Nat) : Int)*3600 +
      ((clock/60%60 : Nat) : Int)*60 + (min (clock%60+leap) 59 : Nat)) := by
    have hday : (clock : Int) = t.seconds%86400 := by omega
    have hsplit : ((clock/3600 : Nat) : Int)*3600 + ((clock/60%60 : Nat) : Int)*60 +
        (clock%60 : Nat) = clock := by exact_mod_cast clock_eq clock
    calc
      t.seconds = t.seconds/86400*86400 + t.seconds%86400 :=
        (Int.ediv_mul_add_emod t.seconds 86400).symm
      _ = date.toDays*86400 + clock := by rw [hdays, hday]
      _ = _ := by rw [hmin, hsplit]
  have hwhole : t.nanos = nanos + if clock%60 + leap = 60 then 1000000000 else 0 := by
    rcases hcases with ⟨h0, hn⟩ | ⟨h1, hn, h59⟩
    · rw [if_neg (by omega), Nat.add_zero, hn]
    · rw [if_pos (by omega), hn]
  unfold parse? text
  rw [String.toList_ofList]
  unfold chars
  simp only [hdate, hclock, hleap, hnanos, List.append_assoc, List.cons_append, yearText_eq hyear]
  exact parseChars?_written (Int.toNat_of_nonneg hyear.1).symm (by omega) hvalid (by omega)
    (by omega) (by omega) (by omega) hshown hseconds hwhole

/-- Offsets are whole minutes. -/
theorem offsetPart_emod {cs rest : List Char} {offset : Int}
    (h : offsetPart cs = some (offset,rest)) : offset%60 = 0 := by
  unfold offsetPart at h
  split at h
  · cases h
    rfl
  · split at h
    · cases h
      rfl
    · cases h
      rfl
    · obtain ⟨⟨sign, cs⟩, -, h⟩ := Option.bind_eq_some_iff.mp h
      obtain ⟨⟨hours, cs⟩, -, h⟩ := Option.bind_eq_some_iff.mp h
      obtain ⟨⟨minutes, cs⟩, -, h⟩ := Option.bind_eq_some_iff.mp h
      dsimp only at h
      split at h
      · injection h with h
        have hminutes : (hours : Int)*3600 + minutes*60 = (hours*60 + minutes)*60 := by omega
        rw [← (Prod.mk.inj h).1, hminutes, ← Int.mul_assoc, Int.mul_emod_left]
      · cases h

/-- A time that was read has its leap second at the end of a minute. -/
theorem regular_of_parse? {s : String} {t : Timestamp} (h : parse? s = some t) : t.Regular := by
  obtain ⟨⟨year, cs⟩, -, h⟩ := Option.bind_eq_some_iff.mp h
  obtain ⟨cs, -, h⟩ := Option.bind_eq_some_iff.mp h
  obtain ⟨⟨month, cs⟩, -, h⟩ := Option.bind_eq_some_iff.mp h
  obtain ⟨cs, -, h⟩ := Option.bind_eq_some_iff.mp h
  obtain ⟨⟨day, cs⟩, -, h⟩ := Option.bind_eq_some_iff.mp h
  obtain ⟨⟨stop, cs⟩, -, h⟩ := Option.bind_eq_some_iff.mp h
  dsimp only at h
  split at h
  · cases h
  obtain ⟨⟨hour, cs⟩, -, h⟩ := Option.bind_eq_some_iff.mp h
  obtain ⟨cs, -, h⟩ := Option.bind_eq_some_iff.mp h
  obtain ⟨⟨minute, cs⟩, -, h⟩ := Option.bind_eq_some_iff.mp h
  obtain ⟨cs, -, h⟩ := Option.bind_eq_some_iff.mp h
  obtain ⟨⟨second, cs⟩, -, h⟩ := Option.bind_eq_some_iff.mp h
  obtain ⟨⟨nanos, cs⟩, -, h⟩ := Option.bind_eq_some_iff.mp h
  obtain ⟨⟨offset, cs⟩, hoffset, h⟩ := Option.bind_eq_some_iff.mp h
  -- taking off whole minutes leaves the second within its minute
  have hminutes : offset%60 = 0 := offsetPart_emod hoffset
  dsimp only at h
  split at h
  · split at h
    · next hlt =>
      injection h with h
      rw [← h]
      by_cases h60 : second = 60
      · exact .inr (by dsimp only; omega)
      · refine .inl ?_
        dsimp only
        rw [if_neg h60]
        exact hlt
    · cases h
  · cases h

/-- Single digits, a bare sign of an offset and a leap second within an hour are read alike. -/
example :
    (parse? "2024-3-1t00:59:60.5+0130").map Timestamp.text = some "2024-02-29T23:29:60.500Z" := by
  decide +kernel

end Timestamp

end Freehold
