import Freehold.Timestamp.Calendar
import Mathlib.Tactic.IntervalCases
import Mathlib.Tactic.Linarith
import Mathlib.Tactic.Ring

/-!
The calendar names every day once. The date of a day is a date of the calendar, and its day is the one
it was made from, however far before or after the start of 1970.
-/

namespace Freehold.CivilDate

/-- The days before the first of March of a year, from the first of March of year 0 on. -/
def daysBefore (year : Int) : Int := 365*year + year/4 - year/100 + year/400

def fromMarch (year doy : Int) : CivilDate :=
  let m := (5*doy+2)/153
  let month := if m < 10 then m+3 else m-9
  ⟨if month ≤ 2 then year+1 else year, month.toNat, (doy - (153*m+2)/5 + 1).toNat⟩

theorem isLeapYear_eq_true_iff {year : Int} :
    isLeapYear year = true ↔ (year%4 = 0 ∧ year%100 ≠ 0) ∨ year%400 = 0 := by
  simp [isLeapYear]

/-- The leap days before a year, by its place in its century and in four years of that. -/
theorem leapDays_eq {c q y : Int} (hq : 0 ≤ q ∧ q ≤ 24) (hy : 0 ≤ y ∧ y ≤ 3) :
    (100*c + 4*q + y)/4 = 25*c + q ∧ (100*c + 4*q + y)/100 = c := by
  omega

/-- After the last one of four years comes a leap year, unless it begins a century that is not the
first of 400 years. -/
theorem isLeapYear_of_last {c q cycle : Int} (hq : 0 ≤ q ∧ q ≤ 24) (hlast : q = 24 → c = 3) :
    isLeapYear (100*c + 4*q + 3 + cycle*400 + 1) = true := by
  rw [isLeapYear_eq_true_iff]
  omega

/-- A day of the 400 years after which the calendar repeats itself lies in the year that is counted
for it. Only a year before a leap year has a day 365. -/
theorem exists_year_of_cycle {doc : Int} (h0 : 0 ≤ doc) (h1 : doc < 146097) :
    ∃ yoc doy : Int, (0 ≤ yoc ∧ yoc < 400) ∧ (0 ≤ doy ∧ doy ≤ 365) ∧
      (doy = 365 → ∀ cycle, isLeapYear (yoc + cycle*400 + 1) = true) ∧
      (doc - doc/1460 + doc/36524 - doc/146096)/365 = yoc ∧
      doc = 365*yoc + yoc/4 - yoc/100 + doy := by
  -- The day lies in the century `c`, in the four years `q` of that, and there it is the day `s`.
  obtain ⟨c, hc⟩ : ∃ c, c = doc/36524 - doc/146096 := ⟨_,rfl⟩
  have hcentury : (0 ≤ c ∧ c ≤ 3) ∧ 0 ≤ doc - 36524*c ∧ doc - 36524*c ≤ 36524 ∧
      (doc - 36524*c = 36524 → c = 3) := by omega
  obtain ⟨hcb, hr0, hr1, hr2⟩ := hcentury
  obtain ⟨q, hq⟩ : ∃ q, q = (doc - 36524*c)/1461 := ⟨_,rfl⟩
  obtain ⟨s, hs⟩ : ∃ s, s = doc - 36524*c - 1461*q := ⟨_,rfl⟩
  have hfour : (0 ≤ q ∧ q ≤ 24) ∧ 0 ≤ s ∧ s ≤ 1460 := by omega
  obtain ⟨hqb, hs0, hs1⟩ := hfour
  -- The count of leap days is one ahead towards the end, which changes nothing in the year.
  obtain ⟨l, hl⟩ : ∃ l, doc/1460 = 25*c + q + l := ⟨doc/1460 - (25*c+q),by omega⟩
  have hahead : (l = 0 ∧ s < 1460) ∨ (l = 1 ∧ 1364 ≤ s) := by omega
  have hyear : (doc - doc/1460 + doc/36524 - doc/146096)/365 = 100*c + 4*q + (s-l)/365 := by omega
  obtain ⟨y, hy⟩ : ∃ y, y = (s-l)/365 := ⟨_,rfl⟩
  rw [← hy] at hyear
  have hyb : 0 ≤ y ∧ y ≤ 3 := by omega
  have hdoy : 0 ≤ s - 365*y ∧ s - 365*y ≤ 365 := by omega
  have hlast : s - 365*y = 365 → y = 3 ∧ (q = 24 → c = 3) := by omega
  obtain ⟨hleap4, hleap100⟩ := leapDays_eq (c := c) hqb hyb
  refine ⟨100*c + 4*q + y, s - 365*y, ⟨?_,?_⟩, hdoy, ?_, hyear, ?_⟩
  · linarith only [hcb.1, hqb.1, hyb.1]
  · linarith only [hcb.2, hqb.2, hyb.2]
  · intro h365 cycle
    obtain ⟨rfl, hq24⟩ := hlast h365
    exact isLeapYear_of_last hqb hq24
  · rw [hleap4, hleap100, hs]
    ring

/-- Years are counted from March on here, so that a leap day is the last day of its year. Every 400
years have the same number of days. -/
theorem daysBefore_add_cycle {yoc cycle : Int} (h : 0 ≤ yoc ∧ yoc < 400) :
    daysBefore (yoc + cycle*400) = 365*yoc + yoc/4 - yoc/100 + cycle*146097 := by
  unfold daysBefore
  omega

/-- Every day belongs to a year from March on. -/
theorem exists_fromMarch (days : Int) :
    ∃ year doy : Int, (0 ≤ doy ∧ doy ≤ 365) ∧ (doy = 365 → isLeapYear (year+1) = true) ∧
      days = daysBefore year + doy - 719468 ∧ ofDays days = fromMarch year doy := by
  obtain ⟨doc, hdoc⟩ : ∃ doc, doc = (days+719468)%146097 := ⟨_,rfl⟩
  obtain ⟨cycle, hcycle⟩ : ∃ cycle, cycle = (days+719468)/146097 := ⟨_,rfl⟩
  have hdays : days = cycle*146097 + doc - 719468 := by omega
  have h0 : 0 ≤ doc := by omega
  have h1 : doc < 146097 := by omega
  obtain ⟨yoc, doy, hb, hdoy, hlast, hyoc, hday⟩ := exists_year_of_cycle h0 h1
  refine ⟨yoc + cycle*400, doy, hdoy, fun h => hlast h cycle, ?_, ?_⟩
  · rw [daysBefore_add_cycle hb, hdays, hday]
    ring
  · have hleft : doc - (365*yoc + yoc/4 - yoc/100) = doy := by
      rw [hday]
      ring
    have hyear (month : Int) : (if month ≤ 2 then yoc+1 else yoc) + cycle*400 =
        if month ≤ 2 then yoc + cycle*400 + 1 else yoc + cycle*400 := by
      split
      · ring
      · rfl
    unfold ofDays fromMarch
    simp only [← hdoc, ← hcycle, hyoc, hleft, hyear]

theorem toDays_fromMarch {year doy : Int} (hdoy : 0 ≤ doy ∧ doy ≤ 365) :
    (fromMarch year doy).toDays = daysBefore year + doy - 719468 := by
  obtain ⟨m, hm⟩ : ∃ m, m = (5*doy+2)/153 := ⟨_,rfl⟩
  have hmb : 0 ≤ m ∧ m ≤ 11 := by omega
  have hday : 0 ≤ doy - (153*m+2)/5 := by omega
  unfold fromMarch toDays daysBefore
  simp only [← hm]
  by_cases h10 : m < 10
  · have hmonth : ¬(m+3 ≤ 2) := by omega
    have hmonth' : ¬((m+3).toNat ≤ 2) := by omega
    simp only [if_pos h10, if_neg hmonth, if_neg hmonth']
    omega
  · have hmonth : m-9 ≤ 2 := by omega
    have hmonth' : (m-9).toNat ≤ 2 := by omega
    simp only [if_neg h10, if_pos hmonth, if_pos hmonth']
    omega

/-- Counting days and naming them are inverse to each other. -/
theorem toDays_ofDays (days : Int) : (ofDays days).toDays = days := by
  obtain ⟨year, doy, hdoy, -, hdays, hof⟩ := exists_fromMarch days
  rw [hof, toDays_fromMarch hdoy, ← hdays]

/-- The months from March to January have their days whatever the year, and February those of the
year it falls in. -/
theorem isValid_fromMarch {year doy : Int} (hdoy : 0 ≤ doy ∧ doy ≤ 365)
    (hl : doy = 365 → isLeapYear (year+1) = true) : (fromMarch year doy).isValid = true := by
  obtain ⟨m, hm⟩ : ∃ m, m = (5*doy+2)/153 := ⟨_,rfl⟩
  have hm0 : 0 ≤ m := by omega
  have hm11 : m ≤ 11 := by omega
  unfold fromMarch isValid
  simp only [← hm, Bool.and_eq_true, decide_eq_true_eq]
  by_cases hfeb : m = 11
  · subst hfeb
    cases hleap : isLeapYear (year+1) with
    | true =>
      simp [daysInMonth, hleap]
      omega
    | false =>
      have hne : doy ≠ 365 := fun h => by simp [hl h] at hleap
      simp [daysInMonth, hleap]
      omega
  · have hm10 : m ≤ 10 := by omega
    clear hl hfeb hm11
    interval_cases m <;> simp [daysInMonth] <;> omega

theorem isValid_ofDays (days : Int) : (ofDays days).isValid = true := by
  obtain ⟨year, doy, hdoy, hl, -, hof⟩ := exists_fromMarch days
  rw [hof]
  exact isValid_fromMarch hdoy hl

theorem bounds_of_isValid {d : CivilDate} (h : d.isValid = true) :
    (1 ≤ d.month ∧ d.month ≤ 12) ∧ 1 ≤ d.day ∧ d.day ≤ 31 := by
  have hmost : daysInMonth d.year d.month ≤ 31 := by
    unfold daysInMonth
    split
    · split <;> decide
    all_goals decide
  simp only [isValid, Bool.and_eq_true, decide_eq_true_eq] at h
  obtain ⟨⟨⟨hm1, hm12⟩, hd1⟩, hd⟩ := h
  exact ⟨⟨hm1,hm12⟩,hd1,hd.trans hmost⟩

end Freehold.CivilDate
