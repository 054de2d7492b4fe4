/-!
The Gregorian calendar, carried on in both directions. Days are counted from the first of January
1970. Years are counted here from the first of March, so that the leap day is the last of its year
and the days before a month do not depend on the year.
-/

namespace Freehold

structure CivilDate where
  year : Int
  month : Nat
  day : Nat
deriving DecidableEq

namespace CivilDate

def isLeapYear (year : Int) : Bool :=
  (year%4 == 0 && year%100 != 0) || year%400 == 0

def daysInMonth (year : Int) : Nat → Nat
  | 2 => if isLeapYear year then 29 else 28
  | 4 | 6 | 9 | 11 => 30
  | _ => 31

def isValid (d : CivilDate) : Bool :=
  1 ≤ d.month && d.month ≤ 12 && 1 ≤ d.day && d.day ≤ daysInMonth d.year d.month

/-- Days from the first of January 1970 to `d`. -/
def toDays (d : CivilDate) : Int :=
  let y := if d.month ≤ 2 then d.year-1 else d.year
  let m : Int := if d.month ≤ 2 then d.month+9 else d.month-3
  let cycle := y/400
  let yoc := y%400
  -- five months from March on have 153 days, and so have the next five
  let doy := (153*m+2)/5 + d.day - 1
  -- 146097 days make 400 years, and 719468 lie between the first of March of year 0 and 1970
  cycle*146097 + (yoc*365 + yoc/4 - yoc/100 + doy) - 719468

def ofDays (days : Int) : CivilDate :=
  let n := days+719468
  let cycle := n/146097
  let doc := n%146097
  -- the leap days that lie before the day are taken out, then all years have 365 days
  let yoc := (doc - doc/1460 + doc/36524 - doc/146096)/365
  let doy := doc - (365*yoc + yoc/4 - yoc/100)
  let m := (5*doy+2)/153
  let day := doy - (153*m+2)/5 + 1
  let month := if m < 10 then m+3 else m-9
  ⟨(if month ≤ 2 then yoc+1 else yoc) + cycle*400, month.toNat, day.toNat⟩

end CivilDate

end Freehold
