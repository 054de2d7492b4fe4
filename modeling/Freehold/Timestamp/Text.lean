import Freehold.Text.Blank
import Freehold.Text.Digits
import Freehold.Timestamp
import Freehold.Timestamp.Calendar

/-!
Times as text, after RFC 3339. The writer gives universal time with `Z` and the fewest of 0, 3, 6 or
9 fraction digits that lose nothing. The reader takes any offset and is lenient: blanks may stand
between the parts, a blank may stand for the `T`, a signed year may have any number of digits, parts
need no leading zeros, and the colon of the offset may be left out.
-/

namespace Freehold.Timestamp

def fraction (nanos : Nat) : List Char :=
  if nanos = 0 then []
  else if nanos%1000000 = 0 then '.' :: Digits.fixed 10 3 (nanos/1000000)
  else if nanos%1000 = 0 then '.' :: Digits.fixed 10 6 (nanos/1000)
  else '.' :: Digits.fixed 10 9 nanos

def yearText (year : Int) : List Char :=
  if 0 ≤ year ∧ year ≤ 9999 then Digits.fixed 10 4 year.toNat
  else
    let digits := Nat.toDigits 10 year.natAbs
    (if year < 0 then '-' else '+') :: (List.replicate (4-digits.length) '0' ++ digits)

/-- During a leap second the seconds read 60. -/
def chars (t : Timestamp) : List Char :=
  let date := CivilDate.ofDays (t.seconds/86400)
  let clock := (t.seconds%86400).toNat
  let leap := t.nanos/1000000000
  yearText date.year ++ '-' :: Digits.fixed 10 2 date.month ++ '-' :: Digits.fixed 10 2 date.day ++
    'T' :: Digits.fixed 10 2 (clock/3600) ++ ':' :: Digits.fixed 10 2 (clock/60%60) ++
    ':' :: Digits.fixed 10 2 (clock%60+leap) ++ fraction (t.nanos%1000000000) ++ ['Z']

def text (t : Timestamp) : String := String.ofList t.chars

def number (most : Nat) (cs : List Char) : Option (Nat × Nat × List Char) :=
  let digits := (cs.take most).takeWhile Char.isDigit
  if digits = [] then none
  else some (digits.length, digits.foldl (fun n d => 10*n + (d.toNat-48)) 0, cs.drop digits.length)

def part (low high : Nat) (cs : List Char) : Option (Nat × List Char) :=
  match number 2 (dropBlanks cs) with
  | some (_,n,rest) => if low ≤ n ∧ n ≤ high then some (n,rest) else none
  | none => none

def yearPart (cs : List Char) : Option (Int × List Char) :=
  match dropBlanks cs with
  | '-' :: rest => (number rest.length rest).map fun (_,n,r) => (-(n : Int),r)
  | '+' :: rest => (number rest.length rest).map fun (_,n,r) => ((n : Int),r)
  | rest => (number 4 rest).map fun (_,n,r) => ((n : Int),r)

def mark (c : Char) : List Char → Option (List Char)
  | d :: rest => if d = c then some rest else none
  | [] => none

def spacedMark (c : Char) (cs : List Char) : Option (List Char) := mark c (dropBlanks cs)

def fractionPart : List Char → Option (Nat × List Char)
  | '.' :: rest =>
    -- Further digits are passed over.
    (number 9 rest).map fun (count,n,r) => (n*Nat.pow 10 (9-count), r.dropWhile Char.isDigit)
  | rest => some (0,rest)

def isDateEnd (c : Char) : Bool := c == 't' || c == 'T' || c == ' '

def twoDigits : List Char → Option (Nat × List Char)
  | a :: b :: rest =>
    if a.isDigit && b.isDigit then some (10*(a.toNat-48) + (b.toNat-48), rest) else none
  | _ => none

def signPart : List Char → Option (Int × List Char)
  | '+' :: rest => some (1,rest)
  | '-' :: rest => some (-1,rest)
  -- This is the minus sign of typography.
  | c :: rest => if c.toNat = 0x2212 then some (-1,rest) else none
  | [] => none

/-- Seconds ahead of universal time: `Z`, the word UTC, or hours and minutes after a sign. -/
def offsetPart (cs : List Char) : Option (Int × List Char) :=
  if (cs.take 3).map Char.toUpper = ['U','T','C'] then some (0, cs.drop 3)
  else
    match cs with
    | 'Z' :: rest | 'z' :: rest => some (0,rest)
    | _ => do
      let (sign,rest) ← signPart cs
      let (hours,rest) ← twoDigits rest
      let (minutes,rest) ← twoDigits (rest.dropWhile fun c => c == ':' || isBlank c)
      if minutes < 60 ∧ hours < 24 then some (sign*(hours*3600 + minutes*60), rest) else none

/-- The years that a time may fall in, before and after its offset is taken off. -/
def inRange (year : Int) : Bool := -262143 ≤ year && year ≤ 262142

def parseChars? (cs : List Char) : Option Timestamp := do
  let (year,cs) ← yearPart cs
  let cs ← spacedMark '-' cs
  let (month,cs) ← part 1 12 cs
  let cs ← spacedMark '-' cs
  let (day,cs) ← part 1 31 cs
  let (stop,cs) ← cs.head?.map fun c => (c,cs.tail)
  if !isDateEnd stop then none
  let (hour,cs) ← part 0 23 cs
  let cs ← spacedMark ':' cs
  let (minute,cs) ← part 0 59 cs
  let cs ← spacedMark ':' cs
  let (second,cs) ← part 0 60 cs
  let (nanos,cs) ← fractionPart cs
  let (offset,cs) ← offsetPart (dropBlanks cs)
  let date : CivilDate := ⟨year,month,day⟩
  let seconds := date.toDays*86400 + (hour*3600 + minute*60 + (min second 59 : Nat)) - offset
  let shown := CivilDate.ofDays (seconds/86400)
  if dropBlanks cs = [] ∧ date.isValid ∧ inRange year ∧ inRange shown.year then
    if h : nanos < 1000000000 then
      some ⟨seconds, nanos + (if second = 60 then 1000000000 else 0), by split <;> omega⟩
    else none
  else none

def parse? (s : String) : Option Timestamp := parseChars? s.toList

end Freehold.Timestamp
