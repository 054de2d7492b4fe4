import Freehold.Text.Digits
import Freehold.Timestamp.Calendar
import Freehold.Toml.Value

/-!
The scalar values of TOML that are not quoted: truth values, integers, floating-point numbers, dates
and times. Each of them is a word of its own characters, and a word is read as a whole.
-/

namespace Freehold.Toml

def isWordChar (c : Char) : Bool :=
  c.isAlphanum || c == '_' || c == '+' || c == '-' || c == '.' || c == ':'

/-- Digits after the first one, an underscore standing between two of them at most. -/
def digitsAfter (isDigit : Char → Bool) : List Char → Option (List Char)
  | [] => some []
  | '_' :: c :: cs => if isDigit c then (digitsAfter isDigit cs).map (c :: ·) else none
  | c :: cs => if isDigit c then (digitsAfter isDigit cs).map (c :: ·) else none

def digits (isDigit : Char → Bool) : List Char → Option (List Char)
  | [] => none
  | c :: cs => if isDigit c then (digitsAfter isDigit cs).map (c :: ·) else none

def valueOf (base : Nat) (ds : List Char) : Nat :=
  ds.foldl (fun n d => base*n + (Digits.value? d).getD 0) 0

def isDigitOf (base : Nat) (c : Char) : Bool :=
  match Digits.value? c with
  | some d => d < base
  | none => false

def based (base : Nat) (cs : List Char) : Option Nat :=
  (digits (isDigitOf base) cs).map (valueOf base)

def decimal (cs : List Char) : Option Nat :=
  match digits (isDigitOf 10) cs with
  | some ['0'] => some 0
  | some ('0' :: _) => none
  | some ds => some (valueOf 10 ds)
  | none => none

def unsigned : List Char → Bool × List Char
  | '+' :: cs => (false,cs)
  | '-' :: cs => (true,cs)
  | cs => (false,cs)

def integer : List Char → Option Int
  | '0' :: 'x' :: cs => (based 16 cs).map (·)
  | '0' :: 'o' :: cs => (based 8 cs).map (·)
  | '0' :: 'b' :: cs => (based 2 cs).map (·)
  | cs =>
    let (negative,cs) := unsigned cs
    (decimal cs).map fun n => if negative then -(n : Int) else n

def inRange (n : Int) : Bool := Int64.minValue.toInt ≤ n && n ≤ Int64.maxValue.toInt

def exponent (cs : List Char) : Option Int :=
  let (negative,cs) := unsigned cs
  (digits (isDigitOf 10) cs).map fun ds =>
    if negative then -(valueOf 10 ds : Int) else valueOf 10 ds

/-- Whether `n` times ten to the power `e` is nearer to infinity than to a 64-bit number. -/
def overflows (n : Nat) (e : Int) : Bool :=
  let size := (Nat.toDigits 10 n).length + e
  -- the bound lies halfway between the largest number and the next power of two
  n ≠ 0 && (310 < size ||
    (308 < size && 1<<<1024 - 1<<<970 ≤ n*Nat.pow 10 e.toNat/Nat.pow 10 (-e).toNat))

def floatTail (whole : List Char) : List Char → Option (Nat × Int)
  | '.' :: cs =>
    let (fraction,rest) := cs.span fun c => isDigitOf 10 c || c == '_'
    match digits (isDigitOf 10) fraction, rest with
    | some ds, [] => some (valueOf 10 (whole ++ ds), -ds.length)
    | some ds, e :: cs =>
      if e == 'e' || e == 'E' then
        (exponent cs).map fun k => (valueOf 10 (whole ++ ds), k-ds.length)
      else none
    | none, _ => none
  | e :: cs =>
    if e == 'e' || e == 'E' then (exponent cs).map fun k => (valueOf 10 whole, k) else none
  | [] => none

def isFloat (cs : List Char) : Bool :=
  let (negative,cs) := unsigned cs
  if cs = "inf".toList ∨ cs = "nan".toList then true
  else
    let (whole,rest) := cs.span fun c => isDigitOf 10 c || c == '_'
    match digits (isDigitOf 10) whole, decimal whole with
    | some ds, some _ =>
      match floatTail ds rest with
      | some (n,e) => negative || !overflows n e
      | none => false
    | _, _ => false

def fieldThen (width : Nat) (stop : Char) (cs : List Char) : Option (Nat × List Char) :=
  match Digits.read 10 width cs with
  | some (n,c :: rest) => if c = stop then some (n,rest) else none
  | _ => none

def date (cs : List Char) : Option (List Char) := do
  let (year,cs) ← fieldThen 4 '-' cs
  let (month,cs) ← fieldThen 2 '-' cs
  let (day,cs) ← Digits.read 10 2 cs
  if CivilDate.isValid ⟨year,month,day⟩ then some cs else none

def time (cs : List Char) : Option (List Char) := do
  let (hour,cs) ← fieldThen 2 ':' cs
  let (minute,cs) ← fieldThen 2 ':' cs
  let (second,cs) ← Digits.read 10 2 cs
  if hour < 24 ∧ minute < 60 ∧ second ≤ 60 then
    match cs with
    | '.' :: rest =>
      if (rest.takeWhile Char.isDigit).isEmpty then none else some (rest.dropWhile Char.isDigit)
    | _ => some cs
  else none

def isOffset : List Char → Bool
  | [] | ['Z'] | ['z'] => true
  | c :: cs =>
    (c == '+' || c == '-') &&
      match fieldThen 2 ':' cs with
      | some (hours,rest) =>
        match Digits.read 10 2 rest with
        | some (minutes,[]) => hours < 24 && minutes < 60
        | _ => false
      | none => false

def isDate (cs : List Char) : Bool := date cs = some []

def isDateOrTime (cs : List Char) : Bool :=
  time cs = some [] ||
    match date cs with
    | some [] => true
    | some (c :: rest) =>
      (c == 'T' || c == 't' || c == ' ') &&
        match time rest with
        | some rest => isOffset rest
        | none => false
    | none => false

def scalar (word : List Char) : Option Value :=
  if word = "true".toList then some (.bool true)
  else if word = "false".toList then some (.bool false)
  else
    match integer word with
    | some n => if inRange n then some (.int n) else none
    | none =>
      if isFloat word then some (.real (String.ofList word))
      else if isDateOrTime word then some .moment
      else none

def word (cs : List Char) : Option (Value × List Char) :=
  let (first,rest) := cs.span isWordChar
  match rest with
  | ' ' :: c :: more =>
    if isDate first && c.isDigit then
      let (second,rest) := (c :: more).span isWordChar
      (scalar (first ++ ' ' :: second)).map fun v => (v,rest)
    else (scalar first).map fun v => (v,rest)
  | _ => (scalar first).map fun v => (v,rest)

end Freehold.Toml
