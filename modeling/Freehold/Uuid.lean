import Freehold.Order
import Freehold.Text.Digits

/-!
128-bit identifiers and their texts. The written form is lower-case and hyphenated in groups of
8, 4, 4, 4 and 12 hexadecimal digits. The reader takes digits of either case and also the plain,
the braced and the URN form.
-/

namespace Freehold
open Std

structure Uuid where
  bits : BitVec 128
deriving DecidableEq

namespace Uuid

instance : Ord Uuid := ⟨compareOn Uuid.bits⟩

instance : TransOrd Uuid := inferInstanceAs (TransCmp (compareOn Uuid.bits))

instance : LawfulEqOrd Uuid :=
  lawfulEqCmp_compareOn (f := Uuid.bits) fun {a b} h => by cases a; cases b; simp_all

def ofNat (n : Nat) : Uuid := ⟨BitVec.ofNat 128 n⟩

def toNat (u : Uuid) : Nat := u.bits.toNat

def zero : Uuid := ofNat 0

def isZero (u : Uuid) : Bool := u = zero

def groups : List Nat := [8, 4, 4, 4, 12]

def width : List Nat → Nat
  | [] => 0
  | w :: ws => w + width ws

def writeGroups (n : Nat) : List Nat → List Char
  | [] => []
  | [w] => Digits.fixed 16 w n
  | w :: ws => Digits.fixed 16 w (n/Nat.pow 16 (width ws)) ++ '-' :: writeGroups n ws

def readGroups (acc : Nat) : List Nat → List Char → Option (Nat × List Char)
  | [], cs => some (acc, cs)
  | [w], cs => Digits.readFrom 16 acc w cs
  | w :: ws, cs =>
    match Digits.readFrom 16 acc w cs with
    | some (n, '-' :: rest) => readGroups n ws rest
    | _ => none

/-- The canonical text, such as `0190a1b2-c3d4-7e5f-8a9b-0c1d2e3f4a5b`. -/
def text (u : Uuid) : String := String.ofList (writeGroups u.toNat groups)

def plainText (u : Uuid) : String := String.ofList (Digits.fixed 16 32 u.toNat)

def whole : Option (Nat × List Char) → Option Uuid
  | some (n, []) => some (ofNat n)
  | _ => none

def parseHyphenated (cs : List Char) : Option Uuid := whole (readGroups 0 groups cs)

def urnHead : List Char := "urn:uuid:".toList

/-- Which of the four forms is meant is decided by the length of the text alone. -/
def parseChars? (cs : List Char) : Option Uuid :=
  match cs.length with
  | 32 => whole (Digits.read 16 32 cs)
  | 36 => parseHyphenated cs
  | 38 =>
    if cs.head? = some '{' ∧ cs.getLast? = some '}' then parseHyphenated (cs.drop 1).dropLast
    else none
  | 45 => if (cs.take 9).map Char.toLower = urnHead then parseHyphenated (cs.drop 9) else none
  | _ => none

def parse? (s : String) : Option Uuid := parseChars? s.toList

end Uuid

end Freehold
