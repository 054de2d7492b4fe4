import Freehold.Text.CaseContext
import Freehold.Text.CaseMap

/-!
Lower-case text, after Unicode. Each character is mapped on its own, but for two: a capital I with
a dot above becomes two characters, and a capital sigma at the end of a word gets its final form.
-/

namespace Freehold.LowerCase

def capitalSigma : Char := Char.ofNat 0x3A3

def dottedCapitalI : Char := Char.ofNat 0x130

def ofChar (c : Char) : List Char :=
  if c.toNat < 128 then [c.toLower]
  else if c = dottedCapitalI then ['i', Char.ofNat 0x307]
  else [Char.ofNat (c.toNat + CaseMap.shift c.toNat).toNat]

def meetsCase (cs : List Char) : Bool :=
  match cs.dropWhile CaseContext.isIgnorable with
  | c :: _ => CaseContext.isCased c
  | [] => false

/-- A sigma ends a word when a letter comes before it and none after it. -/
def sigma (before rest : List Char) : Char :=
  if meetsCase before && !meetsCase rest then Char.ofNat 0x3C2 else Char.ofNat 0x3C3

def after (before : List Char) : List Char → List Char
  | [] => []
  | c :: rest =>
    (if c = capitalSigma then [sigma before rest] else ofChar c) ++ after (c :: before) rest

def chars (cs : List Char) : List Char := after [] cs

def text (s : String) : String := String.ofList (chars s.toList)

end Freehold.LowerCase
