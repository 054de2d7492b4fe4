import Freehold.Error
import Freehold.Text.Blank
import Freehold.Text.LowerCase

/-!
The names of villages. A name has a bounded number of characters, starts with an ASCII letter or
digit and may go on with spaces, `_`, `-` and the apostrophe, no blank standing at its ends. Two
names that differ only in case are the same name.
-/

namespace Freehold.VillageName

def isLetterOrDigit (c : Char) : Bool := c.isAlphanum

def mayFollow (c : Char) : Bool :=
  isLetterOrDigit c || c == ' ' || c == '_' || c.toNat == 0x27 || c == '-'

def hasPattern : List Char → Bool
  | [] => false
  | c :: rest => isLetterOrDigit c && rest.all mayFollow

def trim (cs : List Char) : List Char := (dropBlanks (dropBlanks cs).reverse).reverse

/-- A name is refused first for being empty, then for its length, then for its characters. -/
def check (name : String) (shortest longest : Nat) : Except ValidationError Unit :=
  let cs := name.toList
  if cs = [] then .error (.requiredFieldMissing "name")
  else if cs.length < shortest ∨ longest < cs.length then
    .error (.invalidValue "name" ("must be between " ++ toString shortest ++ " and " ++
      toString longest ++ " characters, got " ++ toString cs.length))
  else if trim cs ≠ cs ∨ hasPattern cs = false then
    .error (.invalidValue "name" "may only contain letters, digits, spaces, '_', '-' and '''")
  else .ok ()

def key (name : String) : String := LowerCase.text name

end Freehold.VillageName
