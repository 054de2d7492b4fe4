import Freehold.Toml.Inline

/-!
Whole TOML documents: pairs of keys and values, one a line, under headers that say into which table
they go.
-/

namespace Freehold.Toml

structure Reading where
  root : Fields := []
  -- The table that pairs go into.
  current : List String := []

def Reading.set (r : Reading) (path : List String) (key : String) (v : Value) : Option Reading :=
  (r.root.update false (fun _ fields => fields.insertAt path key v) r.current .header).map
    fun root => { r with root := root }

def Reading.open (r : Reading) (path : List String) (key : String) : Option Reading :=
  (r.root.open path key).map fun root => ⟨root, path ++ [key]⟩

def Reading.openNext (r : Reading) (path : List String) (key : String) : Option Reading :=
  (r.root.openNext path key).map fun root => ⟨root, path ++ [key]⟩

def endLine (cs : List Char) : Option (List Char) :=
  let rest :=
    match skipSpaces cs with
    | '#' :: cs => cs.dropWhile isPlain
    | cs => cs
  match rest with
  | [] => some []
  | '\n' :: rest | '\r' :: '\n' :: rest => some rest
  | _ => none

def line (steps : Nat) (r : Reading) (cs : List Char) : Option (Reading × List Char) :=
  match cs with
  | '[' :: '[' :: cs =>
    match dottedKey cs with
    | some ((path,key), ']' :: ']' :: rest) => (r.openNext path key).map fun r => (r,rest)
    | _ => none
  | '[' :: cs =>
    match dottedKey cs with
    | some ((path,key), ']' :: rest) => (r.open path key).map fun r => (r,rest)
    | _ => none
  | cs =>
    match dottedKey cs with
    | some ((path,key), '=' :: rest) =>
      match value steps nesting (skipSpaces rest) with
      | some (v,rest) => (r.set path key v).map fun r => (r,rest)
      | none => none
    | _ => none

def lines : Nat → Reading → List Char → Option Reading
  | 0, _, _ => none
  | steps+1, r, cs =>
    match skipLines false cs with
    | [] => some r
    | cs =>
      match line (steps+1) r cs with
      | none => none
      | some (r,rest) =>
        match endLine rest with
        | none => none
        | some rest => lines steps r rest

def dropByteOrderMark : List Char → List Char
  | c :: cs => if c.toNat = 0xFEFF then cs else c :: cs
  | [] => []

def parse? (text : String) : Option Value :=
  let cs := dropByteOrderMark text.toList
  (lines (cs.length+1) {} cs).map fun r => .table (Fields.toValues r.root)

end Freehold.Toml

