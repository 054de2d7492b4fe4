import Freehold.Toml.Value

/-!
The tables of a TOML document while it is read. A table is opened by a header, by a header of a table
inside it, or by a dotted key, and the three may be added to in different ways. No key is set twice.
-/

namespace Freehold.Toml

inductive TableKind where
  | header
  | implicit
  | dotted
deriving DecidableEq

inductive Node where
  | value (v : Value)
  | table (kind : TableKind) (fields : List (String × Node))
  -- The tables of one header in double brackets, the last one first.
  | tables (items : List (List (String × Node)))

abbrev Fields := List (String × Node)

def Fields.set (fields : Fields) (key : String) (node : Node) : Fields :=
  fields.map fun (k,n) => if k = key then (k,node) else (k,n)

/-- Changes the table that a path leads to. Tables on the way are opened where there are none, and
of several tables of one header the last is meant. A dotted path does not enter a table that has a
header of its own. -/
def Fields.update (isDotted : Bool) (change : TableKind → Fields → Option Fields) :
    List String → TableKind → Fields → Option Fields
  | [], kind, fields => change kind fields
  | key :: path, _, fields =>
    match fields.lookup key with
    | none => do
      let kind := if isDotted then .dotted else .implicit
      let sub ← update isDotted change path kind []
      some (fields ++ [(key, .table kind sub)])
    | some (.value _) => none
    | some (.tables []) => none
    | some (.tables (last :: earlier)) => do
      let sub ← update isDotted change path .header last
      some (fields.set key (.tables (sub :: earlier)))
    | some (.table kind sub) =>
      if isDotted ∧ kind = .header then none
      else do
        let sub ← update isDotted change path kind sub
        some (fields.set key (.table kind sub))

def Fields.insertNew (key : String) (node : Node) (fields : Fields) : Option Fields :=
  match fields.lookup key with
  | none => some (fields ++ [(key,node)])
  | some _ => none

def Fields.insertAt (path : List String) (key : String) (v : Value) (fields : Fields) :
    Option Fields :=
  fields.update true
    (fun kind sub =>
      if path ≠ [] ∧ kind ≠ .dotted then none else sub.insertNew key (.value v))
    path .header

/-- Opens the table of a header. A table that was opened on the way to another one may still get
its header. -/
def Fields.open (path : List String) (key : String) (fields : Fields) : Option Fields :=
  fields.update false
    (fun _ sub =>
      match sub.lookup key with
      | none => some (sub ++ [(key, .table .header [])])
      | some (.table .implicit inner) => some (sub.set key (.table .header inner))
      | some _ => none)
    path .header

def Fields.openNext (path : List String) (key : String) (fields : Fields) : Option Fields :=
  fields.update false
    (fun _ sub =>
      match sub.lookup key with
      | none => some (sub ++ [(key, .tables [[]])])
      | some (.tables items) => some (sub.set key (.tables ([] :: items)))
      | some _ => none)
    path .header

mutual

def Node.toValue : Node → Value
  | .value v => v
  | .table _ fields => .table (Fields.toValues fields)
  | .tables items => .list (Fields.toTables items)

def Fields.toValues : List (String × Node) → List (String × Value)
  | [] => []
  | (key,node) :: rest => (key,node.toValue) :: Fields.toValues rest

def Fields.toTables : List (List (String × Node)) → List Value
  | [] => []
  | fields :: earlier => Fields.toTables earlier ++ [.table (Fields.toValues fields)]

end

end Freehold.Toml
