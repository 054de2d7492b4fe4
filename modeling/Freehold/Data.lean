/-!
Plain data, as JSON and TOML texts hold it, and the forms in which typed values are written as such.
A structure is written as a record of its fields. It is read from such a record, its fields in any
order and other fields passed over, or from the list of its fields in their order.
-/

namespace Freehold

inductive Data where
  | null
  | bool (b : Bool)
  | int (n : Int)
  -- A number that is not written as an integer.
  | real (text : String)
  | text (s : String)
  | list (items : List Data)
  -- A list of which only the items that are asked for count, whatever comes after them.
  | openList (items : List Data)
  | record (fields : List (String × Data))
deriving Inhabited

class DataForm (α : Type) where
  toData : α → Data
  ofData? : Data → Option α

export DataForm (toData ofData?)

namespace Data

/-- What a record holds under these names. Whatever else it repeats, it can give each of them once
only. -/
def named? (names : List String) (fields : List (String × Data)) : Option (List (Option Data)) :=
  if ∀ name ∈ names, fields.countP (fun f => f.1 == name) ≤ 1 then
    some (names.map fun name => fields.lookup name)
  else none

/-- The fields of a structure that has to be complete. A list has to have just these fields, an open
one at least these. -/
def fields? (names : List String) : Data → Option (List (Option Data))
  | record fields => named? names fields
  | list items => if items.length = names.length then some (items.map some) else none
  | openList items =>
    if names.length ≤ items.length then some ((items.take names.length).map some) else none
  | _ => none

/-- The fields of a structure that may be incomplete. A list may lack the last ones, and an open one
may also have more. -/
def someFields? (names : List String) : Data → Option (List (Option Data))
  | record fields => named? names fields
  | list items => if items.length ≤ names.length then some (fill items) else none
  | openList items => some (fill (items.take names.length))
  | _ => none
where
  -- The items, and no item for each name that none is left for.
  fill (items : List Data) : List (Option Data) :=
    items.map some ++ List.replicate (names.length-items.length) none

variable {α : Type} [DataForm α]

def required (field : Option Data) : Option α := field.bind ofData?

def orNull : Option Data → Option (Option α)
  | none | some null => some none
  | some d => (ofData? d).map some

def orDefault (default : α) : Option Data → Option α
  | none => some default
  | some d => ofData? d

end Data

instance : DataForm String where
  toData := .text
  ofData?
    | .text s => some s
    | _ => none

instance : DataForm Bool where
  toData := .bool
  ofData?
    | .bool b => some b
    | _ => none

def Data.natBelow? (bound : Nat) : Data → Option Nat
  | .int n => if 0 ≤ n ∧ n < bound then some n.toNat else none
  | _ => none

instance : DataForm UInt8 where
  toData n := .int n.toNat
  ofData? d := (d.natBelow? UInt8.size).map UInt8.ofNat

instance : DataForm UInt32 where
  toData n := .int n.toNat
  ofData? d := (d.natBelow? UInt32.size).map UInt32.ofNat

instance : DataForm UInt64 where
  toData n := .int n.toNat
  ofData? d := (d.natBelow? UInt64.size).map UInt64.ofNat

instance : DataForm Int32 where
  toData n := .int n.toInt
  ofData?
    | .int n => if Int32.minValue.toInt ≤ n ∧ n ≤ Int32.maxValue.toInt then some (Int32.ofInt n) else none
    | _ => none

instance {α : Type} [DataForm α] : DataForm (Option α) where
  toData
    | some a => toData a
    | none => .null
  ofData?
    | .null => some none
    | d => (ofData? d).map some

end Freehold
