import Freehold.Data

/-!
The values of TOML. There is no null among them: what has no value is left out.
-/

namespace Freehold.Toml

inductive Value where
  | bool (b : Bool)
  | int (n : Int)
  -- A floating-point number as it is written.
  | real (text : String)
  | text (s : String)
  -- A date, a time of day, or both.
  | moment
  | list (items : List Value)
  | table (fields : List (String × Value))

mutual

/-- The value as plain data. A date or a time holds nothing that can be asked for, like an empty
record, and a list may hold more than is asked for. -/
def Value.toData : Value → Data
  | .bool b => .bool b
  | .int n => .int n
  | .real s => .real s
  | .text s => .text s
  | .moment => .record []
  | .list items => .openList (Value.listToData items)
  | .table fields => .record (Value.fieldsToData fields)

def Value.listToData : List Value → List Data
  | [] => []
  | v :: vs => v.toData :: Value.listToData vs

def Value.fieldsToData : List (String × Value) → List (String × Data)
  | [] => []
  | (key,v) :: rest => (key,v.toData) :: Value.fieldsToData rest

end

theorem Value.toData_ne_null (v : Value) : v.toData ≠ .null := by
  cases v <;> simp [Value.toData]

/-- A field of a table is read as the data of its value. -/
theorem Value.lookup_fieldsToData (fields : List (String × Value)) (key : String) :
    (Value.fieldsToData fields).lookup key = (fields.lookup key).map Value.toData := by
  induction fields with
  | nil => rfl
  | cons f rest ih =>
    obtain ⟨k,v⟩ := f
    simp only [Value.fieldsToData, List.lookup_cons]
    cases key == k <;> simp [ih]

end Freehold.Toml
