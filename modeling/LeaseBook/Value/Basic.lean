import LeaseBook.Number.Shortest
import LeaseBook.Text.Raw
import LeaseBook.Net.Hardware
import LeaseBook.Net.Subnet

/-!
Values as callers hand them in: plain data, or an address, a network, an identifier or bytes that
are built already. Parameters and message fields are kept as values until an operation reads
them, and a host name is carried as a value from end to end.
-/

namespace LeaseBook

/-- A value. The fields of an object are in order, and no name occurs twice. -/
inductive Value where
  | null
  | bool (b : Bool)
  | int (i : Int)
  | real (x : Binary64)
  | text (s : RawText)
  | list (items : List Value)
  | object (fields : List (RawText × Value))
  | address (a : IpAddress)
  | network (n : IpNetwork)
  | identifier (e : Identifier)
  | bytes (b : List UInt8)

namespace Value

instance : Inhabited Value := ⟨.null⟩

/-- Sets a field: in place where the name occurs, at the end where it does not. -/
def setField (name : RawText) (value : Value) :
    List (RawText × Value) → List (RawText × Value)
  | [] => [(name, value)]
  | field :: fields =>
    if field.1 = name then (name, value) :: fields else field :: setField name value fields

def field? (name : RawText) : List (RawText × Value) → Option Value
  | [] => none
  | field :: fields => if field.1 = name then some field.2 else field? name fields

theorem field?_setField_self (name : RawText) (value : Value) (fields : List (RawText × Value)) :
    field? name (setField name value fields) = some value := by
  induction fields with
  | nil => simp [setField, field?]
  | cons field fields ih =>
    simp only [setField]
    split
    · simp [field?]
    · rename_i h
      simp [field?, h, ih]

/-- Whether a value says yes. Null, false, zero and everything empty do not. -/
def isTrue : Value → Bool
  | .null => false
  | .bool b => b
  | .int i => i != 0
  | .real x => !x.isZero
  | .text s => !s.isEmpty
  | .list items => !items.isEmpty
  | .object fields => !fields.isEmpty
  | .address _ => true
  | .network _ => true
  | .identifier _ => true
  | .bytes b => !b.isEmpty

/-- The whole number that a value is. The two truth values are one and zero. -/
def int? : Value → Option Int
  | .int i => some i
  | .bool b => some (if b then 1 else 0)
  | _ => none

def isNull : Value → Bool
  | .null => true
  | _ => false

end Value
end LeaseBook
