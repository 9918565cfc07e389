import LeaseBook.Value.Basic

/-!
When two values count as equal. Numbers agree when they are numerically equal, whatever their
kind, and truth values count as one and zero. Lists agree item by item, objects field by field in
any order.
-/

namespace LeaseBook.Value

def realAgrees (x : Binary64) (i : Int) : Bool := x.whole? == some i

mutual

def agrees : Value → Value → Bool
  | .list xs, .list ys => itemsAgree xs ys
  | .object fs, .object gs => fs.length == gs.length && fieldsAgree fs gs
  | .null, .null => true
  | .text s, .text t => s == t
  | .real x, .real y => x.same y || (x == .nan && y == .nan)
  | .address a, .address b => decide (a = b)
  | .network m, .network n => decide (m = n)
  | .identifier d, .identifier e => decide (d = e)
  | .bytes a, .bytes b => a == b
  | .real x, w => match w.int? with
    | some i => realAgrees x i
    | none => false
  | v, .real y => match v.int? with
    | some i => realAgrees y i
    | none => false
  | v, w => match v.int?, w.int? with
    | some i, some j => i == j
    | _, _ => false

def itemsAgree : List Value → List Value → Bool
  | [], [] => true
  | x :: xs, y :: ys => agrees x y && itemsAgree xs ys
  | _, _ => false

/-- Whether every field of the first list agrees with the field of that name in the second. -/
def fieldsAgree : List (RawText × Value) → List (RawText × Value) → Bool
  | [], _ => true
  | (name, value) :: fields, gs =>
    (match field? name gs with
      | some w => agrees value w
      | none => false) && fieldsAgree fields gs

end

end LeaseBook.Value
