import LeaseBook.Pool.Basic

/-!
Building a pool from values. Parameters are checked in a fixed order: the subnet and its size, the
lease time, the reserved addresses, and last whether the lease time is a whole number.
-/

namespace LeaseBook

namespace Pool

/-- Whether a value is a number above zero, or an identifier that comes after the first of all,
as every one of the longer kind does. What is no number passes as well, and is found out when it
is made whole. -/
def checkLeaseTime (v : Value) : Except Fault Unit :=
  let nonpositive? : Option Bool :=
    match v with
    | .real x => some x.isNonpositive
    | .identifier (.short h) => some (h.number == 0)
    | .identifier (.long _) => some false
    | v => v.int?.map fun i => decide (i ≤ 0)
  match nonpositive? with
  | none => .error (.leaseTimeNotNumber v)
  | some true => .error (.leaseTimeNotPositive v)
  | some false => .ok ()

def readReserved : List Value → Except Fault (List Address)
  | [] => .ok []
  | v :: rest =>
    match v.toAddress with
    | .error e => .error e
    | .ok a => (readReserved rest).map (a :: ·)

def ofValues (subnet reserved leaseTime : Value) : Except Fault Pool := do
  let s ← subnet.toSubnet
  if h : s.length ≤ maxLength then
    checkLeaseTime leaseTime
    let items ← reserved.toItems
    let addresses ← readReserved items
    let time ← leaseTime.toWhole
    return ⟨s, Address.sorted addresses, time.toNat, h⟩
  else
    throw (.nothingAssignable s.length)

end Pool
end LeaseBook
