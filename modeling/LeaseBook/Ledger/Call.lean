import LeaseBook.Ledger.Operation
import LeaseBook.Pool.Building

/-!
Operations as callers hand them in, with values where addresses are meant. A call is read before
anything happens: one that cannot be read leaves the ledger as it is.
-/

namespace LeaseBook

inductive Call where
  | offer (id : Option (List UInt8)) (mac source relay requested hostname : Value)
  | request (id : Option (List UInt8)) (mac source requested : Value) (serverChosen : Bool)
      (hostname : Value)
  | release (id : Option (List UInt8)) (mac address : Value)
  | decline (address : Value)
  | committed
  | declined
  | reconfigure (subnet reserved leaseTime : Value)

namespace Call

/-- The operation that a call stands for. Of several faults the first parameter's counts. -/
def operation : Call → Except Fault Operation
  | offer id mac source relay requested hostname => do
    let hardware ← mac.toHardware
    let source ← source.toAddress?
    let relay ← relay.toAddress?
    let requested ← requested.toAddress?
    return .offer ⟨⟨id, hardware⟩, source, relay, requested, hostname⟩
  | request id mac source requested serverChosen hostname => do
    let hardware ← mac.toHardware
    let source ← source.toAddress?
    let requested ← requested.toAddress?
    return .request ⟨⟨id, hardware⟩, source, requested, serverChosen, hostname⟩
  | release id mac address => do
    let hardware ← mac.toHardware
    let address ← address.toAddress
    return .release ⟨id, hardware⟩ address
  | decline address => do
    let address ← address.toAddress
    return .decline address
  | committed => .ok .committed
  | declined => .ok .declined
  | reconfigure subnet reserved leaseTime => do
    let pool ← Pool.ofValues subnet reserved leaseTime
    return .reconfigure pool

def run (now : Int) (l : Ledger) (c : Call) : Outcome (Except Fault Answer) :=
  match c.operation with
  | .error fault => .plain (.error fault) l []
  | .ok operation => (operation.run now l).written

end Call
end LeaseBook
