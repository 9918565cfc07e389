import LeaseBook.Ledger.Offer
import LeaseBook.Ledger.Request

/-!
All operations on a ledger as one type, so that a run is a list. Each operation happens at an
instant, answers something, and leaves a ledger behind.
-/

namespace LeaseBook

inductive Operation where
  | offer (q : Discovery)
  | request (q : Demand)
  | release (c : Client) (a : Address)
  | decline (a : Address)
  | committed
  | declined
  | reconfigure (pool : Pool)

inductive Answer where
  | lease (l : Lease)
  | refused (r : Refusal)
  | released (found : Bool)
  | noted
  | leases (ls : List Lease)
  | addresses (as : List Address)
  | serving (pool : Pool)

namespace Answer

def ofLease : Except Refusal Lease → Answer
  | .ok l => .lease l
  | .error r => .refused r

end Answer

namespace Operation

def run (now : Int) (l : Ledger) : Operation → Outcome Answer
  | offer q => (l.offer now q).map .ofLease
  | request q => (l.request now q).map .ofLease
  | release c a => (l.release c a).map .released
  | decline a => (l.decline now a).map fun _ => .noted
  | committed => (l.committedLeases now).map .leases
  | declined => (l.declinedAddresses now).map fun as => .addresses (Address.sorted as)
  | reconfigure pool => (l.reconfigure pool).map fun _ => .serving pool

end Operation
end LeaseBook
