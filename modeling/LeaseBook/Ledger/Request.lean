import LeaseBook.Ledger.Basic

/-!
Requests, releases and declines. A request confirms an address in one of three states of the
client: it selects an offer, it verifies after a restart what it had before, or it renews. The
last two are confirmed also when the ledger has no record of the client, so that clients survive
the loss of the ledger.
-/

namespace LeaseBook

structure Demand where
  client : Client
  source : Option Address
  requested : Option Address
  /-- Whether it names the server whose offer it takes. -/
  serverChosen : Bool
  hostname : Value

namespace Ledger

/-- The lease on an address that stands in the way of a new one. A lease that is about to be
dropped does not. -/
def holder? (l : Ledger) (a : Address) (dropping : Option Lease) : Option Lease :=
  (l.committed.find? a).filter fun current => dropping.map Lease.address != some current.address

/-- The lease that a client may have on an address: its lease there renewed, or a new one. -/
def grant (now : Int) (c : Client) (a : Address) (hostname : Value) (dropping : Option Lease)
    (l : Ledger) : Except Refusal Lease :=
  let expiration := now + l.pool.leaseTime
  match l.holder? a dropping with
  | some current =>
    if current.isOf c then .ok (current.renew expiration hostname) else .error .inUse
  | none =>
    if l.pool.contains a && l.pool.isValid a && !l.pool.isReserved a then
      .ok ⟨c, a, expiration, hostname⟩
    else .error .unavailable

def commit (lease : Lease) (l : Ledger) : Ledger :=
  { l with
    committed := l.committed.put lease.address lease
    nextCheck := min lease.expiration l.nextCheck }

def dropLease (old : Option Lease) (l : Ledger) : Ledger :=
  match old with
  | none => l
  | some old => { l with committed := l.committed.erase old.address }

def confirm (now : Int) (q : Demand) (a : Address) (dropping : Option Lease) (note : Note)
    (l : Ledger) : Outcome (Except Refusal Lease) :=
  match l.grant now q.client a q.hostname dropping with
  | .error refusal => .plain (.error refusal) l [note]
  | .ok lease =>
    .plain (.ok lease) ((l.dropLease dropping).commit lease) [note, .leaseCommitted lease]

def isElsewhere (assigned : Option Lease) (a : Address) : Bool :=
  match assigned with
  | none => false
  | some lease => lease.address != a

def requestSwept (now : Int) (q : Demand) (l : Ledger) : Outcome (Except Refusal Lease) :=
  let assigned := l.leaseOf q.client
  match q.requested with
  | some a =>
    if q.serverChosen then l.confirm now q a assigned (.selecting a)
    else if isElsewhere assigned a then .plain (.error .rebootMismatch) l []
    else l.confirm now q a none (.rebooting a)
  | none =>
    match q.source with
    | none => .plain (.error .noClientAddress) l []
    | some a =>
      if isElsewhere assigned a then .plain (.error .renewalMismatch) l []
      else l.confirm now q a none (.renewing a)

def request (now : Int) (q : Demand) (l : Ledger) : Outcome (Except Refusal Lease) :=
  l.swept now (requestSwept now q)

def release (c : Client) (a : Address) (l : Ledger) : Outcome Bool :=
  match (l.committed.find? a).filter fun current => current.isOf c with
  | none => .plain false l [.releaseIgnored a c.hardware]
  | some current =>
    .plain true { l with committed := l.committed.erase a } [.leaseReleased current]

/-- Withholds an address of the subnet for one lease time, unless it is withheld already. -/
def decline (now : Int) (a : Address) (l : Ledger) : Outcome Unit :=
  if l.declined.contains a || !l.pool.contains a then .plain () l []
  else
    let expiration := now + l.pool.leaseTime
    let withheld := { l with
      declined := l.declined.put a expiration
      nextCheck := min expiration l.nextCheck }
    .plain () withheld [.addressDeclined a expiration]

end Ledger
end LeaseBook
