import LeaseBook.Ledger.Basic

/-!
Offers. A client that discovers servers is offered its own lease, the address it wishes for, a free
address found from its seed, or an address that was declined, in this order. An offer commits
nothing.
-/

namespace LeaseBook

structure Discovery where
  client : Client
  /-- The address it speaks from. -/
  source : Option Address
  /-- The address of the relay that passed the message on. -/
  relay : Option Address
  /-- The address it wishes for. -/
  requested : Option Address
  hostname : Value

namespace Ledger

/-- Whether an address is given, other than 0.0.0.0, and lies outside the subnet. -/
def isOutside (l : Ledger) (a : Option Address) : Bool :=
  match a with
  | none => false
  | some a => a != Address.unspecified && !l.pool.contains a

/-- Whether an address can be offered on request. Whether it was declined does not matter here. -/
def isOfferable (l : Ledger) (a : Address) : Bool :=
  l.pool.contains a && l.pool.isValid a && l.isAvailable a

def freeAddress? (l : Ledger) (h : Hardware) : Option Address :=
  l.pool.findCandidate h fun a => l.isAvailable a && !l.declined.contains a

/-- Offers an address that the client did not ask for: a free one, or else the oldest declined
one that can be assigned, which takes all older declines with it. -/
def offerNew (expiration : Int) (q : Discovery) (l : Ledger) : Outcome (Except Refusal Lease) :=
  match l.freeAddress? q.client.hardware with
  | some a =>
    let lease : Lease := ⟨q.client, a, expiration, q.hostname⟩
    .plain (.ok lease) l [.offeringNew lease]
  | none =>
    match l.declined.cut? fun a => l.pool.isValid a && l.isAvailable a with
    | some (a, rest) =>
      let lease : Lease := ⟨q.client, a, expiration, q.hostname⟩
      .plain (.ok lease) { l with declined := rest } [.recycling a, .offeringNew lease]
    | none => .plain (.error .exhausted) l [.exhausted q.client.hardware l.pool.subnet]

def offerSwept (now : Int) (q : Discovery) (l : Ledger) : Outcome (Except Refusal Lease) :=
  let expiration := now + l.pool.leaseTime
  match l.leaseOf q.client with
  | some current =>
    let lease := current.renew expiration q.hostname
    .plain (.ok lease) l [.offeringExtended lease]
  | none =>
    match q.requested.filter l.isOfferable with
    | some a =>
      let lease : Lease := ⟨q.client, a, expiration, q.hostname⟩
      .plain (.ok lease) l [.offeringRequested lease]
    | none =>
      if l.isOutside q.source then .plain (.error .sourceOutside) l []
      else if l.isOutside q.relay then .plain (.error .relayOutside) l []
      else l.offerNew expiration q

def offer (now : Int) (q : Discovery) (l : Ledger) : Outcome (Except Refusal Lease) :=
  l.swept now (offerSwept now q)

end Ledger
end LeaseBook
