import LeaseBook.Journal.Note
import LeaseBook.Roster

/-!
The ledger of a pool: the committed leases, the addresses that clients have declined, and a bound
below which nothing has expired, so that the ledger need not be swept before it. All operations
take the present instant and return a new ledger.
-/

namespace LeaseBook

structure Ledger where
  pool : Pool
  committed : Roster Lease
  /-- Until when each declined address is withheld. -/
  declined : Roster Int
  /-- An instant before which nothing in the ledger expires. -/
  nextCheck : Int

structure Outcome (α : Type) where
  answer : α
  ledger : Ledger
  notes : List Note
  /-- What it leaves behind if it ends at the first note that cannot be put into words. -/
  halted : Ledger

namespace Outcome

variable {α β : Type}

/-- An outcome that leaves the same behind whether or not its notes can be put into words. -/
def plain (answer : α) (ledger : Ledger) (notes : List Note) : Outcome α :=
  ⟨answer, ledger, notes, ledger⟩

@[simp] theorem plain_answer (answer : α) (l : Ledger) (notes : List Note) :
    (plain answer l notes).answer = answer := rfl

@[simp] theorem plain_ledger (answer : α) (l : Ledger) (notes : List Note) :
    (plain answer l notes).ledger = l := rfl

@[simp] theorem plain_notes (answer : α) (l : Ledger) (notes : List Note) :
    (plain answer l notes).notes = notes := rfl

@[simp] theorem plain_halted (answer : α) (l : Ledger) (notes : List Note) :
    (plain answer l notes).halted = l := rfl

def map (f : α → β) (o : Outcome α) : Outcome β := ⟨f o.answer, o.ledger, o.notes, o.halted⟩

@[simp] theorem map_answer (f : α → β) (o : Outcome α) : (o.map f).answer = f o.answer := rfl

@[simp] theorem map_ledger (f : α → β) (o : Outcome α) : (o.map f).ledger = o.ledger := rfl

@[simp] theorem map_notes (f : α → β) (o : Outcome α) : (o.map f).notes = o.notes := rfl

@[simp] theorem map_halted (f : α → β) (o : Outcome α) : (o.map f).halted = o.halted := rfl

def noting (o : Outcome α) (note : Note) : Outcome α := { o with notes := o.notes ++ [note] }

def andThen (first : Outcome Unit) (operation : Ledger → Outcome α) : Outcome α :=
  let second := operation first.ledger
  { answer := second.answer
    ledger := second.ledger
    notes := first.notes ++ second.notes
    halted := if first.notes.all Note.isWritable then second.halted else first.halted }

/-- An outcome whose notes are put into words as it comes about. The first that cannot be is a fault
in the place of the answer, though what was done by then stays done. -/
def written (o : Outcome α) : Outcome (Except Fault α) :=
  if o.notes.all Note.isWritable then plain (.ok o.answer) o.ledger o.notes
  else plain (.error .longNumber) o.halted (o.notes.takeWhile Note.isWritable)

end Outcome

namespace Ledger

def fresh (pool : Pool) : Ledger := ⟨pool, Roster.empty, Roster.empty, Lease.never⟩

/-- Whether an address can no longer be kept: it lies outside the subnet or is reserved. -/
def isStranded (l : Ledger) (a : Address) : Bool :=
  !l.pool.contains a || l.pool.isReserved a

/-- Strikes out leases with a property one after the other, up to the first whose note cannot be
put into words. -/
def strikeLeases (note : Lease → Note) (gone : Address → Lease → Bool) (l : Ledger) : Ledger :=
  { l with committed := l.committed.strike gone fun lease => !(note lease).isWritable }

/-- Serves a new pool from now on. Leases and declines on addresses that it does not serve are
dropped; the bound stays where it is. -/
def reconfigure (pool : Pool) (l : Ledger) : Outcome Unit :=
  let l := { l with pool := pool }
  let drops := (l.committed.filter fun a _ => l.isStranded a).records.map Note.leaseDropped
  let kept := { l with
    committed := l.committed.filter fun a _ => !l.isStranded a
    declined := l.declined.filter fun a _ => !l.isStranded a }
  { answer := ()
    ledger := kept
    notes := drops ++ [.parametersUpdated pool]
    halted :=
      if drops.all Note.isWritable then kept
      else l.strikeLeases .leaseDropped fun a _ => l.isStranded a }

/-- The ledger of a pool, as an outcome with its first note. -/
def opening (pool : Pool) : Outcome Unit := (fresh pool).reconfigure pool

def leaseOf (l : Ledger) (c : Client) : Option Lease :=
  l.committed.records.find? fun lease => lease.isOf c

def isAvailable (l : Ledger) (a : Address) : Bool :=
  !l.pool.isReserved a && !l.committed.contains a

def keepsLease (now : Int) (lease : Lease) : Bool := !lease.isExpired now

def keepsDecline (now expiration : Int) : Bool := now < expiration

/-- The earliest of some instants, and the end of time if there are none. -/
def earliest (instants : List Int) : Int := instants.foldl min Lease.never

/-- Strikes out everything that has expired, and sets the bound to the next expiration. -/
def purge (now : Int) (l : Ledger) : Ledger :=
  let committed := l.committed.filter fun _ lease => keepsLease now lease
  let declined := l.declined.filter fun _ expiration => keepsDecline now expiration
  { l with
    committed := committed
    declined := declined
    nextCheck := min (earliest (committed.records.map Lease.expiration)) (earliest declined.records) }

def purgeNotes (now : Int) (l : Ledger) : List Note :=
  (l.committed.filter fun _ lease => !keepsLease now lease).records.map .leaseExpired ++
    (l.declined.filter fun _ expiration => !keepsDecline now expiration).addresses.map
      .declineExpired

/-- A purge with its notes. If it halts, the bound stays where it is. -/
def purged (now : Int) (l : Ledger) : Outcome Unit :=
  { answer := ()
    ledger := l.purge now
    notes := l.purgeNotes now
    halted := l.strikeLeases .leaseExpired fun _ lease => !keepsLease now lease }

/-- Purges the ledger, unless the bound says that there is nothing to strike out. -/
def sweep (now : Int) (l : Ledger) : Outcome Unit :=
  if now < l.nextCheck then .plain () l [] else l.purged now

def swept {α : Type} (now : Int) (operation : Ledger → Outcome α) (l : Ledger) : Outcome α :=
  (l.sweep now).andThen operation

def listLeases (l : Ledger) : Outcome (List Lease) := .plain l.committed.records l []

def listDeclined (l : Ledger) : Outcome (List Address) := .plain l.declined.addresses l []

def committedLeases (now : Int) (l : Ledger) : Outcome (List Lease) := l.swept now listLeases

def declinedAddresses (now : Int) (l : Ledger) : Outcome (List Address) :=
  l.swept now listDeclined

end Ledger
end LeaseBook
