import LeaseBook.Ledger.Refusal
import LeaseBook.Lease
import LeaseBook.Message.Kind

/-!
What the server sends back: a lease that is offered or confirmed, or the reason for which it is
not.
-/

namespace LeaseBook

structure Reply where
  kind : MessageKind
  lease : Option Lease
  reason : Option String

namespace Reply

def offer (l : Lease) : Reply := ⟨.offer, some l, none⟩

def ack (l : Lease) : Reply := ⟨.ack, some l, none⟩

def nak (r : Refusal) : Reply := ⟨.nak, none, some r.message⟩

def toValue (r : Reply) : Value :=
  .object [
    ("type", .text r.kind.name),
    ("lease", match r.lease with
      | some l => l.toValue
      | none => .null),
    ("reason", match r.reason with
      | some reason => .text reason
      | none => .null)]

end Reply
end LeaseBook
