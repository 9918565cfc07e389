import LeaseBook.Lease
import LeaseBook.Message.Kind
import LeaseBook.Value.Reading

/-!
The messages of clients, as far as they matter for leases, and how one is read from the fields of
an object.
-/

namespace LeaseBook

structure ClientMessage where
  kind : MessageKind
  client : Client
  source : Option Address
  relay : Option Address
  requested : Option Address
  serverChosen : Bool
  hostname : Value

namespace ClientMessage

/-- Reads the value of a field. A field that is not there, or that says no, counts as absent. -/
def optional {α : Type} (read : Value → Except Fault α) (name : String)
    (fields : List (RawText × Value)) : Except Fault (Option α) :=
  match Value.field? name fields with
  | none => .ok none
  | some v => if v.isTrue then (read v).map some else .ok none

def required (name : String) (fields : List (RawText × Value)) : Except Fault Value :=
  match Value.field? name fields with
  | none => .error (.missingField name)
  | some v => .ok v

/-- The message that fields describe. Of several faults the first in this order counts: the type,
the hardware address, the identifier, and the addresses. -/
def ofFields (fields : List (RawText × Value)) : Except Fault ClientMessage := do
  let kind ← MessageKind.ofValue (← required "type" fields)
  let hardware ← (← required "mac" fields).toHardware
  let id ← optional Value.toBytes "client_id" fields
  let source ← optional Value.toAddress "src" fields
  let relay ← optional Value.toAddress "relay" fields
  let requested ← optional Value.toAddress "requested" fields
  return {
    kind, source, relay, requested
    client := ⟨id, hardware⟩
    serverChosen := ((Value.field? "server_id" fields).getD .null).isTrue
    hostname := (Value.field? "hostname" fields).getD .null }

def ofValue : Value → Except Fault ClientMessage
  | .object fields => ofFields fields
  | v => .error (.notMessage v)

end ClientMessage
end LeaseBook
