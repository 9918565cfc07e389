import LeaseBook.Clock
import LeaseBook.Json.Reader
import LeaseBook.Message.Handling
import LeaseBook.Pool.Building

/-!
Scenarios: client messages with the instants at which they arrive, played through a server with a
ledger of its own. A scenario is a JSON document; what is in its events is read only when an event
is played, so that everything before a faulty event has happened.
-/

namespace LeaseBook

/-- A scenario as it is written down. Parameters that are missing are left to the defaults. -/
structure Scenario where
  subnet : Option Value
  reserved : Option Value
  leaseTime : Option Value
  events : Option Value

namespace Scenario

/-- Whether all events are objects, or else the index of the first that is not. -/
def strayEvent? (events : List Value) : Option Nat :=
  events.findIdx? fun
    | .object _ => false
    | _ => true

/-- The fields of a scenario document: an object with a list of events, all of them objects. -/
def document (path : String) (bytes : List UInt8) :
    Except Fault (List (RawText × Value)) :=
  match Text.decodeUtf8 bytes with
  | .error fault => .error (.notUtf8 fault)
  | .ok content =>
    match Json.read content with
    | .error .malformed => .error (.notJson path)
    | .error (.tooLong digits) => .error (.longNumeral digits)
    | .error .tooDeep => .error .nestedTooDeep
    | .ok (.object fields) =>
      match Value.field? "events" fields with
      | some (.list events) =>
        match strayEvent? events with
        | some index => .error (.eventNotObject path index)
        | none => .ok fields
      | _ => .error (.noEvents path)
    | .ok _ => .error (.noEvents path)

def ofFields (fields : List (RawText × Value)) : Scenario where
  subnet := Value.field? "subnet" fields
  reserved := Value.field? "reserved" fields
  leaseTime := Value.field? "lease_time_ms" fields
  events := Value.field? "events" fields

def ofValue : Value → Except Fault Scenario
  | .object fields => .ok (ofFields fields)
  | v => .error (.noFields v)

end Scenario

structure EventRow where
  time : Int
  kind : MessageKind
  hardware : Hardware
  reply : Option Reply

def EventRow.toValue (r : EventRow) : Value :=
  .object [
    ("at", .int r.time),
    ("message", .text r.kind.name),
    ("mac", .text r.hardware.text),
    ("reply", match r.reply with
      | some reply => reply.toValue
      | none => .null)]

/-- What came of a list of events: a row for each that was played, the clock and the ledger behind
the last of them, all notes, and the fault that ended the play early, if one did. -/
structure Play where
  rows : List EventRow
  clock : Clock
  ledger : Ledger
  notes : List Note
  fault : Option Fault

namespace Play

/-- Reads an event: moves the clock to its instant, the present one unless it has another, and
reads its message. -/
def readEvent (clock : Clock) : Value → Except Fault (Clock × ClientMessage)
  | .object fields => do
    let time ← ((Value.field? "at" fields).getD (.int clock.now)).toWhole
    let clock ← clock.set time
    let message ← ClientMessage.ofFields fields
    return (clock, message)
  | v => .error (.noFields v)

/-- Plays events, up to the first that cannot be read or noted. -/
def events (clock : Clock) (ledger : Ledger) : List Value → Play
  | [] => ⟨[], clock, ledger, [], none⟩
  | event :: rest =>
    match readEvent clock event with
    | .error fault => ⟨[], clock, ledger, [], some fault⟩
    | .ok (clock, message) =>
      let handled := (message.handle clock.now ledger).written
      match handled.answer with
      | .error fault => ⟨[], clock, handled.ledger, handled.notes, some fault⟩
      | .ok reply =>
        let row : EventRow := ⟨clock.now, message.kind, message.client.hardware, reply⟩
        let later := events clock handled.ledger rest
        { later with rows := row :: later.rows, notes := handled.notes ++ later.notes }

def eventsOf (clock : Clock) (ledger : Ledger) (v : Option Value) : Play :=
  match v with
  | none => ⟨[], clock, ledger, [], some (.missingField "events")⟩
  | some v =>
    match v.toItems with
    | .error fault => ⟨[], clock, ledger, [], some fault⟩
    | .ok items => events clock ledger items

/-- Plays events on a ledger of their own, from the instant zero on. A ledger is not there before
its first note is, so on a pool that cannot be put into words nothing is played. -/
def onPool (pool : Pool) (v : Option Value) : Except Fault Play := do
  let opened := (Ledger.opening pool).written
  opened.answer
  let played := eventsOf ⟨0⟩ opened.ledger v
  return { played with notes := opened.notes ++ played.notes }

end Play

structure Report where
  rows : List EventRow
  committed : List Lease
  declined : List Address

def Report.toValue (r : Report) : Value :=
  .object [
    ("results", .list (r.rows.map EventRow.toValue)),
    ("committed", .list (r.committed.map Lease.toValue)),
    ("declined", .list (r.declined.map fun a => .text a.text))]

namespace Scenario

def play (subnet leaseTime : Value) (s : Scenario) : Except Fault Play := do
  let pool ← Pool.ofValues (s.subnet.getD subnet) (s.reserved.getD (.list []))
    (s.leaseTime.getD leaseTime)
  Play.onPool pool s.events

end Scenario

namespace Play

/-- The report of a play, if it came to its end, and all notes. -/
def report (p : Play) : Except Fault Report × List Note :=
  match p.fault with
  | some fault => (.error fault, p.notes)
  | none =>
    let leases := p.ledger.committedLeases p.clock.now
    let declined := leases.ledger.declinedAddresses p.clock.now
    (.ok ⟨p.rows, leases.answer, Address.sorted declined.answer⟩,
      p.notes ++ leases.notes ++ declined.notes)

end Play

def Scenario.report (subnet leaseTime : Value) (s : Scenario) :
    Except Fault Report × List Note :=
  match s.play subnet leaseTime with
  | .error fault => (.error fault, [])
  | .ok played => played.report

end LeaseBook
