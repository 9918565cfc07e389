import LeaseBook.CommandLine.Table
import LeaseBook.Config.Basic
import LeaseBook.Files
import LeaseBook.Json.Printer
import LeaseBook.Net.Facts
import LeaseBook.Scenario
import LeaseBook.Text.Path

/-!
The commands: showing the assignable range of a subnet, showing the first address that is tried
for a client, and playing a scenario. Each prints text for reading or JSON.
-/

namespace LeaseBook

/-- Why a command ended without success or a message of its own. -/
inductive Crash where
  | fault (kind : FaultKind)
  | path (fault : PathFault)
  /-- A host name that is not text, where a table is printed. -/
  | unprintable
  /-- A host name with halves of surrogate pairs, where a table is printed. -/
  | unencodable
  | markup
  deriving DecidableEq, Repr

inductive Ending where
  | success
  | failure
  | crash (c : Crash)
  deriving DecidableEq, Repr

structure Run where
  output : String
  ending : Ending
  notes : List Note

namespace Run

/-- The run of a command that prints something at its end, if its markup is right. -/
def printing (printed : Option String) (ending : Ending) (notes : List Note) : Run :=
  match printed with
  | some output => ⟨output, ending, notes⟩
  | none => ⟨"", .crash .markup, notes⟩

/-- The run of a command that met a fault. The message is markup like all other text. -/
def failed (terminal : Terminal) (fault : Fault) (notes : List Note) : Run :=
  if fault.isReported then
    printing (terminal.print? ("[red]Error:[/red] " ++ fault.message)) .failure notes
  else ⟨"", .crash (.fault fault.kind), notes⟩

end Run

inductive Command where
  | pool (subnet : Option String) (reserved : List String) (json : Bool)
  | seed (mac : String) (subnet : Option String) (json : Bool)
  | replay (path : String) (content : List UInt8) (json : Bool)

namespace Command

/-- A parameter, or the configured one if it is missing or empty. -/
def orConfigured (given : Option String) (configured : Value) : Value :=
  match given with
  | some s => if s.isEmpty then configured else .text s
  | none => configured

def listed (addresses : List Address) : String :=
  String.intercalate ", " (addresses.map Address.text)

def reservedInside (p : Pool) : List Address := p.reserved.filter p.contains

def poolValue (p : Pool) (facts : SubnetFacts) : Value :=
  .object [
    ("network", .text facts.subnet.base.text),
    ("broadcast", SubnetFacts.addressValue facts.broadcast),
    ("netmask", .text facts.subnet.mask.text),
    ("prefix_length", .int facts.subnet.length),
    ("num_addresses", .int facts.subnet.size),
    ("assignable", .int p.assignableCount),
    ("first_assignable", .text p.firstAssignable.text),
    ("last_assignable", .text p.lastAssignable.text),
    ("reserved", .list ((reservedInside p).map fun a => .text a.text))]

def poolTable (given : String) (p : Pool) (facts : SubnetFacts) : Table where
  title := "Address Pool: " ++ given
  columns := [⟨"Property", false⟩, ⟨"Value", false⟩]
  isFramed := false
  rows := [
      ["Network", facts.subnet.base.text],
      ["Broadcast", (facts.broadcast.map Address.text).getD "N/A"],
      ["Netmask", facts.subnet.mask.text],
      ["Prefix Length", "/" ++ toString facts.subnet.length],
      ["Total Addresses", Numeral.grouped facts.subnet.size],
      ["Assignable", Numeral.grouped p.assignableCount],
      ["First Assignable", p.firstAssignable.text],
      ["Last Assignable", p.lastAssignable.text]] ++
    if (reservedInside p).isEmpty then [] else [["Reserved", listed (reservedInside p)]]

def runPool (terminal : Terminal) (config : Config) (subnet : Option String) (reserved : List String)
    (json : Bool) : Run :=
  let given := orConfigured subnet config.subnet
  let kept :=
    if reserved.isEmpty then config.reserved
    else .list (reserved.map fun (a : String) => .text a)
  match Pool.ofValues given kept config.leaseTime with
  | .error fault => .failed terminal fault []
  | .ok p =>
    let facts := p.subnet.facts
    if json then ⟨Json.indentedText (poolValue p facts) ++ "\n", .success, []⟩
    else .printing ((poolTable given.prose.readable p facts).print? terminal) .success []

def seedTarget (config : Config) (mac : String) (subnet : Option String) :
    Except Fault (Pool × Hardware) := do
  let p ← Pool.ofValues (orConfigured subnet config.subnet) (.list []) config.leaseTime
  let h ← (Value.text mac).toHardware
  return (p, h)

def runSeed (terminal : Terminal) (config : Config) (mac : String) (subnet : Option String)
    (json : Bool) : Run :=
  match seedTarget config mac subnet with
  | .error fault => .failed terminal fault []
  | .ok (p, h) =>
    let seed := p.seed h
    let first := (p.firstCandidate h).text
    if json then
      ⟨Json.indentedText (.object [
        ("mac", .text mac), ("subnet", .text p.subnet.text), ("seed_index", .int seed),
        ("address", .text first)]) ++ "\n", .success, []⟩
    else
      .printing (terminal.print? ("[cyan]" ++ mac ++ "[/cyan] in " ++ p.subnet.text ++
        ": seed index " ++ toString seed ++ ", first candidate [green]" ++ first ++ "[/green]"))
        .success []

def replyCells : Option Reply → List String
  | none => ["[dim]none[/dim]", ""]
  | some r =>
    match r.lease with
    | some l => ["[green]" ++ r.kind.name ++ "[/green]", l.address.text]
    | none => ["[red]" ++ r.kind.name ++ "[/red]", r.reason.getD ""]

def eventTable (path : String) (rows : List EventRow) : Table where
  title := "Replay: " ++ Text.pathName path
  columns := [⟨"Time (ms)", true⟩, ⟨"Message", false⟩, ⟨"Client", false⟩, ⟨"Reply", false⟩,
    ⟨"Address / Reason", false⟩]
  isFramed := true
  rows := rows.map fun r =>
    [toString r.time, r.kind.name, r.hardware.text] ++ replyCells r.reply

/-- A host name in a cell. One that says nothing is a dash; any other has to be text. -/
def hostnameCell (v : Value) : Option RawText :=
  match v with
  | .text s => some (if s.isEmpty then "-" else s)
  | v => if v.isTrue then none else some "-"

def leaseCells (l : Lease) (hostname : RawText) : List String :=
  [l.address.text, l.client.hardware.text, (l.client.id.map Text.writeHex).getD "-",
    hostname.readable, toString l.expiration]

def leaseTable (leases : List Lease) (hostnames : List RawText) : Table where
  title := "Committed Leases"
  columns := [⟨"Address", false⟩, ⟨"Hardware Address", false⟩, ⟨"Client ID", false⟩,
    ⟨"Hostname", false⟩, ⟨"Expires (ms)", true⟩]
  isFramed := true
  rows := List.zipWith leaseCells leases hostnames

/-- Leases for reading, in the order of their addresses. Every host name has to be text, and text
that can be written. -/
def showLeases (terminal : Terminal) (leases : List Lease) : Except Crash String :=
  let inOrder := leases.mergeSort fun l m => decide (l.address ≤ m.address)
  match inOrder.mapM fun l => hostnameCell l.hostname with
  | none => .error .unprintable
  | some hostnames =>
    match (leaseTable inOrder hostnames).print? terminal with
    | none => .error .markup
    | some printed => if hostnames.all RawText.isWhole then .ok printed else .error .unencodable

def reportRun (terminal : Terminal) (path : String) (json : Bool) (report : Report)
    (notes : List Note) : Run :=
  if json then ⟨Json.indentedText report.toValue ++ "\n", .success, notes⟩
  else
    match (eventTable path report.rows).print? terminal with
    | none => ⟨"", .crash .markup, notes⟩
    | some printed =>
      let events := printed ++ "\n"
      match showLeases terminal report.committed with
      | .error crash => ⟨events, .crash crash, notes⟩
      | .ok leases =>
        if report.declined.isEmpty then ⟨events ++ leases, .success, notes⟩
        else
          match terminal.print? ("[yellow]Declined:[/yellow] " ++ listed report.declined) with
          | none => ⟨events ++ leases, .crash .markup, notes⟩
          | some declined => ⟨events ++ leases ++ declined, .success, notes⟩

def runReplay (terminal : Terminal) (config : Config) (path : String) (content : List UInt8)
    (json : Bool) : Run :=
  match Scenario.document (Text.cleanPath path) content with
  | .error fault => .failed terminal fault []
  | .ok fields =>
    match (Scenario.ofFields fields).report config.subnet config.leaseTime with
    | (.error fault, notes) => .failed terminal fault notes
    | (.ok report, notes) => reportRun terminal path json report notes

def run (terminal : Terminal) (config : Config) : Command → Run
  | pool subnet reserved json => runPool terminal config subnet reserved json
  | seed mac subnet json => runSeed terminal config mac subnet json
  | replay path content json => runReplay terminal config path content json

end Command
end LeaseBook
