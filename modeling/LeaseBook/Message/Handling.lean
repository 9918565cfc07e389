import LeaseBook.Ledger.Offer
import LeaseBook.Ledger.Request
import LeaseBook.Message.Client
import LeaseBook.Message.Reply

/-!
What the server does with each message. A discovery is answered with an offer, a request with a
confirmation or a refusal, and both with silence where nothing can be said; releases and declines
are never answered, and all other messages are ignored.
-/

namespace LeaseBook.ClientMessage

def discovery (m : ClientMessage) : Discovery :=
  ⟨m.client, m.source, m.relay, m.requested, m.hostname⟩

def demand (m : ClientMessage) : Demand :=
  ⟨m.client, m.source, m.requested, m.serverChosen, m.hostname⟩

def discover (now : Int) (m : ClientMessage) (l : Ledger) : Outcome (Option Reply) :=
  let o := l.offer now m.discovery
  match o.answer with
  | .ok lease => o.map fun _ => some (.offer lease)
  | .error refusal =>
    (o.map fun _ => none).noting (.discoverDropped m.client.hardware refusal)

/-- Answers a request. A refusal is sent only to a client that asks for an address. -/
def request (now : Int) (m : ClientMessage) (l : Ledger) : Outcome (Option Reply) :=
  let o := l.request now m.demand
  match o.answer with
  | .ok lease => o.map fun _ => some (.ack lease)
  | .error refusal =>
    if m.requested.isSome then
      (o.map fun _ => some (.nak refusal)).noting (.requestRefused m.client.hardware refusal)
    else
      (o.map fun _ => none).noting (.requestDropped m.client.hardware refusal)

/-- Takes note of a release. The address is the one the client speaks from. -/
def release (m : ClientMessage) (l : Ledger) : Outcome (Option Reply) :=
  match m.source with
  | none => .plain none l [.releaseWithoutAddress m.client.hardware]
  | some a => (l.release m.client a).map fun _ => none

/-- Takes note of a decline. The address is the one the client asks for. -/
def decline (now : Int) (m : ClientMessage) (l : Ledger) : Outcome (Option Reply) :=
  match m.requested with
  | none => .plain none l [.declineWithoutAddress m.client.hardware]
  | some a => (l.decline now a).map fun _ => none

def handle (now : Int) (m : ClientMessage) (l : Ledger) : Outcome (Option Reply) :=
  match m.kind with
  | .discover => m.discover now l
  | .request => m.request now l
  | .release => m.release l
  | .decline => m.decline now l
  | kind => .plain none l [.messageIgnored kind m.client.hardware]

end LeaseBook.ClientMessage
