import LeaseBook.Text.Hex
import LeaseBook.Value.Agreement
import LeaseBook.Value.Shown

/-!
Clients and leases. A client is known by its identifier when it sends one and by its hardware
address when it does not; the two never stand in for each other. A lease gives one address to one
client until an instant of the clock, and is never changed, only replaced.
-/

namespace LeaseBook

/-- What a client says about itself: an identifier, maybe an empty one, and the hardware address
it speaks from. -/
structure Client where
  id : Option (List UInt8)
  hardware : Hardware
  deriving DecidableEq

inductive Identity where
  | id (bytes : List UInt8)
  | hardware (h : Hardware)
  deriving DecidableEq

namespace Client

/-- What a client is known by: its identifier, or else its hardware address. -/
def identity (c : Client) : Identity :=
  match c.id with
  | some bytes => .id bytes
  | none => .hardware c.hardware

def idText (id : Option (List UInt8)) : String :=
  match id with
  | none => "null"
  | some bytes => String.ofList ((Text.writeHex bytes).toList.map Char.toUpper)

end Client

/-- An address given to a client. The host name is what the client calls itself; it is carried
along as it came, and null when there is none. -/
structure Lease where
  client : Client
  address : Address
  expiration : Int
  hostname : Value

namespace Lease

/-- The expiration of a lease that never ends. -/
def never : Int := 2 ^ 63 - 1

/-- The lease with a later expiration, and with the host name that comes with it, if one does.
None if the expiration is not later. -/
def extended? (l : Lease) (expiration : Int) (hostname : Value) : Option Lease :=
  if expiration ≤ l.expiration then none
  else
    some { l with
      expiration := expiration
      hostname := if hostname.isNull then l.hostname else hostname }

def renew (l : Lease) (expiration : Int) (hostname : Value) : Lease :=
  (l.extended? expiration hostname).getD l

/-- Whether a lease belongs to a client. An identifier in the lease decides alone; without one in
the lease and in the client, the hardware addresses do. -/
def isOf (l : Lease) (c : Client) : Bool :=
  match l.client.id with
  | some id => c.id == some id
  | none => c.id.isNone && l.client.hardware == c.hardware

theorem isOf_iff_identity (l : Lease) (c : Client) :
    l.isOf c = true ↔ l.client.identity = c.identity := by
  unfold isOf Client.identity
  cases l.client.id with
  | none => cases c.id <;> simp
  | some id =>
    cases c.id with
    | none => simp
    | some other => simpa using eq_comm

def isExpired (l : Lease) (now : Int) : Bool := l.expiration ≤ now

def agrees (l m : Lease) : Bool :=
  l.client == m.client && l.address == m.address && l.expiration == m.expiration &&
    l.hostname.agrees m.hostname

/-- A lease as data. An expiration that never comes is null. -/
def toValue (l : Lease) : Value :=
  .object [
    ("client_id", match l.client.id with
      | some bytes => .text (Text.writeHex bytes)
      | none => .null),
    ("hw_addr", .text l.client.hardware.text),
    ("address", .text l.address.text),
    ("expiration", if l.expiration = never then .null else .int l.expiration),
    ("hostname", l.hostname)]

def text (l : Lease) : RawText :=
  "clientId: " ++ Client.idText l.client.id ++ ", hwAddr " ++ l.client.hardware.text ++
    ", netAddr: " ++ l.address.text ++ ", expTime: " ++ toString l.expiration ++
    ", hostname: " ++ l.hostname.prose

end Lease
end LeaseBook
