import LeaseBook.Fault
import LeaseBook.Text.Hex

/-!
Reading values as what they stand for: an address, a subnet, a hardware address, a whole number,
bytes, or a series of items. Each reader is the only place that decides what it accepts, so two
spellings that it takes for the same thing are the same thing everywhere.
-/

namespace LeaseBook.Value

def isColon : Value → Bool
  | .text s => s == .whole ":"
  | _ => false

/-- Whether a list or an object has a colon among its items or names. It is then looked at as
closely as a text with a colon, and found to be no address. -/
def hasColon : Value → Bool
  | .list items => items.any isColon
  | .object fields => fields.any fun field => field.1 == .whole ":"
  | _ => false

/-- The IPv4 address that a value stands for. A network stands for the address it was given by. -/
def toAddress (v : Value) : Except Fault Address :=
  match v with
  | .address (.v4 a) => .ok a
  | .address (.v6 _) => .error (.foreignAddress v)
  | .network (.v4 p) => .ok p.address
  | .network (.v6 _ _) => .error (.foreignAddress v)
  | .text s =>
    match IpAddress.ofString? s.readable with
    | some (.v4 a) => .ok a
    | some (.v6 _) => .error (.foreignAddress v)
    | none => .error (.notAddress v)
  | .list _ | .object _ | .identifier _ =>
    if v.hasColon then .error (.notAddress v) else .error (.shapelessAddress v)
  | _ =>
    match v.int?.bind Address.ofInt? with
    | some a => .ok a
    | none => .error (.notAddress v)

def toAddress? : Value → Except Fault (Option Address)
  | .null => .ok none
  | v => v.toAddress.map some

def subnetOf (v : Value) : IpNetwork → Except Fault Subnet
  | .v4 p => .ok p.subnet
  | .v6 _ _ => .error (.foreignNetwork v)

/-- The IPv4 subnet that a value stands for. An address stands for the subnet of its own. -/
def toSubnet (v : Value) : Except Fault Subnet :=
  match v with
  | .network n => subnetOf v n
  | .address a => subnetOf v (.ofAddress a)
  | .text s =>
    match IpNetwork.ofString? s.readable with
    | some n => subnetOf v n
    | none => .error (.notNetwork v)
  | .identifier _ => .error (.foreignNetwork v)
  | _ => .error (.notNetwork v)

def hardwareOf (shown : String) : Identifier → Except Fault Hardware
  | .short h => .ok h
  | .long _ => .error (.longIdentifier shown)

def toHardware (v : Value) : Except Fault Hardware :=
  match v with
  | .identifier e => hardwareOf e.text e
  | .bytes b =>
    match Hardware.ofBytes? b with
    | some h => .ok h
    | none => .error (.hardwareSize b.length)
  | .text s =>
    match Identifier.ofString? s.readable with
    | some e => hardwareOf v.shown e
    | none => .error (.notHardware v)
  | _ =>
    match v.int?.bind Identifier.ofInt? with
    | some e => hardwareOf v.shown e
    | none => .error (.notHardware v)

def wholeOfReal (x : Binary64) : Except Fault Int :=
  match x with
  | .nan => .error .notANumber
  | .infinite _ => .error .infinite
  | x => .ok (x.truncate?.getD 0)

/-- The whole number that a value stands for: a number without its fraction, the number of an
identifier, or a numeral. -/
def toWhole (v : Value) : Except Fault Int :=
  match v with
  | .int i => .ok i
  | .bool b => .ok (if b then 1 else 0)
  | .real x => wholeOfReal x
  | .identifier e => .ok e.number
  | .text s =>
    match Numeral.ofString s.readable with
    | .ok i => .ok i
    | .error .malformed => .error (.notNumeral s)
    | .error (.tooLong digits) => .error (.longNumeral digits)
  | _ => .error (.notWhole v)

def toBytes (v : Value) : Except Fault (List UInt8) :=
  match v with
  | .text s =>
    match Text.readHex s.readable with
    | .ok found => .ok found
    | .error position => .error (.notHexDigit position)
  | _ => .error (.notHexText v)

/-- The items that going through a value yields: those of a list, the characters of a text, the
names of an object, the addresses of a network, the octets of an identifier, or bytes. -/
def toItems (v : Value) : Except Fault (List Value) :=
  match v with
  | .list items => .ok items
  | .text s => .ok (s.singles.map .text)
  | .object fields => .ok (fields.map fun field => .text field.1)
  | .network (.v4 p) =>
    .ok ((List.range p.subnet.size).map fun i => .int ((p.subnet.base.number + i : Nat) : Int))
  | .network (.v6 n length) => .ok [.address (.v6 (n - n % 2 ^ (128 - length)))]
  | .identifier (.short h) => .ok (h.octets.map fun n => .int (n : Nat))
  | .identifier (.long n) =>
    .ok ((List.range 8).map fun i => .int ((n / 2 ^ (8 * (7 - i)) % 256 : Nat) : Int))
  | .bytes b => .ok (b.map fun n => .int n.toNat)
  | _ => .error (.noItems v)

end LeaseBook.Value
