import LeaseBook.Fault

/-!
The types of DHCP messages, by name and by number.
-/

namespace LeaseBook

inductive MessageKind where
  | discover | offer | request | decline | ack | nak | release | inform
  deriving DecidableEq, Repr

namespace MessageKind

/-- All types, in the order of their numbers, which start at one. -/
def all : List MessageKind := [discover, offer, request, decline, ack, nak, release, inform]

def name : MessageKind → String
  | discover => "DISCOVER"
  | offer => "OFFER"
  | request => "REQUEST"
  | decline => "DECLINE"
  | ack => "ACK"
  | nak => "NAK"
  | release => "RELEASE"
  | inform => "INFORM"

def number : MessageKind → Int
  | discover => 1
  | offer => 2
  | request => 3
  | decline => 4
  | ack => 5
  | nak => 6
  | release => 7
  | inform => 8

/-- The type that a value numbers. A number of either kind counts by its value. -/
def ofNumber (v : Value) : Except Fault MessageKind :=
  let number? : Option Int :=
    match v with
    | .real x => x.whole?
    | v => v.int?
  match number?.bind fun i => all.find? fun k => k.number == i with
  | some k => .ok k
  | none => .error (.unknownType v)

/-- The type that a value names or numbers. Names are taken in any case. -/
def ofValue (v : Value) : Except Fault MessageKind :=
  match v with
  | .text s =>
    let wanted := s.upper
    match all.find? fun k => wanted == .whole k.name with
    | some k => .ok k
    | none => .error (.unknownTypeName wanted)
  | v => ofNumber v

end MessageKind
end LeaseBook
