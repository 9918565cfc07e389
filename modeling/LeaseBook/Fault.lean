import LeaseBook.Text.Utf8
import LeaseBook.Value.Shown

/-!
Everything that can be wrong with what a caller hands in, by cause. `message` holds the words for
each cause that has any, and `kind` sorts the causes as far as callers tell them apart.
-/

namespace LeaseBook

inductive Fault where
  | notAddress (v : Value)
  /-- An address of the other family. -/
  | foreignAddress (v : Value)
  /-- A value of a shape that could never be an address. -/
  | shapelessAddress (v : Value)
  | notNetwork (v : Value)
  | foreignNetwork (v : Value)
  | notHardware (v : Value)
  /-- A longer identifier where a hardware address is meant. -/
  | longIdentifier (shown : String)
  | hardwareSize (bytes : Nat)
  | notPrefixLength (n : Int)
  | nothingAssignable (length : Nat)
  | leaseTimeNotPositive (v : Value)
  | leaseTimeNotNumber (v : Value)
  | noItems (v : Value)
  | notNumeral (s : RawText)
  | longNumeral (digits : Nat)
  /-- A whole number of too many digits, where it is to be written out. -/
  | longNumber
  | notANumber
  | infinite
  | notWhole (v : Value)
  | notHexDigit (position : Nat)
  | notHexText (v : Value)
  | clockBackwards
  | missingField (name : String)
  | unknownTypeName (name : RawText)
  | unknownType (v : Value)
  | noFields (v : Value)
  | notMessage (v : Value)
  | notJson (path : String)
  | nestedTooDeep
  | noEvents (path : String)
  | eventNotObject (path : String) (index : Nat)
  | notUtf8 (fault : Text.Utf8Fault)
  | leaseTimeSetting (s : String)
  | variableName
  | embeddedNull
  | unknownLevel (name : String)
  | levelNotText (v : Value)

inductive FaultKind where
  | value
  | key
  | shape
  /-- A value of a shape that lacks what is asked of it. -/
  | part
  | range
  | encoding
  | depth
  deriving DecidableEq, Repr

namespace Fault

def kind : Fault → FaultKind
  | shapelessAddress _ | noFields _ | levelNotText _ => .part
  | leaseTimeNotNumber _ | noItems _ | notWhole _ | notHexText _ | notMessage _ => .shape
  | infinite => .range
  | missingField _ | unknownTypeName _ => .key
  | notUtf8 _ => .encoding
  | nestedTooDeep => .depth
  | _ => .value

/-- Whether a fault is put to the user as a message of its own. Faults of shape, range and depth
show that an input was never meant to be one, and end the program. -/
def isReported (f : Fault) : Bool :=
  match f.kind with
  | .value | .key | .encoding => true
  | .shape | .part | .range | .depth => false

/-- The most characters of a text that is no numeral that are shown, the quote in front included. -/
def shownNumeral : Nat := 200

def message : Fault → String
  | notAddress v => "Invalid IPv4 address: " ++ v.shown
  | foreignAddress v => "Not an IPv4 address: " ++ v.shown
  | shapelessAddress v => "No address: " ++ v.shown
  | notNetwork v => "Invalid IPv4 prefix: " ++ v.shown
  | foreignNetwork v => "Not an IPv4 prefix: " ++ v.shown
  | notHardware v => "Invalid hardware address: " ++ v.shown
  | longIdentifier shown => "Not a 48-bit hardware address: " ++ shown
  | hardwareSize n => "Hardware address must be 6 bytes, got " ++ toString n
  | notPrefixLength n => "Invalid prefix length: " ++ toString n
  | nothingAssignable length =>
    "Prefix length /" ++ toString length ++ " leaves no assignable address (maximum is /30)"
  | leaseTimeNotPositive v => "Lease time must be positive, got " ++ v.prose.readable
  | leaseTimeNotNumber v => "Lease time is not a number: " ++ v.shown
  | noItems v => "No items: " ++ v.shown
  | notNumeral s =>
    "invalid literal for int() with base 10: " ++
      String.ofList (s.quoted.toList.take shownNumeral)
  | longNumeral digits =>
    "Exceeds the limit (4300 digits) for integer string conversion: value has " ++
      toString digits ++ " digits; use sys.set_int_max_str_digits() to increase the limit"
  | longNumber =>
    "Exceeds the limit (4300 digits) for integer string conversion; " ++
      "use sys.set_int_max_str_digits() to increase the limit"
  | notANumber => "cannot convert float NaN to integer"
  | infinite => "cannot convert float infinity to integer"
  | notWhole v => "No whole number: " ++ v.shown
  | notHexDigit position =>
    "non-hexadecimal number found in fromhex() arg at position " ++ toString position
  | notHexText v => "No hexadecimal text: " ++ v.shown
  | clockBackwards => "Clock cannot move backwards"
  | missingField name => Text.quoted name
  | unknownTypeName name => name.quoted
  | unknownType v => v.shown ++ " is not a valid DHCPMessageType"
  | noFields v => "No fields: " ++ v.shown
  | notMessage v => "No message: " ++ v.shown
  | notJson path => "Invalid JSON in " ++ path
  | nestedTooDeep => "The document is nested too deep"
  | noEvents path => path ++ ": expected an object with an 'events' list"
  | eventNotObject path index => path ++ ": event " ++ toString index ++ " is not an object"
  | notUtf8 fault => fault.message
  | leaseTimeSetting s => "LEASEKEEPER_LEASE_TIME_MS is not an integer: " ++ Text.quoted s
  | variableName => "illegal environment variable name"
  | embeddedNull => "embedded null byte"
  | unknownLevel name => "Unknown log level: " ++ name
  | levelNotText v => "Log level is not a name: " ++ v.shown

end Fault
end LeaseBook
