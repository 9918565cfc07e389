import LeaseBook.Config.Environment
import LeaseBook.Pool.Building
import LeaseBook.Text.Upper

/-!
The configuration of a server: the parameters of its pool and the level of its journal. It is kept
as it was given; only building the pool shows whether the parameters are any good.
-/

namespace LeaseBook

structure Config where
  subnet : Value
  reserved : Value
  leaseTime : Value
  logLevel : Value

namespace Config

def defaultSubnet : String := "192.168.1.0/24"

def defaultLeaseTime : Int := 3600000

def initial : Config :=
  ⟨.text defaultSubnet, .list [], .int defaultLeaseTime, .text "INFO"⟩

def ofFields (fields : List (RawText × Value)) : Config where
  subnet := (Value.field? "subnet" fields).getD initial.subnet
  reserved := (Value.field? "reserved" fields).getD initial.reserved
  leaseTime := (Value.field? "lease_time_ms" fields).getD initial.leaseTime
  logLevel := (Value.field? "log_level" fields).getD initial.logLevel

def toValue (c : Config) : Value :=
  .object [
    ("subnet", c.subnet), ("reserved", c.reserved), ("lease_time_ms", c.leaseTime),
    ("log_level", c.logLevel)]

def shown (c : Config) : String :=
  "PoolConfig(subnet=" ++ c.subnet.shown ++ ", reserved=" ++ c.reserved.shown ++
    ", lease_time_ms=" ++ c.leaseTime.shown ++ ", log_level=" ++ c.logLevel.shown ++ ")"

/-- The items of a list between commas, without the blanks around them. Blank items are none. -/
def items (s : String) : List String :=
  ((Text.splitAt ',' s.toList).map (Text.trimWhile Text.isBlank)).filterMap fun item =>
    if item.isEmpty then none else some (String.ofList item)

def ofEnvironment (e : Environment) : Except Fault Config :=
  let time := (e.get? "LEASEKEEPER_LEASE_TIME_MS").getD (toString defaultLeaseTime)
  match Numeral.ofString time with
  | .error _ => .error (.leaseTimeSetting time)
  | .ok leaseTime =>
    .ok {
      subnet := .text ((e.get? "LEASEKEEPER_SUBNET").getD defaultSubnet)
      reserved := .list
        ((items ((e.get? "LEASEKEEPER_RESERVED").getD "")).map fun (item : String) => .text item)
      leaseTime := .int leaseTime
      logLevel := .text (Text.upper ((e.get? "LEASEKEEPER_LOG_LEVEL").getD "INFO")) }

def pool (c : Config) : Except Fault Pool := Pool.ofValues c.subnet c.reserved c.leaseTime

end Config
end LeaseBook
