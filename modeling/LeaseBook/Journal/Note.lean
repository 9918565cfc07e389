import LeaseBook.Lease
import LeaseBook.Ledger.Refusal
import LeaseBook.Message.Kind
import LeaseBook.Pool.Basic

/-!
What the journal is told about the handling of leases, event by event, and how each event reads
as a line of the journal.
-/

namespace LeaseBook

inductive Severity where
  | debug | info | warning
  deriving DecidableEq, Repr

namespace Severity

def level : Severity → Int
  | debug => 10
  | info => 20
  | warning => 30

def name : Severity → String
  | debug => "DEBUG"
  | info => "INFO"
  | warning => "WARNING"

end Severity

inductive Note where
  | parametersUpdated (pool : Pool)
  | leaseDropped (lease : Lease)
  | offeringExtended (lease : Lease)
  | offeringRequested (lease : Lease)
  | offeringNew (lease : Lease)
  | selecting (address : Address)
  | rebooting (address : Address)
  | renewing (address : Address)
  | leaseCommitted (lease : Lease)
  | leaseExpired (lease : Lease)
  | leaseReleased (lease : Lease)
  | releaseIgnored (address : Address) (hardware : Hardware)
  | addressDeclined (address : Address) (expiration : Int)
  | declineExpired (address : Address)
  | recycling (address : Address)
  | exhausted (hardware : Hardware) (subnet : Subnet)
  | messageIgnored (kind : MessageKind) (hardware : Hardware)
  | discoverDropped (hardware : Hardware) (refusal : Refusal)
  | requestRefused (hardware : Hardware) (refusal : Refusal)
  | requestDropped (hardware : Hardware) (refusal : Refusal)
  | releaseWithoutAddress (hardware : Hardware)
  | declineWithoutAddress (hardware : Hardware)
  | configurationUsed (shown : String)

structure JournalLine where
  severity : Severity
  source : String
  message : RawText
  deriving DecidableEq, Repr

namespace Note

def severity : Note → Severity
  | parametersUpdated _ | offeringExtended _ | offeringRequested _ | offeringNew _ => .debug
  | selecting _ | rebooting _ | renewing _ | leaseCommitted _ => .debug
  | releaseIgnored _ _ | declineExpired _ | messageIgnored _ _ => .debug
  | releaseWithoutAddress _ | declineWithoutAddress _ | configurationUsed _ => .debug
  | leaseDropped _ | leaseExpired _ | leaseReleased _ | addressDeclined _ _ | recycling _ => .info
  | requestRefused _ _ | requestDropped _ _ => .info
  | exhausted _ _ => .warning
  | discoverDropped _ refusal => if refusal = .exhausted then .warning else .info

def source : Note → String
  | messageIgnored _ _ | discoverDropped _ _ | requestRefused _ _ | requestDropped _ _
  | releaseWithoutAddress _ | declineWithoutAddress _ => "leasekeeper.dhcp.handler"
  | configurationUsed _ => "leasekeeper.cli"
  | _ => "leasekeeper.dhcp.repository"

def message : Note → RawText
  | parametersUpdated pool => "Serving parameters updated: " ++ pool.text
  | leaseDropped lease => "Dropping lease no longer in pool: " ++ lease.text
  | offeringExtended lease => "Offering extended lease " ++ lease.text
  | offeringRequested lease => "Offering requested lease " ++ lease.text
  | offeringNew lease => "Offering new generated lease " ++ lease.text
  | selecting a => "DHCPREQUEST-SELECTING: making lease for " ++ a.text
  | rebooting a => "DHCPREQUEST-INITREBOOT: create/renew lease for " ++ a.text
  | renewing a => "DHCPREQUEST-RENEWREBIND: create/renew lease for " ++ a.text
  | leaseCommitted lease => "Committed lease " ++ lease.text
  | leaseExpired lease => "Lease expired: " ++ lease.text
  | leaseReleased lease => "Released lease " ++ lease.text
  | releaseIgnored a h =>
    "Ignoring release of " ++ a.text ++ " by " ++ h.text ++ ": no matching lease"
  | addressDeclined a expiration =>
    "Address " ++ a.text ++ " declined until " ++ toString expiration
  | declineExpired a => "Declined address " ++ a.text ++ " available again"
  | recycling a => "Recycling declined address " ++ a.text
  | exhausted h subnet =>
    "No address available for offer to " ++ h.text ++ " in " ++ subnet.text
  | messageIgnored kind h => "Ignoring DHCP" ++ kind.name ++ " from " ++ h.text
  | discoverDropped h refusal => "Dropping DHCPDISCOVER from " ++ h.text ++ ": " ++ refusal.message
  | requestRefused h refusal => "Sending DHCPNAK to " ++ h.text ++ ": " ++ refusal.message
  | requestDropped h refusal => "Dropping DHCPREQUEST from " ++ h.text ++ ": " ++ refusal.message
  | releaseWithoutAddress h => "Ignoring DHCPRELEASE without address from " ++ h.text
  | declineWithoutAddress h => "Ignoring DHCPDECLINE without address from " ++ h.text
  | configurationUsed shown => "Using configuration " ++ shown

/-- The numbers without bound that the words for an event hold. -/
def numbers : Note → List Int
  | parametersUpdated pool => [pool.leaseTime]
  | leaseDropped lease | offeringExtended lease | offeringRequested lease | offeringNew lease
  | leaseCommitted lease | leaseExpired lease | leaseReleased lease => [lease.expiration]
  | addressDeclined _ expiration => [expiration]
  | _ => []

def isWritable (n : Note) : Bool := n.numbers.all Numeral.isWritable

theorem isWritable_of_numbers {n : Note} {i : Int} (h : n.numbers = [i]) :
    n.isWritable = Numeral.isWritable i := by
  simp [isWritable, h]

def line (n : Note) : JournalLine := ⟨n.severity, n.source, n.message⟩

end Note
end LeaseBook
