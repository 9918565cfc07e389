/-!
Why a client does not get the address it asks for.
-/

namespace LeaseBook

inductive Refusal where
  | sourceOutside
  | relayOutside
  | exhausted
  /-- The client confirms an address after a restart, and has a lease on another one. -/
  | rebootMismatch
  | noClientAddress
  /-- The client renews an address, and has a lease on another one. -/
  | renewalMismatch
  | inUse
  | unavailable
  deriving DecidableEq, Repr

def Refusal.message : Refusal → String
  | sourceOutside => "Lease requested from outside of subnet"
  | relayOutside => "Lease requested by relay from outside of subnet"
  | exhausted => "No address available for offer"
  | rebootMismatch => "Incorrect address for client in INIT-REBOOT state"
  | noClientAddress => "No client address for client in RENEWING/REBINDING state"
  | renewalMismatch => "Incorrect address for client in RENEWING/REBINDING state"
  | inUse => "Address in use"
  | unavailable => "Lease not found and address unavailable"

end LeaseBook
