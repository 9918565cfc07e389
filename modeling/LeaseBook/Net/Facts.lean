import LeaseBook.Fault

/-!
Facts of a subnet, for display: its two masks, how many hosts it holds, and the first and the last
of them. A subnet of one or two addresses sets none aside, so it has no broadcast address and no
range of hosts.
-/

namespace LeaseBook

structure SubnetFacts where
  subnet : Subnet
  broadcast : Option Address
  hosts : Nat
  firstHost : Option Address
  lastHost : Option Address
  deriving DecidableEq

namespace Subnet

/-- The number of hosts. A subnet of two addresses counts two, and a single address counts none. -/
def hosts (s : Subnet) : Nat :=
  if s.length = 32 then 0 else if s.length = 31 then 2 else s.size - 2

def facts (s : Subnet) : SubnetFacts :=
  if h : s.length < 31 then
    have two : 2 < s.size := by
      have : 2 ^ 2 ≤ 2 ^ (32 - s.length) := Nat.pow_le_pow_right (by decide) (by omega)
      exact Nat.lt_of_lt_of_le (by decide) this
    { subnet := s
      broadcast := some s.top
      hosts := s.hosts
      firstHost := some (s.nth 1 (Nat.lt_of_succ_lt two))
      lastHost := some (s.nth (s.size - 2) (by omega)) }
  else ⟨s, none, s.hosts, none, none⟩

end Subnet

namespace SubnetFacts

def addressValue : Option Address → Value
  | some a => .text a.text
  | none => .null

def toValue (f : SubnetFacts) : Value :=
  .object [
    ("network", .text f.subnet.base.text),
    ("broadcast", addressValue f.broadcast),
    ("netmask", .text f.subnet.mask.text),
    ("hostmask", .text f.subnet.hostMask.text),
    ("prefix_length", .int f.subnet.length),
    ("num_addresses", .int f.subnet.size),
    ("num_hosts", .int f.hosts),
    ("first_host", addressValue f.firstHost),
    ("last_host", addressValue f.lastHost)]

end SubnetFacts

def maskOfLength (length : Int) : Except Fault Nat :=
  if 0 ≤ length ∧ length ≤ 32 then .ok (2 ^ 32 - 2 ^ (32 - length.toNat))
  else .error (.notPrefixLength length)

end LeaseBook
