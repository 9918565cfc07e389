import LeaseBook.Number.Integer
import LeaseBook.Net.Address6

/-!
IPv4 networks. A prefix is an address together with the number of its leading bits that name the
network; a subnet is a prefix whose remaining bits are zero, that is a block of addresses of
size 2 ^ k that starts at a multiple of its size.
-/

namespace LeaseBook

structure Prefix where
  address : Address
  length : Nat
  length_le : length ≤ 32
  deriving DecidableEq

/-- A block of addresses, named by its first address and by how many leading bits they share. -/
structure Subnet where
  base : Address
  length : Nat
  length_le : length ≤ 32
  aligned : base.number % 2 ^ (32 - length) = 0
  deriving DecidableEq

namespace Subnet

def size (s : Subnet) : Nat := 2 ^ (32 - s.length)

theorem size_pos (s : Subnet) : 0 < s.size := Nat.two_pow_pos _

theorem base_add_le (s : Subnet) : s.base.number + s.size ≤ 2 ^ 32 := by
  have split : 2 ^ 32 = s.size * 2 ^ s.length := by
    rw [size, ← Nat.pow_add, Nat.sub_add_cancel s.length_le]
  have whole : s.base.number = s.size * (s.base.number / s.size) := by
    have h := Nat.div_add_mod s.base.number s.size
    rw [size, s.aligned, Nat.add_zero] at h
    exact h.symm
  have below : s.base.number / s.size < 2 ^ s.length := by
    rw [Nat.div_lt_iff_lt_mul s.size_pos, Nat.mul_comm, ← split]
    exact s.base.isLt
  calc s.base.number + s.size = s.size * (s.base.number / s.size + 1) := by
        rw [Nat.mul_add, Nat.mul_one, ← whole]
    _ ≤ s.size * 2 ^ s.length := Nat.mul_le_mul_left _ below
    _ = 2 ^ 32 := split.symm

def nth (s : Subnet) (index : Nat) (h : index < s.size) : Address :=
  ⟨s.base.number + index, Nat.lt_of_lt_of_le (Nat.add_lt_add_left h _) s.base_add_le⟩

def top (s : Subnet) : Address :=
  s.nth (s.size - 1) (Nat.sub_lt s.size_pos Nat.one_pos)

/-- Whether an address lies in a subnet: it shares the leading bits of the first one. -/
def contains (s : Subnet) (a : Address) : Bool :=
  a.number / s.size == s.base.number / s.size

def mask (s : Subnet) : Address :=
  ⟨2 ^ 32 - s.size, Nat.sub_lt (by decide) s.size_pos⟩

def hostMask (s : Subnet) : Address :=
  ⟨s.size - 1, Nat.lt_of_lt_of_le (Nat.sub_lt s.size_pos Nat.one_pos)
    (Nat.le_trans (Nat.le_add_left _ _) s.base_add_le)⟩

def text (s : Subnet) : String := s.base.text ++ "/" ++ toString s.length

instance : ToString Subnet := ⟨text⟩

end Subnet

namespace Prefix

/-- The subnet that a prefix lies in: the host bits of its address are cleared. -/
def subnet (p : Prefix) : Subnet where
  base := ⟨p.address.number - p.address.number % 2 ^ (32 - p.length),
    Nat.lt_of_le_of_lt (Nat.sub_le _ _) p.address.isLt⟩
  length := p.length
  length_le := p.length_le
  aligned := by
    have h := Nat.div_add_mod p.address.number (2 ^ (32 - p.length))
    have whole : p.address.number - p.address.number % 2 ^ (32 - p.length) =
        2 ^ (32 - p.length) * (p.address.number / 2 ^ (32 - p.length)) := by omega
    simp only [whole, Nat.mul_mod_right]

def text (p : Prefix) : String := p.address.text ++ "/" ++ toString p.length

end Prefix

inductive IpAddress where
  | v4 (address : Address)
  | v6 (number : Nat)
  deriving DecidableEq

inductive IpNetwork where
  | v4 (pre : Prefix)
  | v6 (number length : Nat)
  deriving DecidableEq

namespace IpAddress

def text : IpAddress → String
  | .v4 a => a.text
  | .v6 n => Address6.text n

/-- The address that a text spells. IPv4 comes first; no text spells both. -/
def ofString? (s : String) : Option IpAddress :=
  match Address.ofString? s with
  | some a => some (.v4 a)
  | none => (Address6.ofChars? s.toList).map .v6

/-- The address of a number: of IPv4 as long as it fits, then of IPv6. -/
def ofInt? (i : Int) : Option IpAddress :=
  match Address.ofInt? i with
  | some a => some (.v4 a)
  | none => if 0 ≤ i ∧ i < 2 ^ 128 then some (.v6 i.toNat) else none

end IpAddress

namespace IpNetwork

def text : IpNetwork → String
  | .v4 p => p.text
  | .v6 n length => Address6.text n ++ "/" ++ toString length

/-- The length of a mask of `width` bits: ones and then zeros, or else zeros and then ones, where
the zeros are the network. All zeros are a network of length zero. -/
def lengthOfMask? (width mask : Nat) : Option Nat :=
  match (List.range (width + 1)).find? fun k => mask == 2 ^ width - 2 ^ (width - k) with
  | some k => some k
  | none => (List.range (width + 1)).find? fun k => mask == 2 ^ (width - k) - 1

/-- The length behind the slash: a whole number up to the width of the family, or a mask in the
text of the family. -/
def length? (width : Nat) (address? : List Char → Option Nat) (cs : List Char) : Option Nat :=
  match Numeral.ofChars cs with
  | .ok i => if 0 ≤ i ∧ i ≤ width then some i.toNat else none
  | .error _ => (address? cs).bind (lengthOfMask? width)

def ofChars4? (cs : List Char) : Option Prefix := do
  let (front, back) := Text.cutAt '/' cs
  let a ← Address.ofChars? front
  let length ← match back with
    | none => some 32
    | some back => length? 32 (fun m => (Address.ofChars? m).map Address.number) back
  if h : length ≤ 32 then some ⟨a, length, h⟩ else none

def ofChars6? (cs : List Char) : Option (Nat × Nat) := do
  let (front, back) := Text.cutAt '/' cs
  let n ← Address6.ofChars? front
  let length ← match back with
    | none => some 128
    | some back => length? 128 Address6.ofChars? back
  some (n, length)

def ofString? (s : String) : Option IpNetwork :=
  match ofChars4? s.toList with
  | some p => some (.v4 p)
  | none => (ofChars6? s.toList).map fun p => .v6 p.1 p.2

def ofAddress : IpAddress → IpNetwork
  | .v4 a => .v4 ⟨a, 32, Nat.le_refl 32⟩
  | .v6 n => .v6 n 128

end IpNetwork
end LeaseBook
