import LeaseBook.Value.Reading

/-!
The pool of a subnet: which of its addresses can be assigned, and where the search for a free one
starts for each client. Addresses that end in 0 or 255 and the first and the last address of the
subnet are passed over, since some network stacks mistreat them.
-/

namespace LeaseBook

/-- The serving parameters: a subnet of at least four addresses, the reserved addresses in
increasing order, and for how many milliseconds an address is leased. -/
structure Pool where
  subnet : Subnet
  reserved : List Address
  leaseTime : Nat
  length_le : subnet.length ≤ 30
  deriving DecidableEq

namespace Pool

def maxLength : Nat := 30

def size (p : Pool) : Nat := p.subnet.size

theorem four_le_size (p : Pool) : 4 ≤ p.size := by
  have h : 2 ^ 2 ≤ 2 ^ (32 - p.subnet.length) :=
    Nat.pow_le_pow_right (by decide) (by have := p.length_le; omega)
  exact h

theorem size_pos (p : Pool) : 0 < p.size := p.subnet.size_pos

def contains (p : Pool) (a : Address) : Bool := p.subnet.contains a

def isReserved (p : Pool) (a : Address) : Bool := p.reserved.contains a

/-- The index of a number in the subnet: its host bits. -/
def indexOf (p : Pool) (n : Int) : Nat := (n % p.size).toNat

theorem indexOf_lt (p : Pool) (n : Int) : p.indexOf n < p.size := by
  have pos : (0 : Int) < p.size := by exact_mod_cast p.size_pos
  have := Int.emod_lt_of_pos n pos
  have := Int.emod_nonneg n (Int.ne_of_gt pos)
  rw [indexOf]
  omega

/-- The address at an index, where indices past either end go on around the subnet. -/
def addressAt (p : Pool) (index : Int) : Address :=
  p.subnet.nth (p.indexOf index) (p.indexOf_lt index)

/-- One index further around the subnet, if the address at the index ends in an octet that is
passed over. -/
def skip (p : Pool) (octet : Nat) (index : Nat) : Nat :=
  if (p.addressAt index).lastOctet = octet then (index + 1) % p.size else index

/-- The assignable address at a number's place in the subnet, or the next one after it. The
index 1 is always assignable. -/
def valid (p : Pool) (n : Int) : Address :=
  let index := p.skip 0 (p.skip 255 (p.indexOf n))
  p.addressAt (if index = 0 ∨ index = p.size - 1 then 1 else index)

def isValid (p : Pool) (a : Address) : Bool := p.valid a.number == a

def next (p : Pool) (n : Int) : Address :=
  p.valid (p.addressAt (p.indexOf n + 1)).number

def signedOctet (n : Nat) : Int := if 127 < n then (n : Int) - 256 else n

/-- The index at which the search for a client starts, hashed from its hardware address: each
octet is spread over three bytes of a 32-bit sum. -/
def seed (p : Pool) (h : Hardware) : Nat :=
  let sum := h.octets.foldl
    (fun acc n => let b := signedOctet n; acc + (b + b * 2 ^ 8 + b * 2 ^ 16)) (0 : Int)
  (sum % 2 ^ 32).toNat % p.size

def firstCandidate (p : Pool) (h : Hardware) : Address :=
  p.valid (p.addressAt (p.seed h)).number

def walk (p : Pool) : Nat → Address → List Address
  | 0, _ => []
  | count + 1, a => a :: p.walk count (p.next a.number)

/-- The addresses tried for a client: once around the subnet. Few are passed over, so some are
tried twice at the end. -/
def candidates (p : Pool) (h : Hardware) : List Address :=
  p.walk p.size (p.firstCandidate h)

def findFrom (p : Pool) (ok : Address → Bool) : Nat → Address → Option Address
  | 0, _ => none
  | count + 1, a => if ok a then some a else p.findFrom ok count (p.next a.number)

theorem findFrom_eq_find? (p : Pool) (ok : Address → Bool) (count : Nat) (a : Address) :
    p.findFrom ok count a = (p.walk count a).find? ok := by
  induction count generalizing a with
  | zero => rfl
  | succ count ih =>
    simp only [findFrom, walk, List.find?_cons]
    cases ok a <;> simp [ih]

def findCandidate (p : Pool) (h : Hardware) (ok : Address → Bool) : Option Address :=
  p.findFrom ok p.size (p.firstCandidate h)

theorem findCandidate_eq_find? (p : Pool) (h : Hardware) (ok : Address → Bool) :
    p.findCandidate h ok = (p.candidates h).find? ok :=
  p.findFrom_eq_find? ok _ _

def nextBy (p : Pool) : Nat → Address → Address
  | 0, a => a
  | count + 1, a => p.nextBy count (p.next a.number)

/-- Some of the addresses tried for a client: `count` of them from position `start` on. -/
def candidateSlice (p : Pool) (h : Hardware) (start count : Nat) : List Address :=
  if start < p.size then
    p.walk (min count (p.size - start)) (p.nextBy start (p.firstCandidate h))
  else []

/-- The number of assignable addresses, reserved ones included. -/
def assignableCount (p : Pool) : Nat :=
  if 24 ≤ p.subnet.length then p.size - 2 else p.size - 2 * (p.size / 256)

def firstAssignable (p : Pool) : Address := p.valid (p.addressAt 1).number

def lastAssignable (p : Pool) : Address := p.valid (p.addressAt (p.size - 2 : Nat)).number

def text (p : Pool) : String :=
  "AddressPool(prefix=" ++ p.subnet.text ++ ", reserved=" ++ toString p.reserved.length ++
    ", lease_time_ms=" ++ toString p.leaseTime ++ ")"

end Pool
end LeaseBook
