import LeaseBook.Number.Power
import LeaseBook.Text.Split

/-!
IPv4 addresses: numbers below 2 ^ 32. The text of an address is four decimal octets without
leading zeros, and the reader takes no other spelling.
-/

namespace LeaseBook

structure Address where
  number : Nat
  isLt : number < 2 ^ 32
  deriving DecidableEq

namespace Address

instance : LT Address := ⟨fun a b => a.number < b.number⟩

instance : LE Address := ⟨fun a b => a.number ≤ b.number⟩

instance (a b : Address) : Decidable (a < b) := inferInstanceAs (Decidable (a.number < b.number))

instance (a b : Address) : Decidable (a ≤ b) := inferInstanceAs (Decidable (a.number ≤ b.number))

@[ext] theorem ext {a b : Address} (h : a.number = b.number) : a = b := by
  cases a; cases b; cases h; rfl

/-- The address 0.0.0.0, which clients without an address of their own send. -/
def unspecified : Address := ⟨0, by decide⟩

def ofNat? (n : Nat) : Option Address :=
  if h : n < 2 ^ 32 then some ⟨n, h⟩ else none

def ofInt? (i : Int) : Option Address :=
  if 0 ≤ i then ofNat? i.toNat else none

def octets (a : Address) : List Nat :=
  [a.number / 2 ^ 24, a.number / 2 ^ 16 % 256, a.number / 2 ^ 8 % 256, a.number % 256]

def lastOctet (a : Address) : Nat := a.number % 256

def digitChar (d : Nat) : Char := Char.ofNat (0x30 + d)

def digit? (c : Char) : Option Nat :=
  if 0x30 ≤ c.toNat ∧ c.toNat ≤ 0x39 then some (c.toNat - 0x30) else none

def octetChars (n : Nat) : List Char :=
  if n < 10 then [digitChar n]
  else if n < 100 then [digitChar (n / 10), digitChar (n % 10)]
  else [digitChar (n / 100), digitChar (n / 10 % 10), digitChar (n % 10)]

/-- The octet that one to three digits spell, unless a zero leads needlessly. -/
def octet? : List Char → Option Nat
  | [a] => digit? a
  | [a, b] =>
    match digit? a, digit? b with
    | some x, some y => if x = 0 then none else some (10 * x + y)
    | _, _ => none
  | [a, b, c] =>
    match digit? a, digit? b, digit? c with
    | some x, some y, some z =>
      let n := 100 * x + 10 * y + z
      if x = 0 ∨ 255 < n then none else some n
    | _, _, _ => none
  | _ => none

def chars (a : Address) : List Char :=
  Text.joinWith ['.'] (a.octets.map octetChars)

def text (a : Address) : String := String.ofList a.chars

instance : ToString Address := ⟨text⟩

def ofChars? (cs : List Char) : Option Address :=
  match (Text.splitAt '.' cs).map octet? with
  | [some a, some b, some c, some d] => ofNat? (((a * 256 + b) * 256 + c) * 256 + d)
  | _ => none

def ofString? (s : String) : Option Address := ofChars? s.toList

theorem octet?_octetChars {n : Nat} (h : n < 256) : octet? (octetChars n) = some n := by
  have all : ∀ k ∈ List.range 256, octet? (octetChars k) = some k := by decide +kernel
  exact all n (List.mem_range.mpr h)

def isUnspecified : Option Address → Bool
  | none => true
  | some a => a == unspecified

def insert (a : Address) : List Address → List Address
  | [] => [a]
  | b :: rest => if a < b then a :: b :: rest else if a = b then b :: rest else b :: a.insert rest

/-- The addresses of a list in increasing order, each once. -/
def sorted (addresses : List Address) : List Address :=
  addresses.foldr insert []

theorem mem_insert {a b : Address} {as : List Address} : b ∈ a.insert as ↔ b = a ∨ b ∈ as := by
  induction as with
  | nil => simp only [insert, List.mem_singleton, List.not_mem_nil, or_false]
  | cons c rest ih =>
    simp only [insert]
    split
    · exact List.mem_cons
    · split
      · rename_i same
        subst same
        simp only [List.mem_cons, or_self_left]
      · simp only [List.mem_cons, ih, or_left_comm]

theorem mem_sorted {a : Address} {as : List Address} : a ∈ sorted as ↔ a ∈ as := by
  induction as with
  | nil => rfl
  | cons b rest ih =>
    change a ∈ b.insert (sorted rest) ↔ a ∈ b :: rest
    rw [mem_insert, ih, List.mem_cons]

end Address
end LeaseBook
