import LeaseBook.Net.Facts
import LeaseBook.Proofs.Walking
import Mathlib.Data.Int.Bitwise

/-!
Indices and addresses. The addresses of a subnet are those from its first one on, as many as it is
large, and an index names each of them once. What is worked out by division here is what the mask of
the subnet does to the bits: it keeps the bits of the network, its complement keeps the host bits,
and the two do not overlap.
-/

namespace LeaseBook

/- Masks: ones in front of the lowest `k` of `w` bits. -/

namespace Mask

variable {w k n i : Nat}

theorem testBit_ones (short : k ≤ w) (i : Nat) :
    (2 ^ w - 2 ^ k).testBit i = (decide (k ≤ i) && decide (i < w)) := by
  have below : 2 ^ k - 1 < 2 ^ w :=
    Nat.lt_of_lt_of_le (Nat.sub_lt (Nat.two_pow_pos k) Nat.one_pos)
      (Nat.pow_le_pow_right (by decide) short)
  have pred : 2 ^ k - 1 + 1 = 2 ^ k := Nat.sub_add_cancel (Nat.two_pow_pos k)
  have bits := Nat.testBit_two_pow_sub_succ below i
  rw [pred, Nat.testBit_two_pow_sub_one] at bits
  rw [bits, Bool.and_comm, ← decide_not]
  simp only [Nat.not_lt]

theorem shiftLeft_and (short : k ≤ w) : ((2 ^ w - 1) <<< k) &&& (2 ^ w - 1) = 2 ^ w - 2 ^ k := by
  apply Nat.eq_of_testBit_eq
  intro i
  rw [Nat.testBit_and, Nat.testBit_shiftLeft, Nat.testBit_two_pow_sub_one,
    Nat.testBit_two_pow_sub_one, testBit_ones short]
  by_cases high : k ≤ i
  · by_cases inside : i < w
    · have : i - k < w := by omega
      simp [high, inside, this]
    · simp [inside]
  · simp [high]

/-- A mask keeps what is left when the lowest bits are taken away. -/
theorem and_ones (short : k ≤ w) (below : n < 2 ^ w) :
    n &&& (2 ^ w - 2 ^ k) = 2 ^ k * (n / 2 ^ k) := by
  apply Nat.eq_of_testBit_eq
  intro i
  rw [Nat.testBit_and, testBit_ones short, Nat.testBit_two_pow_mul, Nat.testBit_div_two_pow]
  by_cases high : k ≤ i
  · by_cases inside : i < w
    · simp [high, inside, Nat.sub_add_cancel high]
    · have beyond : n.testBit i = false :=
        Nat.testBit_lt_two_pow
          (Nat.lt_of_lt_of_le below (Nat.pow_le_pow_right (by decide) (Nat.le_of_not_lt inside)))
      simp [high, beyond, Nat.sub_add_cancel high]
  · simp [high]

/-- The complement of a mask keeps the lowest bits, of a negative number too. -/
theorem land_lnot_ones (short : k ≤ w) (n : Int) :
    (n.land (Int.lnot (2 ^ w - 2 ^ k : Nat))).land (2 ^ w - 1 : Nat) = n % (2 ^ k : Nat) := by
  have low (i : Nat) :
      (decide (i < w) && !(decide (k ≤ i) && decide (i < w))) = decide (i < k) := by
    by_cases inside : i < k
    · have : i < w := by omega
      simp [inside, this, Nat.not_le.mpr inside]
    · simp [inside, Nat.le_of_not_lt inside]
  cases n with
  | ofNat m =>
    have bits : Nat.ldiff m (2 ^ w - 2 ^ k) &&& (2 ^ w - 1) = m % 2 ^ k := by
      have logic : ∀ x c b : Bool, ((x && !c) && b) = ((b && !c) && x) := by decide
      apply Nat.eq_of_testBit_eq
      intro i
      rw [Nat.testBit_and, Nat.testBit_ldiff, testBit_ones short, Nat.testBit_two_pow_sub_one,
        Nat.testBit_mod_two_pow, ← low i, logic]
    exact congrArg Int.ofNat bits
  | negSucc m =>
    -- the bits of a negative number are those that `m` lacks
    have bits : Nat.ldiff (2 ^ w - 1) (m ||| (2 ^ w - 2 ^ k)) = 2 ^ k - (m % 2 ^ k + 1) := by
      have logic : ∀ x c b : Bool, (b && !(x || c)) = ((b && !c) && !((b && !c) && x)) := by
        decide
      apply Nat.eq_of_testBit_eq
      intro i
      rw [Nat.testBit_ldiff, Nat.testBit_or, testBit_ones short, Nat.testBit_two_pow_sub_one,
        Nat.testBit_two_pow_sub_succ (Nat.mod_lt m (Nat.two_pow_pos k)), Nat.testBit_mod_two_pow,
        ← low i, logic]
    have rest : Int.negSucc m % (2 ^ k : Nat) = (2 ^ k - (m % 2 ^ k + 1) : Nat) := by
      rw [Int.emod_negSucc, Int.natAbs_natCast]
      exact Int.subNatNat_of_le (Nat.mod_lt m (Nat.two_pow_pos k))
    rw [rest]
    exact congrArg Int.ofNat bits

end Mask

theorem Prefix.base_subnet (q : Prefix) :
    q.subnet.base.number = 2 ^ (32 - q.length) * (q.address.number / 2 ^ (32 - q.length)) := by
  have split := Nat.div_add_mod q.address.number (2 ^ (32 - q.length))
  change q.address.number - q.address.number % 2 ^ (32 - q.length) = _
  omega

namespace Pool

variable {p : Pool} {a : Address}

/- The addresses of the subnet. -/

theorem contains_iff : p.contains a = true ↔
    p.subnet.base.number ≤ a.number ∧ a.number < p.subnet.base.number + p.size := by
  constructor
  · intro inside
    obtain ⟨i, below, rfl⟩ := exists_addressAt inside
    rw [number_addressAt below]
    omega
  · rintro ⟨first, last⟩
    have below : a.number - p.subnet.base.number < p.size := by omega
    have place := number_addressAt below
    have same : a = p.addressAt (a.number - p.subnet.base.number : Nat) := Address.ext (by omega)
    rw [same]
    exact p.contains_addressAt _

theorem addressAt_indexOf (p : Pool) (i : Int) : p.addressAt (p.indexOf i) = p.addressAt i :=
  addressAt_congr (indexOf_of_lt (p.indexOf_lt i))

theorem indexOf_addressAt (p : Pool) (i : Int) :
    p.indexOf (p.addressAt i).number = p.indexOf i := by
  rw [← p.addressAt_indexOf i, indexOf_number_addressAt (p.indexOf_lt i)]

theorem indexOf_cast (p : Pool) (i : Int) : (p.indexOf i : Int) = i % p.size := by
  have := p.size_pos
  exact Int.toNat_of_nonneg (Int.emod_nonneg i (by omega))

theorem addressAt_indexOf_iff : p.addressAt (p.indexOf a.number) = a ↔ p.contains a = true := by
  constructor
  · intro same
    rw [← same]
    exact p.contains_addressAt _
  · intro inside
    obtain ⟨i, below, rfl⟩ := exists_addressAt inside
    rw [indexOf_number_addressAt below]

/- The same by the bits. -/

/-- What a mask does to addresses and indices. A mask with its bits goes with a length; the first
address of a subnet is any of its addresses under the mask; an address is in the subnet if the mask
makes that of it; an index is what the complement of the mask leaves of a number of any sign, and is
put back by setting its bits. -/
structure Masks (p : Pool) (mask : Nat) : Prop where
  ofLength : maskOfLength p.subnet.length = .ok mask
  shifted : mask = ((2 ^ 32 - 1) <<< (32 - p.subnet.length)) &&& (2 ^ 32 - 1)
  size : p.size = 1 <<< (32 - p.subnet.length)
  base : ∀ q : Prefix, q.subnet = p.subnet → p.subnet.base.number = q.address.number &&& mask
  contains : ∀ a, p.contains a = true ↔ a.number &&& mask = p.subnet.base.number
  index : ∀ n, (p.indexOf n : Int) = (n.land (Int.lnot mask)).land (2 ^ 32 - 1 : Nat)
  address : ∀ i : Int,
    (p.addressAt i).number = p.subnet.base.number ||| (i % p.size).toNat

theorem masks (p : Pool) : p.Masks p.subnet.mask.number := by
  have short : 32 - p.subnet.length ≤ 32 := Nat.sub_le _ _
  constructor
  · have := p.subnet.length_le
    exact if_pos (by omega)
  · exact (Mask.shiftLeft_and short).symm
  · exact (Nat.one_shiftLeft _).symm
  · intro q same
    have first : p.subnet.base.number = q.subnet.base.number := by rw [same]
    have length : q.length = p.subnet.length := congrArg Subnet.length same
    rw [first, q.base_subnet, length]
    exact (Mask.and_ones short q.address.isLt).symm
  · intro a
    have cut : a.number &&& p.subnet.mask.number = p.size * (a.number / p.size) :=
      Mask.and_ones short a.isLt
    have block : p.contains a = true ↔ a.number / p.size = p.subnet.base.number / p.size :=
      beq_iff_eq
    rw [block, cut, p.base_eq, Nat.mul_div_cancel_left _ p.size_pos,
      Nat.mul_right_inj (Nat.ne_of_gt p.size_pos)]
  · intro n
    rw [p.indexOf_cast]
    exact (Mask.land_lnot_ones short n).symm
  · intro i
    have whole : p.subnet.base.number =
        2 ^ (32 - p.subnet.length) * (p.subnet.base.number / p.size) := p.base_eq
    change p.subnet.base.number + p.indexOf i = p.subnet.base.number ||| p.indexOf i
    rw [whole]
    exact Nat.two_pow_add_eq_or_of_lt (p.indexOf_lt i) _

/-- The subnet is the block of addresses from the first one on, each of which stands at one index:
every index, negative or past the end, is that of an address of the subnet up to whole rounds, and
the address at the index of an address is that address if and only if it is in the subnet. All this
is how the mask of the subnet acts on the bits. -/
theorem index_address_bijection (p : Pool) :
    (∀ a : Address, p.contains a = true ↔
      p.subnet.base.number ≤ a.number ∧ a.number < p.subnet.base.number + p.size) ∧
    (∀ i : Int, p.contains (p.addressAt i) = true ∧
      (p.indexOf (p.addressAt i).number : Int) = i % p.size) ∧
    (∀ a : Address, p.addressAt (p.indexOf a.number) = a ↔ p.contains a = true) ∧
    p.Masks p.subnet.mask.number := by
  refine ⟨fun a => contains_iff, fun i => ⟨p.contains_addressAt i, ?_⟩,
    fun a => addressAt_indexOf_iff, p.masks⟩
  rw [p.indexOf_addressAt, p.indexOf_cast]

end Pool
end LeaseBook
