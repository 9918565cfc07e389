import LeaseBook.Net.Facts
import LeaseBook.Proofs.Lending
import LeaseBook.Proofs.Walking
import Mathlib.Order.Bounds.Defs

/-!
How far a pool extends. The number of its assignable addresses, worked out from the length of the
subnet alone, is the number of addresses that the rule leaves alone; the first and the last of these
are the first and the last host of the subnet. Only a subnet of more than 256 addresses has hosts
that are not assignable.
-/

namespace LeaseBook.Pool

variable {p : Pool} {i : Nat} {a : Address}

/-- The addresses of the subnet that can be assigned. -/
def assignable (p : Pool) : Set Address := {a | p.contains a = true ∧ p.isValid a = true}

theorem addressAt_mem_assignable (usable : p.Usable i) : p.addressAt i ∈ p.assignable :=
  ⟨p.contains_addressAt i, (isValid_addressAt usable.lt).mpr usable⟩

theorem exists_usable_of_assignable (assignable : a ∈ p.assignable) :
    ∃ i, p.Usable i ∧ a = p.addressAt i :=
  isValid_iff.mp assignable.2

theorem usable_size_sub_two (p : Pool) : p.Usable (p.size - 2) := by
  have large := p.four_le_size
  have inside : p.size - 2 < p.size := by omega
  have octet := lastOctet_addressAt inside
  -- neither 0 nor 255 is two less than a multiple of four
  have base := p.four_dvd_base
  have size := p.four_dvd_size
  constructor <;> omega

theorem firstAssignable_eq (p : Pool) : p.firstAssignable = p.addressAt 1 :=
  valid_of_usable p.usable_one

theorem lastAssignable_eq (p : Pool) : p.lastAssignable = p.addressAt (p.size - 2 : Nat) :=
  valid_of_usable p.usable_size_sub_two

theorem isLeast_firstAssignable (p : Pool) : IsLeast p.assignable p.firstAssignable := by
  rw [firstAssignable_eq]
  refine ⟨addressAt_mem_assignable p.usable_one, fun a assignable => ?_⟩
  obtain ⟨i, usable, rfl⟩ := exists_usable_of_assignable assignable
  have here := number_addressAt usable.lt
  have first := number_addressAt p.usable_one.lt
  have := usable.notFirst
  change (p.addressAt (1 : Nat)).number ≤ (p.addressAt i).number
  omega

theorem isGreatest_lastAssignable (p : Pool) : IsGreatest p.assignable p.lastAssignable := by
  rw [lastAssignable_eq]
  refine ⟨addressAt_mem_assignable p.usable_size_sub_two, fun a assignable => ?_⟩
  obtain ⟨i, usable, rfl⟩ := exists_usable_of_assignable assignable
  have here := number_addressAt usable.lt
  have last := number_addressAt p.usable_size_sub_two.lt
  have := usable.lt
  have := usable.notLast
  change (p.addressAt i).number ≤ (p.addressAt (p.size - 2 : Nat)).number
  omega

theorem ncard_contained (p : Pool) : Set.ncard {a | p.contains a = true} = p.size := by
  rw [← p.length_ring 0 p.size]
  exact Address.ncard_eq_length (p.nodup_ring 0) fun _ => mem_ring

theorem ncard_assignable (p : Pool) : p.assignable.ncard = p.assignableCount := by
  rw [← p.length_lap 0]
  exact Address.ncard_eq_length (p.nodup_lap 0) fun _ => mem_lap

/- The facts of the subnet. -/

theorem hosts_eq (p : Pool) : p.subnet.hosts = p.size - 2 := by
  have := p.length_le
  unfold Subnet.hosts
  rw [if_neg (by omega), if_neg (by omega)]
  rfl

theorem facts_subnet (s : Subnet) : s.facts.subnet = s := by
  unfold Subnet.facts
  split <;> rfl

theorem facts_hosts (s : Subnet) : s.facts.hosts = s.hosts := by
  unfold Subnet.facts
  split <;> rfl

theorem facts_firstHost (p : Pool) : p.subnet.facts.firstHost = some p.firstAssignable := by
  have := p.length_le
  have place := number_addressAt p.usable_one.lt
  rw [firstAssignable_eq]
  unfold Subnet.facts
  rw [dif_pos (by omega)]
  exact congrArg some (Address.ext place.symm)

theorem facts_lastHost (p : Pool) : p.subnet.facts.lastHost = some p.lastAssignable := by
  have := p.length_le
  have place := number_addressAt p.usable_size_sub_two.lt
  rw [lastAssignable_eq]
  unfold Subnet.facts
  rw [dif_pos (by omega)]
  exact congrArg some (Address.ext place.symm)

theorem two_blocks_le_size (large : p.subnet.length < 24) : 512 ≤ p.size := by
  have long : 2 ^ 9 ≤ 2 ^ (32 - p.subnet.length) :=
    Nat.pow_le_pow_right (by decide) (by omega)
  exact long

/-- A pool says of itself what there is: the size is the number of addresses in the subnet, and the
count is the number of assignable ones, of which the first and the last are the least and the
greatest. The facts of the subnet agree with it, but for the number of hosts, which also counts the
addresses inside the subnet that end in 0 or 255; a subnet of up to 256 addresses has none. -/
theorem extent_agrees (p : Pool) :
    p.size = Set.ncard {a | p.contains a = true} ∧
    p.assignableCount = Set.ncard {a | p.contains a = true ∧ p.isValid a = true} ∧
    IsLeast {a | p.contains a = true ∧ p.isValid a = true} p.firstAssignable ∧
    IsGreatest {a | p.contains a = true ∧ p.isValid a = true} p.lastAssignable ∧
    p.subnet.facts.firstHost = some p.firstAssignable ∧
    p.subnet.facts.lastHost = some p.lastAssignable ∧
    p.subnet.facts.subnet.size = p.size ∧
    p.assignableCount ≤ p.subnet.facts.hosts ∧
    (p.assignableCount = p.subnet.facts.hosts ↔ 24 ≤ p.subnet.length) := by
  refine ⟨p.ncard_contained.symm, p.ncard_assignable.symm, p.isLeast_firstAssignable,
    p.isGreatest_lastAssignable, p.facts_firstHost, p.facts_lastHost,
    congrArg Subnet.size (facts_subnet p.subnet), ?_⟩
  rw [facts_hosts, hosts_eq]
  unfold assignableCount
  split
  · rename_i small
    exact ⟨Nat.le_refl _, iff_of_true rfl small⟩
  · rename_i large
    have blocks := two_blocks_le_size (Nat.lt_of_not_le large)
    exact ⟨by omega, iff_of_false (by omega) large⟩

end LeaseBook.Pool
