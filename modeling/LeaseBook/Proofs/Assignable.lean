import LeaseBook.Pool.Basic

/-!
Which addresses a pool assigns. The rule that passes addresses over moves an index on at most twice
and sends both ends to the index 1; wherever it starts, it ends at an address of the subnet that it
would leave alone.
-/

namespace LeaseBook.Pool

variable {p : Pool} {i octet : Nat} {n : Int} {a : Address} {h : Hardware}

/- Addresses by index. -/

theorem indexOf_of_lt (inside : i < p.size) : p.indexOf i = i := by
  have whole : ((i : Int) % p.size).toNat = i % p.size := by omega
  rw [indexOf, whole, Nat.mod_eq_of_lt inside]

theorem number_addressAt (inside : i < p.size) :
    (p.addressAt i).number = p.subnet.base.number + i := by
  change p.subnet.base.number + p.indexOf i = p.subnet.base.number + i
  rw [indexOf_of_lt inside]

theorem lastOctet_addressAt (inside : i < p.size) :
    (p.addressAt i).lastOctet = (p.subnet.base.number + i) % 256 := by
  rw [Address.lastOctet, number_addressAt inside]

theorem base_eq (p : Pool) :
    p.subnet.base.number = p.size * (p.subnet.base.number / p.size) := by
  have split := Nat.div_add_mod p.subnet.base.number p.size
  have aligned : p.subnet.base.number % p.size = 0 := p.subnet.aligned
  omega

theorem contains_addressAt (p : Pool) (n : Int) : p.contains (p.addressAt n) = true := by
  have inside := p.indexOf_lt n
  have block : (p.subnet.base.number + p.indexOf n) / p.size = p.subnet.base.number / p.size := by
    rw [base_eq p, Nat.mul_add_div p.size_pos, Nat.div_eq_of_lt inside,
      Nat.mul_div_cancel_left _ p.size_pos, Nat.add_zero]
  exact beq_iff_eq.mpr block

theorem indexOf_number_addressAt (inside : i < p.size) :
    p.indexOf (p.addressAt i).number = i := by
  have aligned : p.subnet.base.number % p.size = 0 := p.subnet.aligned
  have host : ((p.subnet.base.number + i : Nat) : Int) % p.size =
      ((p.subnet.base.number + i) % p.size : Nat) := by omega
  rw [number_addressAt inside, indexOf, host, Int.toNat_natCast, Nat.add_mod, aligned,
    Nat.zero_add, Nat.mod_mod, Nat.mod_eq_of_lt inside]

/- Indices that are not passed over. -/

/-- Whether the rule leaves an index alone: it is neither the first nor the last of the subnet, and
the address there ends neither in 0 nor in 255. -/
structure Usable (p : Pool) (index : Nat) : Prop where
  lt : index < p.size
  notFirst : index ≠ 0
  notLast : index ≠ p.size - 1
  notZero : (p.addressAt index).lastOctet ≠ 0
  notOnes : (p.addressAt index).lastOctet ≠ 255

theorem four_dvd_size (p : Pool) : 4 ∣ p.size := by
  have short : 2 ≤ 32 - p.subnet.length := by
    have := p.length_le
    omega
  exact Nat.pow_dvd_pow 2 short

theorem four_dvd_base (p : Pool) : 4 ∣ p.subnet.base.number := by
  apply Nat.dvd_trans p.four_dvd_size
  exact Nat.dvd_of_mod_eq_zero p.subnet.aligned

theorem usable_one (p : Pool) : p.Usable 1 := by
  have large := p.four_le_size
  have inside : 1 < p.size := by omega
  have octet := lastOctet_addressAt inside
  -- neither 0 nor 255 is one more than a multiple of four
  have four := p.four_dvd_base
  constructor <;> omega

theorem skip_lt (inside : i < p.size) : p.skip octet i < p.size := by
  unfold skip
  split
  · exact Nat.mod_lt _ p.size_pos
  · exact inside

theorem skip_of_ne (miss : (p.addressAt i).lastOctet ≠ octet) : p.skip octet i = i := if_neg miss

/-- An index that is moved on comes round to the first one, or the octet there is one more. -/
theorem skip_cases (octet : Nat) (inside : i < p.size) :
    p.skip octet i = 0 ∨
    (p.addressAt (p.skip octet i)).lastOctet = (octet + 1) % 256 ∨
    ((p.addressAt i).lastOctet ≠ octet ∧ p.skip octet i = i) := by
  unfold skip
  split
  · rename_i hit
    by_cases around : i + 1 = p.size
    · exact .inl (by rw [around, Nat.mod_self])
    · have further : i + 1 < p.size := by omega
      rw [lastOctet_addressAt inside] at hit
      refine .inr (.inl ?_)
      rw [Nat.mod_eq_of_lt further, lastOctet_addressAt further]
      omega
  · rename_i miss
    exact .inr (.inr ⟨miss, rfl⟩)

theorem usable_skips (inside : i < p.size) (notFirst : p.skip 0 (p.skip 255 i) ≠ 0)
    (notLast : p.skip 0 (p.skip 255 i) ≠ p.size - 1) : p.Usable (p.skip 0 (p.skip 255 i)) := by
  have between : p.skip 255 i < p.size := skip_lt inside
  -- behind the first skip no octet is 255, unless the index has come round
  have notOnes : p.skip 255 i = 0 ∨ (p.addressAt (p.skip 255 i)).lastOctet ≠ 255 := by
    rcases skip_cases 255 inside with first | octet | ⟨miss, same⟩
    · exact .inl first
    · exact .inr (by omega)
    · rw [same]
      exact .inr miss
  rcases skip_cases 0 between with first | octet | ⟨miss, same⟩
  · exact absurd first notFirst
  · exact ⟨skip_lt between, notFirst, notLast, by omega, by omega⟩
  · rw [same] at notFirst notLast ⊢
    exact ⟨between, notFirst, notLast, miss, notOnes.resolve_left notFirst⟩

theorem exists_usable_valid (p : Pool) (n : Int) : ∃ i, p.Usable i ∧ p.valid n = p.addressAt i := by
  unfold valid
  dsimp only
  split
  · exact ⟨1, p.usable_one, rfl⟩
  · rename_i inner
    obtain ⟨notFirst, notLast⟩ := not_or.mp inner
    exact ⟨_, usable_skips (p.indexOf_lt n) notFirst notLast, rfl⟩

theorem valid_of_usable (usable : p.Usable i) : p.valid (p.addressAt i).number = p.addressAt i := by
  have inner : ¬ (i = 0 ∨ i = p.size - 1) := not_or.mpr ⟨usable.notFirst, usable.notLast⟩
  unfold valid
  dsimp only
  rw [indexOf_number_addressAt usable.lt, skip_of_ne usable.notOnes, skip_of_ne usable.notZero,
    if_neg inner]

theorem contains_valid (p : Pool) (n : Int) : p.contains (p.valid n) = true := by
  obtain ⟨i, _, same⟩ := p.exists_usable_valid n
  rw [same]
  exact p.contains_addressAt i

theorem isValid_valid (p : Pool) (n : Int) : p.isValid (p.valid n) = true := by
  obtain ⟨i, usable, same⟩ := p.exists_usable_valid n
  rw [same]
  exact beq_iff_eq.mpr (valid_of_usable usable)

theorem eq_valid_of_mem_walk {count : Nat} (tried : a ∈ p.walk count (p.valid n)) :
    ∃ k, a = p.valid k := by
  induction count generalizing n with
  | zero => cases tried
  | succ count ih =>
    rcases List.mem_cons.mp tried with rfl | later
    · exact ⟨n, rfl⟩
    · exact ih later

theorem eq_valid_of_mem_candidates (tried : a ∈ p.candidates h) : ∃ k, a = p.valid k :=
  eq_valid_of_mem_walk tried

/-- Whether a pool has an address to give: it lies in the subnet, it is not passed over, and it is
not reserved. -/
def Assigns (p : Pool) (a : Address) : Prop :=
  p.contains a = true ∧ p.isValid a = true ∧ p.isReserved a = false

instance (p : Pool) (a : Address) : Decidable (p.Assigns a) :=
  inferInstanceAs (Decidable (_ ∧ _ ∧ _))

theorem assigns_iff :
    p.Assigns a ↔ (p.contains a && p.isValid a && !p.isReserved a) = true := by
  simp only [Assigns, Bool.and_eq_true, Bool.not_eq_true', and_assoc]

end LeaseBook.Pool
