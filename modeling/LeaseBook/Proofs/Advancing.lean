import LeaseBook.Proofs.Indexing

/-!
The next assignable address. The rule that passes addresses over moves an index on in two steps and
sends both ends of the subnet to the index 1. From any number on it ends where a search would end
that goes up around the subnet one address at a time and stops at the first that is neither at an
end of the subnet nor ends in 0 or 255.
-/

namespace LeaseBook.Pool

variable {p : Pool} {i k : Nat} {n : Int} {a b : Address}

/-- Whether an address is neither at an end of the subnet nor one that ends in 0 or 255. -/
structure Inner (p : Pool) (a : Address) : Prop where
  notFirst : p.indexOf a.number ≠ 0
  notLast : p.indexOf a.number ≠ p.size - 1
  notZero : a.lastOctet ≠ 0
  notOnes : a.lastOctet ≠ 255

/-- That an address is the first inner one at an index or above it, on around the subnet. -/
def FirstFrom (p : Pool) (start : Int) (a : Address) : Prop :=
  ∃ steps : Nat, steps < p.size ∧ a = p.addressAt (start + steps) ∧ p.Inner a ∧
    ∀ before : Nat, before < steps → ¬ p.Inner (p.addressAt (start + before))

theorem inner_addressAt (inside : i < p.size) : p.Inner (p.addressAt i) ↔ p.Usable i := by
  have index := indexOf_number_addressAt inside
  constructor
  · rintro ⟨notFirst, notLast, notZero, notOnes⟩
    rw [index] at notFirst notLast
    exact ⟨inside, notFirst, notLast, notZero, notOnes⟩
  · intro usable
    refine ⟨?_, ?_, usable.notZero, usable.notOnes⟩
    · rw [index]
      exact usable.notFirst
    · rw [index]
      exact usable.notLast

theorem isValid_iff_contains_inner : p.isValid a = true ↔ p.contains a = true ∧ p.Inner a := by
  constructor
  · intro valid
    obtain ⟨i, usable, rfl⟩ := isValid_iff.mp valid
    exact ⟨p.contains_addressAt i, (inner_addressAt usable.lt).mpr usable⟩
  · rintro ⟨inside, inner⟩
    obtain ⟨i, below, rfl⟩ := exists_addressAt inside
    exact isValid_iff.mpr ⟨i, (inner_addressAt below).mp inner, rfl⟩

/- The search. -/

theorem indexOf_add (p : Pool) (n k : Int) : p.indexOf (p.indexOf n + k) = p.indexOf (n + k) := by
  rw [← Int.natCast_inj, p.indexOf_cast, p.indexOf_cast, p.indexOf_cast, Int.emod_add_emod]

theorem addressAt_add (p : Pool) (n : Int) (k : Nat) :
    p.addressAt (n + k) = p.addressAt (p.indexOf n + k : Nat) :=
  addressAt_congr (p.indexOf_add n k).symm

theorem FirstFrom.congr {m : Int} (same : p.indexOf m = p.indexOf n) (first : p.FirstFrom m a) :
    p.FirstFrom n a := by
  simpa only [FirstFrom, addressAt_add, same] using first

theorem FirstFrom.unique (first : p.FirstFrom n a) (other : p.FirstFrom n b) : a = b := by
  obtain ⟨s, _, rfl, inner, before⟩ := first
  obtain ⟨t, _, rfl, inner', before'⟩ := other
  rcases Nat.lt_trichotomy s t with less | rfl | more
  · exact absurd inner (before' s less)
  · rfl
  · exact absurd inner' (before t more)

/-- Where the rule goes, the search stops: onward in the subnet, or past its end at the index 1. -/
theorem Lands.firstFrom (inside : i < p.size) (lands : p.Lands i k) :
    p.FirstFrom i (p.addressAt k) := by
  have below := lands.usable.lt
  have inner := (inner_addressAt below).mpr lands.usable
  have passed (j : Nat) (short : j < p.size) (unusable : ¬ p.Usable j) :
      ¬ p.Inner (p.addressAt j) :=
    mt (inner_addressAt short).mp unusable
  by_cases onward : i ≤ k
  · refine ⟨k - i, by omega, ?_, inner, fun before less => ?_⟩
    · rw [← Int.natCast_add, Nat.add_sub_cancel' onward]
    · rw [← Int.natCast_add]
      refine passed _ (by omega) fun usable => ?_
      have := (lands.first _ usable (by omega)).2
      omega
  · -- up to the end of the subnet, over its first address and on to the next one
    have around : k = 1 := lands.onward.resolve_left onward
    refine ⟨p.size - i + 1, by omega, ?_, inner, fun before less => ?_⟩
    · rw [← Int.natCast_add, around]
      apply addressAt_congr_mod
      rw [← Nat.add_assoc, Nat.add_sub_cancel' (Nat.le_of_lt inside), Nat.add_mod_left]
    · rw [← Int.natCast_add]
      by_cases within : i + before < p.size
      · refine passed _ within fun usable => ?_
        have := (lands.first _ usable (by omega)).1
        omega
      · have zero : p.addressAt (i + before : Nat) = p.addressAt (0 : Nat) := by
          apply addressAt_congr_mod
          rw [show i + before = p.size by omega, Nat.mod_self, Nat.zero_mod]
        rw [zero]
        exact passed 0 p.size_pos fun usable => usable.notFirst rfl

theorem valid_congr {m : Int} (same : p.indexOf m = p.indexOf n) : p.valid m = p.valid n := by
  simp only [valid, same]

theorem firstFrom_valid (p : Pool) (n : Int) : p.FirstFrom n (p.valid n) := by
  have inside := p.indexOf_lt n
  have index := indexOf_number_addressAt inside
  obtain ⟨k, lands, there⟩ := exists_lands inside
  rw [← valid_congr index, there]
  exact (lands.firstFrom inside).congr (indexOf_of_lt inside)

theorem firstFrom_next (p : Pool) (n : Int) : p.FirstFrom (n + 1) (p.next n) := by
  have index : p.indexOf (p.addressAt (p.indexOf n + 1)).number = p.indexOf (n + 1) := by
    rw [p.indexOf_addressAt, p.indexOf_add]
  exact (p.firstFrom_valid _).congr index

/-- From any number on, the rule goes to the first inner address, starting with the one of the
subnet that has the host bits of the number and going up around the subnet; and it stays at an inner
address. So exactly the inner addresses of the subnet are left alone, and the address after a number
is the first inner one behind it. -/
theorem valid_first_inner (p : Pool) :
    (∀ n : Int, p.contains (p.addressAt n) = true ∧
      ((p.addressAt n).number : Int) % p.size = n % p.size) ∧
    (∀ n a, p.FirstFrom n a ↔ a = p.valid n) ∧
    (∀ n, p.contains (p.valid n) = true ∧ p.valid (p.valid n).number = p.valid n) ∧
    (∀ a, p.isValid a = true ↔ p.contains a = true ∧ p.Inner a) ∧
    ∀ n a, p.FirstFrom (n + 1) a ↔ a = p.next n := by
  refine ⟨fun n => ⟨p.contains_addressAt n, ?_⟩, fun n a => ?_, fun n => ⟨p.contains_valid n, ?_⟩,
    fun a => isValid_iff_contains_inner, fun n a => ?_⟩
  · rw [← p.indexOf_cast, ← p.indexOf_cast, p.indexOf_addressAt]
  · constructor
    · intro first
      exact first.unique (p.firstFrom_valid n)
    · rintro rfl
      exact p.firstFrom_valid n
  · exact beq_iff_eq.mp (p.isValid_valid n)
  · constructor
    · intro first
      exact first.unique (p.firstFrom_next n)
    · rintro rfl
      exact p.firstFrom_next n

/-- In a subnet of 512 addresses 255 and the 0 behind it are passed over together. -/
example :
    let p : Pool := ⟨⟨⟨0x0A000000, by decide⟩, 23, by decide, by decide⟩, [], 1000, by decide⟩
    p.valid 0x0A0000FF = ⟨0x0A000101, by decide⟩ ∧ p.valid (-1) = ⟨0x0A000001, by decide⟩ := by
  decide +kernel

end LeaseBook.Pool
