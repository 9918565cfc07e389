import LeaseBook.Proofs.Searching
import Mathlib.Data.Nat.Count
import Mathlib.Order.Interval.Finset.Nat

/-!
The walk of the addresses tried for a client, element by element. From an index on, the walk lists
the assignable addresses in the order of the indices, so that it goes around the subnet and begins
again with the address it began with.
-/

namespace LeaseBook.Pool

variable {p : Pool} {i j k m n start count : Nat} {a : Address}

/- Indices around the subnet. -/

theorem indexOf_natCast (p : Pool) (i : Nat) : p.indexOf i = i % p.size := by
  unfold indexOf
  omega

theorem addressAt_congr {m n : Int} (same : p.indexOf m = p.indexOf n) :
    p.addressAt m = p.addressAt n := by
  simp only [addressAt, same]

theorem addressAt_congr_mod (same : i % p.size = j % p.size) : p.addressAt i = p.addressAt j := by
  apply addressAt_congr
  simpa only [indexOf_natCast] using same

theorem addressAt_mod (p : Pool) (i : Nat) : p.addressAt (i % p.size : Nat) = p.addressAt i :=
  addressAt_congr_mod (Nat.mod_mod i p.size)

theorem addressAt_mod_succ (p : Pool) (i : Nat) :
    p.addressAt (i % p.size + 1 : Nat) = p.addressAt (i + 1 : Nat) := by
  apply addressAt_congr_mod
  rw [Nat.mod_add_mod]

theorem addressAt_inj (insideI : i < p.size) (insideJ : j < p.size)
    (same : p.addressAt i = p.addressAt j) : i = j := by
  have index := indexOf_number_addressAt insideI
  rw [same, indexOf_number_addressAt insideJ] at index
  exact index.symm

theorem exists_addressAt (inside : p.contains a = true) : ∃ i, i < p.size ∧ a = p.addressAt i := by
  have block : a.number / p.size = p.subnet.base.number / p.size := beq_iff_eq.mp inside
  have offset : a.number % p.size < p.size := Nat.mod_lt _ p.size_pos
  have base := p.base_eq
  have split := Nat.div_add_mod a.number p.size
  refine ⟨a.number % p.size, offset, Address.ext ?_⟩
  rw [number_addressAt offset, base, ← block]
  exact split.symm

theorem isValid_addressAt (inside : i < p.size) :
    p.isValid (p.addressAt i) = true ↔ p.Usable i := by
  rw [isValid_iff]
  constructor
  · rintro ⟨j, usable, same⟩
    rw [addressAt_inj inside usable.lt same]
    exact usable
  · intro usable
    exact ⟨i, usable, rfl⟩

/-- The rule leaves an address alone for what it is: neither the first nor the last of the subnet,
and not one that ends in 0 or 255. -/
theorem isValid_iff_inner (inside : p.contains a = true) :
    p.isValid a = true ↔
      a ≠ p.subnet.base ∧ a ≠ p.subnet.top ∧ a.lastOctet ≠ 0 ∧ a.lastOctet ≠ 255 := by
  obtain ⟨i, below, rfl⟩ := exists_addressAt inside
  have place := number_addressAt below
  have top : p.subnet.top.number = p.subnet.base.number + (p.size - 1) := rfl
  have first : p.addressAt i ≠ p.subnet.base ↔ i ≠ 0 := by
    rw [ne_eq, Address.ext_iff, place]
    omega
  have last : p.addressAt i ≠ p.subnet.top ↔ i ≠ p.size - 1 := by
    rw [ne_eq, Address.ext_iff, place, top]
    omega
  rw [isValid_addressAt below, first, last]
  constructor
  · intro usable
    exact ⟨usable.notFirst, usable.notLast, usable.notZero, usable.notOnes⟩
  · rintro ⟨notFirst, notLast, notZero, notOnes⟩
    exact ⟨below, notFirst, notLast, notZero, notOnes⟩

theorem contains_of_isValid (valid : p.isValid a = true) : p.contains a = true := by
  rw [← beq_iff_eq.mp valid]
  exact p.contains_valid _

/- One index further. -/

/-- From an index that is passed over the rule goes where it goes from the next one. -/
theorem Lands.succ_eq (lands : p.Lands i j) (passed : ¬ p.Usable i) (after : p.Lands (i + 1) k) :
    j = k := by
  have moved : j ≠ i := by
    rintro rfl
    exact passed lands.usable
  have toAfter := lands.first k after.usable
  have toHere := after.first j lands.usable
  have := lands.onward
  have := after.onward
  omega

theorem Lands.eq_one_of_last (lands : p.Lands i k) (last : i + 1 = p.size) : k = 1 := by
  have := lands.usable.lt
  have := lands.usable.notLast
  have := lands.onward
  omega

theorem Lands.eq_one_of_zero (lands : p.Lands 0 k) : k = 1 := by
  have := lands.usable.notFirst
  have := lands.first 1 p.usable_one (Nat.zero_le 1)
  omega

theorem valid_succ_of_lt (inside : i < p.size) (passed : ¬ p.Usable i) :
    p.valid (p.addressAt (i + 1 : Nat)).number = p.valid (p.addressAt i).number := by
  obtain ⟨j, lands, here⟩ := exists_lands inside
  by_cases further : i + 1 < p.size
  · obtain ⟨k, after, there⟩ := exists_lands further
    rw [here, there, lands.succ_eq passed after]
  · have last : i + 1 = p.size := by omega
    obtain ⟨k, after, there⟩ := exists_lands p.size_pos
    have around : p.addressAt (i + 1 : Nat) = p.addressAt (0 : Nat) := by
      apply addressAt_congr_mod
      rw [last, Nat.mod_self, Nat.zero_mod]
    rw [around, there, here, lands.eq_one_of_last last, after.eq_one_of_zero]

theorem valid_succ (passed : p.isValid (p.addressAt i) ≠ true) :
    p.valid (p.addressAt (i + 1 : Nat)).number = p.valid (p.addressAt i).number := by
  have inside : i % p.size < p.size := Nat.mod_lt _ p.size_pos
  rw [← p.addressAt_mod i, ne_eq, isValid_addressAt inside] at passed
  rw [← p.addressAt_mod_succ i, valid_succ_of_lt inside passed, p.addressAt_mod i]

theorem next_addressAt (p : Pool) (i : Nat) :
    p.next (p.addressAt i).number = p.valid (p.addressAt (i + 1 : Nat)).number := by
  have inside : i % p.size < p.size := Nat.mod_lt _ p.size_pos
  unfold next
  rw [← p.addressAt_mod i, indexOf_number_addressAt inside, ← p.addressAt_mod_succ i]
  rfl

/- Addresses in a row. -/

/-- The addresses at `count` indices in a row, on around the subnet. -/
def ring (p : Pool) (start count : Nat) : List Address :=
  (List.range' start count).map fun i : Nat => p.addressAt i

theorem ring_succ (p : Pool) (start count : Nat) :
    p.ring start (count + 1) = p.addressAt start :: p.ring (start + 1) count := by
  simp [ring, List.range'_succ]

theorem length_ring (p : Pool) (start count : Nat) : (p.ring start count).length = count := by
  simp [ring]

theorem ring_add (p : Pool) (start m n : Nat) :
    p.ring start (m + n) = p.ring start m ++ p.ring (start + m) n := by
  simp [ring, ← List.map_append, List.range'_append_1]

theorem ring_around (p : Pool) (start count : Nat) :
    p.ring (start + p.size) count = p.ring start count := by
  induction count generalizing start with
  | zero => rfl
  | succ count ih =>
    have same : p.addressAt (start + p.size : Nat) = p.addressAt start := by
      apply addressAt_congr_mod
      exact Nat.add_mod_right start p.size
    rw [ring_succ, ring_succ, same, Nat.add_right_comm, ih]

theorem ring_perm_zero (p : Pool) (start : Nat) : (p.ring start p.size).Perm (p.ring 0 p.size) := by
  induction start with
  | zero => exact .refl _
  | succ start ih =>
    obtain ⟨rest, split⟩ := Nat.exists_eq_add_one_of_ne_zero (Nat.ne_of_gt p.size_pos)
    have last : p.ring (start + 1) (rest + 1) =
        p.ring (start + 1) rest ++ [p.addressAt start] := by
      have same : p.addressAt (start + 1 + rest : Nat) = p.addressAt start := by
        apply addressAt_congr_mod
        rw [Nat.add_assoc, Nat.add_comm 1, ← split, Nat.add_mod_right]
      rw [ring_add, ring_succ, same]
      rfl
    rw [split] at ih ⊢
    rw [last]
    rw [ring_succ] at ih
    exact (List.perm_append_singleton _ _).trans ih

theorem nodup_ring (p : Pool) (start : Nat) : (p.ring start p.size).Nodup := by
  refine (p.ring_perm_zero start).nodup_iff.mpr ?_
  apply List.Nodup.map_on
  · intro i insideI j insideJ same
    rw [List.mem_range'_1] at insideI insideJ
    exact addressAt_inj (by omega) (by omega) same
  · exact List.nodup_range'

theorem mem_ring : a ∈ p.ring start p.size ↔ p.contains a = true := by
  rw [(p.ring_perm_zero start).mem_iff]
  constructor
  · intro member
    obtain ⟨i, _, rfl⟩ := List.mem_map.mp member
    exact p.contains_addressAt i
  · intro inside
    obtain ⟨i, below, rfl⟩ := exists_addressAt inside
    exact List.mem_map_of_mem (List.mem_range'_1.mpr ⟨Nat.zero_le i, by omega⟩)

/- The assignable ones among them. -/

/-- The assignable addresses in the order of the indices, from one index once around the subnet. -/
def lap (p : Pool) (start : Nat) : List Address := (p.ring start p.size).filter p.isValid

theorem nodup_lap (p : Pool) (start : Nat) : (p.lap start).Nodup := (p.nodup_ring start).filter _

theorem mem_lap : a ∈ p.lap start ↔ p.contains a = true ∧ p.isValid a = true := by
  rw [lap, List.mem_filter, mem_ring]

/-- A walk lists the assignable addresses among those in a row. -/
theorem walk_filter_ring (p : Pool) (start count : Nat) :
    p.walk ((p.ring start count).filter p.isValid).length (p.valid (p.addressAt start).number) =
      (p.ring start count).filter p.isValid := by
  induction count generalizing start with
  | zero => rfl
  | succ count ih =>
    rw [ring_succ, List.filter_cons]
    by_cases valid : p.isValid (p.addressAt start) = true
    · rw [if_pos valid, List.length_cons, walk, beq_iff_eq.mp valid, next_addressAt, ih]
    · rw [if_neg valid, ← valid_succ valid, ih]

theorem take_walk (small : m ≤ n) : (p.walk n a).take m = p.walk m a := by
  induction m generalizing n a with
  | zero => rfl
  | succ m ih =>
    obtain ⟨n, rfl⟩ := Nat.exists_eq_add_of_le' (Nat.le_trans (Nat.le_add_left 1 m) small)
    rw [walk, walk, List.take_succ_cons, ih (Nat.le_of_succ_le_succ small)]

theorem walk_two_laps (p : Pool) (start : Nat) :
    p.walk ((p.lap start).length + (p.lap start).length) (p.valid (p.addressAt start).number) =
      p.lap start ++ p.lap start := by
  have twice : (p.ring start (p.size + p.size)).filter p.isValid = p.lap start ++ p.lap start := by
    rw [ring_add, ring_around, List.filter_append]
    rfl
  have walked := p.walk_filter_ring start (p.size + p.size)
  rw [twice, List.length_append] at walked
  exact walked

/- How many they are. -/

theorem length_lap_eq_count (p : Pool) (start : Nat) :
    (p.lap start).length = Nat.count (fun i : Nat => p.isValid (p.addressAt i) = true) p.size := by
  have same := ((p.ring_perm_zero start).filter p.isValid).length_eq
  rw [lap, same, ring, ← List.countP_eq_length_filter, List.countP_map, Nat.count,
    List.range_eq_range']
  apply List.countP_congr
  intro i _
  exact decide_eq_true_iff.symm

theorem usable_iff_of_short (inside : i < p.size) (short : 256 % p.size = 0) :
    p.Usable i ↔ 0 < i ∧ i < p.size - 1 := by
  have octet := lastOctet_addressAt inside
  obtain ⟨blocks, whole⟩ := Nat.dvd_of_mod_eq_zero short
  -- the subnet lies in one block of 256 addresses, at a multiple of its size
  have place : p.subnet.base.number % 256 = p.size * (p.subnet.base.number / p.size % blocks) := by
    conv_lhs => rw [p.base_eq, whole, Nat.mul_mod_mul_left]
  have slot : p.subnet.base.number / p.size % blocks < blocks := by
    apply Nat.mod_lt
    rcases Nat.eq_zero_or_pos blocks with rfl | pos
    · omega
    · exact pos
  have below : p.size * (p.subnet.base.number / p.size % blocks) + p.size ≤ 256 := by
    rw [whole, ← Nat.mul_succ]
    exact Nat.mul_le_mul_left _ slot
  constructor
  · intro usable
    have := usable.notFirst
    have := usable.notLast
    omega
  · rintro ⟨notFirst, notLast⟩
    constructor <;> omega

theorem usable_iff_of_long (inside : i < p.size) (long : p.size % 256 = 0) :
    p.Usable i ↔ i % 256 ≠ 0 ∧ i % 256 ≠ 255 := by
  have octet := lastOctet_addressAt inside
  have aligned : p.subnet.base.number % 256 = 0 := by
    apply Nat.mod_eq_zero_of_dvd
    exact Nat.dvd_trans (Nat.dvd_of_mod_eq_zero long) (Nat.dvd_of_mod_eq_zero p.subnet.aligned)
  constructor
  · intro usable
    have := usable.notZero
    have := usable.notOnes
    omega
  · rintro ⟨notZero, notOnes⟩
    constructor <;> omega

theorem count_inner_octets (blocks : Nat) :
    Nat.count (fun i : Nat => i % 256 ≠ 0 ∧ i % 256 ≠ 255) (256 * blocks) = 254 * blocks := by
  induction blocks with
  | zero => rfl
  | succ blocks ih =>
    have block : Nat.count (fun i : Nat => (256 * blocks + i) % 256 ≠ 0 ∧
        (256 * blocks + i) % 256 ≠ 255) 256 = 254 := by
      simp only [Nat.mul_add_mod]
      decide +kernel
    rw [Nat.mul_succ, Nat.count_add, ih, block, Nat.mul_succ]

theorem length_lap_of_short (short : 256 % p.size = 0) : (p.lap start).length = p.size - 2 := by
  have inner : (Finset.range p.size).filter (fun i : Nat => p.isValid (p.addressAt i) = true) =
      Finset.Ioo 0 (p.size - 1) := by
    ext i
    rw [Finset.mem_filter, Finset.mem_range, Finset.mem_Ioo]
    constructor
    · rintro ⟨inside, valid⟩
      exact (usable_iff_of_short inside short).mp ((isValid_addressAt inside).mp valid)
    · intro between
      have inside : i < p.size := by omega
      have usable := (usable_iff_of_short inside short).mpr between
      exact ⟨inside, (isValid_addressAt inside).mpr usable⟩
  rw [length_lap_eq_count, Nat.count_eq_card_filter_range, inner, Nat.card_Ioo]
  omega

theorem length_lap_of_long (long : p.size % 256 = 0) :
    (p.lap start).length = p.size - 2 * (p.size / 256) := by
  obtain ⟨blocks, whole⟩ := Nat.dvd_of_mod_eq_zero long
  have inner : Nat.count (fun i : Nat => p.isValid (p.addressAt i) = true) p.size =
      Nat.count (fun i : Nat => i % 256 ≠ 0 ∧ i % 256 ≠ 255) p.size := by
    simp only [Nat.count_eq_card_filter_range]
    refine congrArg Finset.card (Finset.filter_congr ?_)
    intro i member
    have inside := Finset.mem_range.mp member
    rw [isValid_addressAt inside, usable_iff_of_long inside long]
  rw [length_lap_eq_count, inner, whole, count_inner_octets]
  omega

theorem length_lap (p : Pool) (start : Nat) : (p.lap start).length = p.assignableCount := by
  have size : p.size = 2 ^ (32 - p.subnet.length) := rfl
  unfold assignableCount
  split
  · rename_i small
    apply length_lap_of_short
    rw [size]
    exact Nat.mod_eq_zero_of_dvd (Nat.pow_dvd_pow 2 (by omega) : 2 ^ _ ∣ 2 ^ 8)
  · rename_i large
    apply length_lap_of_long
    rw [size]
    exact Nat.mod_eq_zero_of_dvd (Nat.pow_dvd_pow 2 (by omega) : 2 ^ 8 ∣ 2 ^ _)

theorem size_le_two_laps (p : Pool) : p.size ≤ p.assignableCount + p.assignableCount := by
  have := p.four_le_size
  unfold assignableCount
  split <;> omega

/- The walk of a client. -/

theorem candidates_eq_take (p : Pool) (h : Hardware) :
    p.candidates h = (p.lap (p.seed h) ++ p.lap (p.seed h)).take p.size := by
  have enough := p.size_le_two_laps
  rw [← p.length_lap (p.seed h)] at enough
  rw [← walk_two_laps, take_walk enough]
  rfl

/-- That a list of addresses goes around the subnet from an index on, over the assignable
addresses, and on over the same ones up to the size of the subnet. -/
structure GoesAround (p : Pool) (start : Nat) (tried : List Address) : Prop where
  length : tried.length = p.size
  within : ∀ a ∈ tried, p.contains a = true ∧ p.isValid a = true
  head : tried.head? = (p.ring start p.size).find? p.isValid
  ordered : tried.take p.assignableCount = (p.ring start p.size).filter p.isValid
  count : (tried.take p.assignableCount).length = p.assignableCount
  once : (tried.take p.assignableCount).Nodup
  all : ∀ a, p.contains a = true → p.isValid a = true → a ∈ tried.take p.assignableCount
  inner : ∀ a, p.contains a = true → (p.isValid a = true ↔
    a ≠ p.subnet.base ∧ a ≠ p.subnet.top ∧ a.lastOctet ≠ 0 ∧ a.lastOctet ≠ 255)
  again : ∀ i, i + p.assignableCount < p.size → tried[i + p.assignableCount]? = tried[i]?

theorem candidates_goesAround (p : Pool) (h : Hardware) :
    p.GoesAround (p.seed h) (p.candidates h) := by
  have walked := p.candidates_eq_take h
  have enough := p.size_le_two_laps
  have total := p.length_lap (p.seed h)
  have fits : p.assignableCount ≤ p.size := by
    unfold assignableCount
    split <;> omega
  have once : (p.candidates h).take p.assignableCount = p.lap (p.seed h) := by
    rw [walked, List.take_take, Nat.min_eq_left fits, ← total, List.take_left]
  constructor
  · rw [walked, List.length_take, List.length_append, total]
    exact Nat.min_eq_left enough
  · intro a tried
    have valid := mem_candidates_iff.mp tried
    exact ⟨contains_of_isValid valid, valid⟩
  · have pos : 0 < p.assignableCount := by
      have := p.size_pos
      omega
    rw [← List.head?_filter, ← lap, ← once, List.head?_take, if_neg (Nat.ne_of_gt pos)]
  · exact once
  · rw [once, total]
  · rw [once]
    exact p.nodup_lap _
  · intro a inside valid
    rw [once]
    exact mem_lap.mpr ⟨inside, valid⟩
  · intro a inside
    exact isValid_iff_inner inside
  · intro i further
    have before : i < (p.lap (p.seed h)).length := by omega
    rw [walked, List.getElem?_take_of_lt further, List.getElem?_take_of_lt (by omega),
      List.getElem?_append_right (by omega), List.getElem?_append_left before, total,
      Nat.add_sub_cancel]

end LeaseBook.Pool
