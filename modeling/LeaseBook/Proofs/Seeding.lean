import LeaseBook.Proofs.Indexing
import LeaseBook.Proofs.Recognizing
import Mathlib.Algebra.BigOperators.Group.List.Basic

/-!
The start of the search for a client. Octets are summed in two's complement, each spread over three
bytes, and of the sum first 32 bits are kept and then as many as a subnet has host bits. All sizes
are powers of two, so the cuts agree with one another: nothing matters of the octets but their sum,
and in a subnet of at most 256 addresses not even their signs.
-/

namespace LeaseBook

theorem Mask.land_ones (w : Nat) (n : Int) : n.land (2 ^ w - 1 : Nat) = n % 2 ^ w := by
  have all : n.land (Int.lnot (2 ^ w - 2 ^ w : Nat)) = n := by
    rw [Nat.sub_self]
    cases n with
    | ofNat m => exact congrArg Int.ofNat (Nat.bitwise_zero_right m)
    | negSucc m => exact congrArg Int.negSucc (Nat.or_zero m)
  have low := Mask.land_lnot_ones (Nat.le_refl w) n
  rwa [all, Nat.cast_pow] at low

namespace Hardware

/-- The octets in two's complement. -/
def signedOctets (h : Hardware) : List Int := h.bytes.map fun b => b.toInt8.toInt

/-- A number, added to itself moved up by one byte and by two. -/
def spread (i : Int) : Int := i + i <<< (8 : Nat) + i <<< (16 : Nat)

/-- What a search starts from before it is cut to an index: the lowest 32 bits of a sum. -/
def hash (h : Hardware) : Int := (h.signedOctets.map spread).sum.land (2 ^ 32 - 1 : Nat)

theorem toInt_toInt8 (b : UInt8) : b.toInt8.toInt = (b.toNat : Int).bmod 256 :=
  BitVec.toInt_eq_toNat_bmod b.toBitVec

theorem signedOctet_toNat (b : UInt8) : Pool.signedOctet b.toNat = b.toInt8.toInt := by
  have := b.toNat_lt
  rw [toInt_toInt8, Int.bmod]
  unfold Pool.signedOctet
  omega

theorem map_signedOctet (h : Hardware) : h.octets.map Pool.signedOctet = h.signedOctets := by
  rw [← h.map_toNat_bytes, List.map_map]
  exact List.map_congr_left fun b _ => signedOctet_toNat b

theorem spread_eq (i : Int) : spread i = 65793 * i := by
  simp only [spread, Int.shiftLeft_eq]
  omega

theorem hash_eq (h : Hardware) : h.hash = 65793 * h.signedOctets.sum % 2 ^ 32 := by
  rw [hash, Mask.land_ones, funext spread_eq, List.sum_map_mul_left, List.map_id']

/-- A byte and its signed form differ by a multiple of 256. -/
theorem sum_signedOctets_mod (h : Hardware) :
    h.signedOctets.sum % 256 = ((h.bytes.map UInt8.toNat).sum : Nat) % 256 := by
  unfold signedOctets
  induction h.bytes with
  | nil => rfl
  | cons b rest ih =>
    have first : b.toInt8.toInt % 256 = b.toNat % 256 := by
      rw [toInt_toInt8]
      exact Int.bmod_emod
    simp only [List.map_cons, List.sum_cons, Nat.cast_add]
    omega

end Hardware

namespace Pool

variable {p q : Pool} {g h : Hardware} {k : Nat}

theorem size_dvd (fits : p.size ≤ 2 ^ k) : p.size ∣ 2 ^ k :=
  Nat.pow_dvd_pow 2 ((Nat.pow_le_pow_iff_right (by decide)).mp fits)

theorem size_le (p : Pool) : p.size ≤ 2 ^ 32 := by
  have := p.subnet.base_add_le
  unfold size
  omega

theorem seed_lt (p : Pool) (h : Hardware) : p.seed h < p.size := Nat.mod_lt _ p.size_pos

theorem seed_eq_hash (p : Pool) (h : Hardware) : (p.seed h : Int) = h.hash % p.size := by
  have total : h.octets.foldl (fun acc n => acc + (signedOctet n + signedOctet n * 2 ^ 8 +
      signedOctet n * 2 ^ 16)) 0 = (h.signedOctets.map Hardware.spread).sum := by
    rw [← h.map_signedOctet, List.map_map, List.sum_eq_foldl, List.foldl_map]
    simp only [Function.comp_apply, Hardware.spread, Int.shiftLeft_eq]
  have kept : (h.signedOctets.map Hardware.spread).sum % 2 ^ 32 = h.hash :=
    (Mask.land_ones 32 _).symm
  have low : 0 ≤ h.hash := by
    rw [h.hash_eq]
    exact Int.emod_nonneg _ (by decide)
  unfold seed
  dsimp only
  rw [total, kept, Int.natCast_emod, Int.toNat_of_nonneg low]

theorem seed_eq (p : Pool) (h : Hardware) :
    (p.seed h : Int) = 65793 * h.signedOctets.sum % p.size := by
  have whole : (p.size : Int) ∣ 2 ^ 32 := Int.natCast_dvd_natCast.mpr (size_dvd p.size_le)
  rw [p.seed_eq_hash, h.hash_eq, Int.emod_emod_of_dvd _ whole]

theorem seed_of_perm (p : Pool) (shuffled : g.bytes.Perm h.bytes) : p.seed g = p.seed h := by
  have sums : g.signedOctets.sum = h.signedOctets.sum := (shuffled.map _).sum_eq
  rw [← Int.natCast_inj, p.seed_eq, p.seed_eq, sums]

theorem seed_of_smaller (h : Hardware) (smaller : p.size ≤ q.size) :
    p.seed h = q.seed h % p.size := by
  have parts : (p.size : Int) ∣ q.size := Int.natCast_dvd_natCast.mpr (size_dvd smaller)
  rw [← Int.natCast_inj, Int.natCast_emod, p.seed_eq, q.seed_eq, Int.emod_emod_of_dvd _ parts]

theorem seed_of_octets (h : Hardware) (small : p.size ≤ 256) :
    p.seed h = (h.bytes.map UInt8.toNat).sum % p.size := by
  have parts : (p.size : Int) ∣ 256 := Int.natCast_dvd_natCast.mpr (size_dvd (k := 8) small)
  have signs := h.sum_signedOctets_mod
  have unsigned : 65793 * h.signedOctets.sum % 256 = ((h.bytes.map UInt8.toNat).sum : Nat) % 256 := by
    omega
  rw [← Int.natCast_inj, Int.natCast_emod, p.seed_eq, ← Int.emod_emod_of_dvd _ parts, unsigned,
    Int.emod_emod_of_dvd _ parts]

/-- A seed is 65793 times the sum of the signed octets, counted around the subnet; this is what is
left of the sum of the spread octets when all but 32 bits are cut off. So it is the same for every
order of the octets, in a smaller subnet it is what is left of it in a larger one, and in a subnet of
at most 256 addresses it is the sum of the octets themselves. -/
theorem seed_sums_octets :
    (∀ (p : Pool) (h : Hardware), (p.seed h : Int) = 65793 * h.signedOctets.sum % p.size ∧
      p.seed h < p.size ∧ (p.seed h : Int) = h.hash % p.size) ∧
    (∀ (p : Pool) (g h : Hardware), g.bytes.Perm h.bytes → p.seed g = p.seed h) ∧
    (∀ (p q : Pool) (h : Hardware), p.size ≤ q.size → p.seed h = q.seed h % p.size) ∧
    ∀ (p : Pool) (h : Hardware), p.size ≤ 256 →
      p.seed h = (h.bytes.map UInt8.toNat).sum % p.size := by
  refine ⟨fun p h => ⟨p.seed_eq h, p.seed_lt h, p.seed_eq_hash h⟩, ?_, ?_, ?_⟩
  · intro p g h shuffled
    exact p.seed_of_perm shuffled
  · intro p q h smaller
    exact seed_of_smaller h smaller
  · intro p h small
    exact seed_of_octets h small

/-- Negative octets in both orders, in a subnet of 65536 addresses and in one of 256. -/
theorem seed_of_negative_octets :
    let h : Hardware := ⟨0xAABBCCDDEEFF, by decide⟩
    let g : Hardware := ⟨0xFFEEDDCCBBAA, by decide⟩
    let p : Pool := ⟨⟨⟨0xC0A80100, by decide⟩, 24, by decide, by decide⟩, [], 1000, by decide⟩
    let q : Pool := ⟨⟨⟨0x0A000000, by decide⟩, 16, by decide, by decide⟩, [], 1000, by decide⟩
    h.signedOctets = [-86, -69, -52, -35, -18, -1] ∧ q.seed h = 63995 ∧ q.seed g = q.seed h ∧
      p.seed h = q.seed h % p.size ∧ p.seed h = (h.bytes.map UInt8.toNat).sum % p.size := by
  intro h g p q
  obtain ⟨sums, order, smaller, octets⟩ := seed_sums_octets
  have whole : (q.seed h : Int) = 63995 := (sums q h).1.trans (by decide)
  exact ⟨by decide, Int.natCast_inj.mp whole, order q g h (by decide),
    smaller p q h (by decide), octets p h (by decide)⟩

end Pool
end LeaseBook
