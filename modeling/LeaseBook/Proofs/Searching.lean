import LeaseBook.Ledger.Offer
import LeaseBook.Proofs.Assignable
import LeaseBook.Proofs.Roster

/-!
The search for a free address comes by every assignable address of the pool, whichever client it is
made for. From an index the rule goes on to the first one that it leaves alone, and from the end of
the subnet to the index 1, so that a walk of as many steps as there are addresses misses none.
-/

namespace LeaseBook

namespace Pool

variable {p : Pool} {i j k octet : Nat} {a : Address} {h : Hardware}

/-- Where the rule goes from an index: to the first one from there on that it leaves alone, or to
the index 1. -/
structure Lands (p : Pool) (i k : Nat) : Prop where
  usable : p.Usable k
  onward : i ≤ k ∨ k = 1
  first : ∀ j, p.Usable j → i ≤ j → i ≤ k ∧ k ≤ j

theorem skip_onward (octet : Nat) (inside : i < p.size) :
    i ≤ p.skip octet i ∨ p.skip octet i = 0 := by
  unfold skip
  split
  · by_cases around : i + 1 = p.size
    · exact .inr (by rw [around, Nat.mod_self])
    · rw [Nat.mod_eq_of_lt (by omega)]
      exact .inl (Nat.le_succ i)
  · exact .inl (Nat.le_refl i)

theorem skip_zero_le (p : Pool) (octet : Nat) : p.skip octet 0 ≤ 1 := by
  have large := p.four_le_size
  unfold skip
  split
  · exact Nat.le_of_eq (Nat.mod_eq_of_lt (by omega))
  · exact Nat.zero_le 1

theorem skip_between (passed : octet = 0 ∨ octet = 255) (usable : p.Usable j) (below : i ≤ j) :
    i ≤ p.skip octet i ∧ p.skip octet i ≤ j := by
  unfold skip
  split
  · rename_i hit
    have apart : i ≠ j := by
      rintro rfl
      rcases passed with rfl | rfl
      · exact usable.notZero hit
      · exact usable.notOnes hit
    have inside := usable.lt
    rw [Nat.mod_eq_of_lt (by omega)]
    omega
  · exact ⟨Nat.le_refl i, below⟩

theorem exists_lands (inside : i < p.size) :
    ∃ k, p.Lands i k ∧ p.valid (p.addressAt i).number = p.addressAt k := by
  have between : p.skip 255 i < p.size := skip_lt inside
  have first (j) (usable : p.Usable j) (below : i ≤ j) :
      i ≤ p.skip 0 (p.skip 255 i) ∧ p.skip 0 (p.skip 255 i) ≤ j := by
    obtain ⟨above, within⟩ := skip_between (.inr rfl) usable below
    obtain ⟨above', within'⟩ := skip_between (.inl rfl) usable within
    exact ⟨Nat.le_trans above above', within'⟩
  unfold valid
  dsimp only
  rw [indexOf_number_addressAt inside]
  split
  · rename_i ends
    refine ⟨1, ⟨p.usable_one, .inr rfl, fun j usable below => ?_⟩, rfl⟩
    have := first j usable below
    have := usable.lt
    have := usable.notFirst
    have := usable.notLast
    omega
  · rename_i inner
    obtain ⟨notFirst, notLast⟩ := not_or.mp inner
    refine ⟨_, ⟨usable_skips inside notFirst notLast, ?_, first⟩, rfl⟩
    rcases skip_onward 255 inside with onward | around
    · rcases skip_onward 0 between with further | again
      · exact .inl (Nat.le_trans onward further)
      · exact absurd again notFirst
    · rw [around] at notFirst ⊢
      have := p.skip_zero_le 0
      omega

/-- The address after a usable index is the next usable one, or the one at the index 1. -/
theorem exists_lands_next (usable : p.Usable i) :
    ∃ k, p.Lands (i + 1) k ∧ p.next (p.addressAt i).number = p.addressAt k := by
  have inside := usable.lt
  have notLast := usable.notLast
  unfold next
  rw [indexOf_number_addressAt inside]
  exact exists_lands (by omega)

/-- How many steps a walk takes at most from one index to another. -/
def distance (p : Pool) (i j : Nat) : Nat := if i ≤ j then j - i else p.size - i + (j - 1)

theorem distance_lt_size (usable : p.Usable i) (goal : p.Usable j) : p.distance i j < p.size := by
  have := usable.lt
  have := goal.lt
  have := goal.notFirst
  unfold distance
  split <;> omega

theorem distance_lt_of_lands (usable : p.Usable i) (goal : p.Usable j) (apart : i ≠ j)
    (lands : p.Lands (i + 1) k) : p.distance k j < p.distance i j := by
  have := usable.lt
  have := lands.usable.lt
  have := goal.notFirst
  unfold distance
  by_cases before : i < j
  · have := lands.first j goal before
    rw [if_pos this.2, if_pos (by omega)]
    omega
  · rcases lands.onward with further | again
    · rw [if_neg (by omega), if_neg (by omega)]
      omega
    · rw [if_pos (by omega), if_neg (by omega)]
      omega

theorem mem_walk_of_distance_lt {count : Nat} (usable : p.Usable i) (goal : p.Usable j)
    (enough : p.distance i j < count) : p.addressAt j ∈ p.walk count (p.addressAt i) := by
  induction count generalizing i with
  | zero => exact absurd enough (Nat.not_lt_zero _)
  | succ count ih =>
    by_cases here : i = j
    · subst here
      exact List.mem_cons_self
    · obtain ⟨k, lands, next⟩ := exists_lands_next usable
      have closer := distance_lt_of_lands usable goal here lands
      refine List.mem_cons_of_mem _ ?_
      rw [next]
      exact ih lands.usable (by omega)

theorem isValid_iff : p.isValid a = true ↔ ∃ i, p.Usable i ∧ a = p.addressAt i := by
  constructor
  · intro valid
    obtain ⟨i, usable, same⟩ := p.exists_usable_valid a.number
    exact ⟨i, usable, (beq_iff_eq.mp valid).symm.trans same⟩
  · rintro ⟨i, usable, rfl⟩
    exact beq_iff_eq.mpr (valid_of_usable usable)

/-- The addresses tried for a client are the assignable ones, all of them. -/
theorem mem_candidates_iff : a ∈ p.candidates h ↔ p.isValid a = true := by
  constructor
  · intro tried
    obtain ⟨n, rfl⟩ := eq_valid_of_mem_candidates tried
    exact p.isValid_valid n
  · intro valid
    obtain ⟨j, goal, rfl⟩ := isValid_iff.mp valid
    obtain ⟨i, usable, start⟩ := p.exists_usable_valid (p.addressAt (p.seed h)).number
    unfold candidates firstCandidate
    rw [start]
    exact mem_walk_of_distance_lt usable goal (distance_lt_size usable goal)

end Pool

namespace Ledger

variable {l : Ledger} {a : Address} {h : Hardware}

/-- Whether a client may be offered an address that nobody has. -/
def Vacant (a : Address) (l : Ledger) : Prop := l.pool.isValid a = true ∧ l.isAvailable a = true

/-- The search for a client finds nothing only where all vacant addresses are declined. -/
theorem freeAddress?_eq_none_iff :
    l.freeAddress? h = none ↔ ∀ a, l.Vacant a → a ∈ l.declined.addresses := by
  unfold freeAddress?
  rw [Pool.findCandidate_eq_find?, List.find?_eq_none]
  constructor
  · intro nothing a vacant
    have missed := nothing a (Pool.mem_candidates_iff.mpr vacant.1)
    rw [vacant.2, Bool.true_and, Bool.not_eq_true', Bool.not_eq_false] at missed
    exact Roster.contains_iff.mp missed
  · intro declined a tried
    rw [Bool.and_eq_true, Bool.not_eq_true']
    rintro ⟨available, undeclined⟩
    have vacant : l.Vacant a := ⟨Pool.mem_candidates_iff.mp tried, available⟩
    exact Roster.contains_eq_false_iff.mp undeclined (declined a vacant)

theorem freeAddress?_eq_some (found : l.freeAddress? h = some a) :
    l.Vacant a ∧ a ∉ l.declined.addresses := by
  unfold freeAddress? at found
  rw [Pool.findCandidate_eq_find?] at found
  have good := List.find?_some found
  rw [Bool.and_eq_true, Bool.not_eq_true'] at good
  have valid := Pool.mem_candidates_iff.mp (List.mem_of_find?_eq_some found)
  exact ⟨⟨valid, good.1⟩, Roster.contains_eq_false_iff.mp good.2⟩

end Ledger
end LeaseBook
