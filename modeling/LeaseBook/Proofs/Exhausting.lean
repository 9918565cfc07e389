import LeaseBook.Proofs.Lending
import LeaseBook.Proofs.Repeating
import LeaseBook.Proofs.Walking

/-!
When an offer is refused for want of an address. The walk comes by every assignable address and the
recycling by every declined one, so nothing is left to offer only where each assignable address is
reserved or has a lease that has not ended. What is declined does not count. As long as the pool
stays the same, that can be read off the number of leases.
-/

namespace LeaseBook

theorem Answer.worded_eq_refused {r : Except Refusal Lease} {refusal : Refusal} :
    worded r = .ok (.refused refusal) ↔ r = .error refusal := by
  cases r with
  | error other => simp [worded]
  | ok lease =>
    refine iff_of_false (fun same => ?_) nofun
    rcases worded_lease lease with said | short
    · rw [said] at same
      cases same
    · rw [short] at same
      cases same

/-- The pool of 192.168.1.4/30, which has two assignable addresses. -/
def Pool.pair (reserved : List Address) (leaseTime : Nat) : Pool :=
  ⟨⟨⟨0xC0A80104, by decide⟩, 30, by decide, by decide⟩, reserved, leaseTime, by decide⟩

namespace Ledger

variable {l m : Ledger} {now : Int} {a : Address} {c : Client} {q : Discovery} {t : Turn}

/-- Whether each assignable address is reserved or has a lease that has not ended. -/
def Full (now : Int) (l : Ledger) : Prop :=
  ∀ a, l.pool.contains a = true → l.pool.isValid a = true →
    l.pool.isReserved a = true ∨ ∃ e ∈ l.committed.entries, e.1 = a ∧ now < e.2.expiration

instance (now : Int) (l : Ledger) : Decidable (l.Full now) :=
  decidable_of_iff (∀ a ∈ l.pool.lap 0,
      l.pool.isReserved a = true ∨ ∃ e ∈ l.committed.entries, e.1 = a ∧ now < e.2.expiration) <| by
    unfold Full
    simp only [Pool.mem_lap, and_imp]

/-- How many leases have not ended. -/
def standing (now : Int) (l : Ledger) : Nat :=
  l.committed.entries.countP fun e => now < e.2.expiration

/-- A ledger is full when there is a lease that has not ended on each address that the pool has to
give. -/
theorem full_iff_assigns : l.Full now ↔
    ∀ a, l.pool.Assigns a → ∃ e ∈ l.committed.entries, e.1 = a ∧ now < e.2.expiration := by
  constructor
  · rintro full a ⟨inside, valid, unreserved⟩
    exact (full a inside valid).resolve_left (Bool.eq_false_iff.mp unreserved)
  · intro taken a inside valid
    by_cases reserved : l.pool.isReserved a = true
    · exact .inl reserved
    · exact .inr (taken a ⟨inside, valid, Bool.eq_false_iff.mpr reserved⟩)

/- One offer. -/

theorem offerNew_exhausted_iff {expiration : Int} :
    (l.offerNew expiration q).answer = .error .exhausted ↔ ∀ a, ¬ l.Vacant a := by
  unfold offerNew
  split
  · rename_i a found
    refine iff_of_false nofun fun nothing => ?_
    exact nothing a (freeAddress?_eq_some found).1
  · rename_i nothing
    have declined := freeAddress?_eq_none_iff.mp nothing
    split
    · rename_i a rest found
      refine iff_of_false nofun fun nothing => ?_
      exact nothing a (vacant_iff.mpr (Roster.cut?_sublist found).1)
    · rename_i missed
      refine iff_of_true rfl fun a vacant => ?_
      have miss := Roster.cut?_eq_none missed a (declined a vacant)
      exact Bool.eq_false_iff.mp miss (vacant_iff.mp vacant)

/-- A client without a lease that speaks from the subnet finds nothing only where nothing is
vacant, whichever address it wishes for. -/
theorem offerSwept_exhausted_iff (without : l.leaseOf q.client = none)
    (source : l.isOutside q.source = false) (relay : l.isOutside q.relay = false) :
    (l.offerSwept now q).answer = .error .exhausted ↔ ∀ a, ¬ l.Vacant a := by
  unfold offerSwept
  dsimp only
  rw [without]
  dsimp only
  split
  · rename_i a wished
    obtain ⟨_, good⟩ := Option.filter_eq_some_iff.mp wished
    simp only [isOfferable, Bool.and_eq_true] at good
    refine iff_of_false (fun refused => ?_) fun nothing => ?_
    · cases refused
    · exact nothing a ⟨good.1.2, good.2⟩
  · rw [source, relay]
    exact offerNew_exhausted_iff

/- The swept ledger. -/

theorem Cleared.leaseOf_eq_none (cleared : Cleared now l m)
    (ended : ∀ e ∈ l.committed.entries, e.2.client.identity = c.identity → e.2.expiration ≤ now) :
    m.leaseOf c = none := by
  unfold leaseOf
  rw [List.find?_eq_none]
  intro lease there its
  obtain ⟨a, entry⟩ := Roster.mem_records.mp there
  have live := cleared.lives _ entry
  rw [cleared.committed] at entry
  exact live (ended _ (Roster.mem_filter.mp entry).1 ((lease.isOf_iff_identity c).mp its))

theorem Cleared.mem_addresses (cleared : Cleared now l m) :
    a ∈ m.committed.addresses ↔ ∃ e ∈ l.committed.entries, e.1 = a ∧ now < e.2.expiration := by
  rw [cleared.committed]
  constructor
  · intro there
    obtain ⟨lease, entry⟩ := Roster.mem_addresses.mp there
    obtain ⟨old, live⟩ := Roster.mem_filter.mp entry
    exact ⟨_, old, rfl, keepsLease_iff.mp live⟩
  · rintro ⟨e, old, rfl, live⟩
    exact Roster.address_mem (Roster.mem_filter.mpr ⟨old, keepsLease_iff.mpr live⟩)

theorem Cleared.vacant_iff (cleared : Cleared now l m) : m.Vacant a ↔
    l.pool.Assigns a ∧ ¬ ∃ e ∈ l.committed.entries, e.1 = a ∧ now < e.2.expiration := by
  rw [Vacant, isAvailable, cleared.pool, ← cleared.mem_addresses, Bool.and_eq_true,
    Bool.not_eq_true', Bool.not_eq_true', Roster.contains_eq_false_iff]
  constructor
  · rintro ⟨valid, unreserved, free⟩
    exact ⟨⟨Pool.contains_of_isValid valid, valid, unreserved⟩, free⟩
  · rintro ⟨⟨_, valid, unreserved⟩, free⟩
    exact ⟨valid, unreserved, free⟩

theorem Cleared.nothing_vacant_iff (cleared : Cleared now l m) :
    (∀ a, ¬ m.Vacant a) ↔ l.Full now := by
  rw [full_iff_assigns]
  apply forall_congr'
  intro a
  rw [cleared.vacant_iff, not_and_not_right]

theorem exhausted_turn_iff (right : l.Bounded) (read : t.call.operation = .ok (.offer q))
    (ended : ∀ e ∈ l.committed.entries, e.2.client.identity = q.client.identity →
      e.2.expiration ≤ t.now)
    (source : l.isOutside q.source = false) (relay : l.isOutside q.relay = false) :
    (t.run l).answer = .ok (.refused .exhausted) ↔ l.Clears t.now ∧ l.Full t.now := by
  have cleared := sweep_cleared right t.now
  have outside : (l.sweep t.now).ledger.isOutside = l.isOutside := by
    funext a
    simp only [isOutside, cleared.pool]
  by_cases clears : l.Clears t.now
  · rw [(offer_turn right clears read).1, Answer.worded_eq_refused,
      offerSwept_exhausted_iff (cleared.leaseOf_eq_none ended) (outside ▸ source)
        (outside ▸ relay), cleared.nothing_vacant_iff]
    exact (and_iff_right clears).symm
  · rw [offer_turn_of_not_clears right clears read]
    refine iff_of_false (fun refused => ?_) fun both => clears both.1
    cases refused

/- The number of leases. -/

theorem Cleared.length_eq_standing (cleared : Cleared now l m) :
    m.committed.entries.length = l.standing now := by
  rw [cleared.committed, Roster.filter, standing, List.countP_eq_length_filter]
  congr 1
  apply List.filter_congr
  intro e _
  exact Bool.eq_iff_iff.mpr (keepsLease_iff.trans decide_eq_true_iff.symm)

/-- Where all leases stand on addresses that the pool has to give, it is full when there are as many
of them as of these addresses. -/
theorem full_iff_standing (orderly : l.Orderly) (right : l.Bounded) (assigned : l.Assigned) :
    l.Full now ↔ l.standing now = Set.ncard {a | l.pool.Assigns a} := by
  have cleared := sweep_cleared right now
  have swept : (l.sweep now).ledger.Orderly := orderly_sweep orderly now
  have inside : {a | a ∈ (l.sweep now).ledger.committed.addresses} ⊆ {a | l.pool.Assigns a} := by
    intro a there
    obtain ⟨e, entry, rfl, _⟩ := cleared.mem_addresses.mp there
    exact assigned e entry
  rw [← cleared.length_eq_standing, Roster.length_eq_ncard swept.distinct, full_iff_assigns]
  constructor
  · intro taken
    congr 1
    apply Set.Subset.antisymm inside
    intro a assigns
    exact cleared.mem_addresses.mpr (taken a assigns)
  · intro many a assigns
    have all := Set.eq_of_subset_of_ncard_le inside (Nat.le_of_eq many.symm)
    have there : a ∈ {a | l.pool.Assigns a} := assigns
    rw [← all] at there
    exact cleared.mem_addresses.mp there

/-- A full ledger has no lease that has ended, for it would take a place of its own. -/
theorem Full.clears (full : l.Full now) (orderly : l.Orderly) (assigned : l.Assigned) :
    l.Clears now := by
  apply clears_of_lives
  intro e entry ended
  obtain ⟨other, there, here, live⟩ := full_iff_assigns.mp full e.1 (assigned e entry)
  cases Roster.entry_unique orderly.distinct there entry here
  exact Int.not_lt.mpr ended live

/-- A client without a lease that has not ended, which speaks from the subnet, is refused an offer
for want of an address if and only if each assignable address is reserved or has a lease that has
not ended, provided that the leases which have ended can be put into words. If no other pool was
asked for, that always is so, and it is the case if and only if as many leases have not ended as
there are assignable addresses that are not reserved. -/
theorem exhausted_iff_full (pool : Pool) (turns : List Turn) {t : Turn} {q : Discovery}
    (read : t.call.operation = .ok (.offer q))
    (ended : ∀ e ∈ ((opening pool).ledger.after turns).committed.entries,
      e.2.client.identity = q.client.identity → e.2.expiration ≤ t.now)
    (source : ((opening pool).ledger.after turns).isOutside q.source = false)
    (relay : ((opening pool).ledger.after turns).isOutside q.relay = false) :
    let l := (opening pool).ledger.after turns
    let exhausted := (t.run l).answer = .ok (.refused .exhausted)
    (exhausted ↔ l.Clears t.now ∧ l.Full t.now) ∧
    (¬ l.Clears t.now → (t.run l).answer = .error .longNumber) ∧
    ((∀ u ∈ turns, u.pool? = none) →
      (exhausted ↔ l.Full t.now) ∧
      (exhausted ↔ l.standing t.now = Set.ncard {a | pool.Assigns a})) := by
  intro l exhausted
  have fresh : (opening pool).ledger.Orderly := orderly_fresh pool
  have orderly : l.Orderly := orderly_after fresh turns
  have right : l.Bounded := bounded_after fresh (bounded_fresh pool) turns
  have refused : exhausted ↔ l.Clears t.now ∧ l.Full t.now :=
    exhausted_turn_iff right read ended source relay
  refine ⟨refused, fun clears => offer_turn_of_not_clears right clears read, fun keeps => ?_⟩
  have assigned : l.Assigned := assigned_after fresh nofun keeps
  have stays : l.pool = pool := pool_after fresh keeps
  have full : exhausted ↔ l.Full t.now :=
    refused.trans (and_iff_right_of_imp fun full => full.clears orderly assigned)
  refine ⟨full, full.trans ?_⟩
  rw [← stays]
  exact full_iff_standing orderly right assigned

/-- One address of two is reserved and the other one has a lease. -/
theorem pair_exhausted :
    let pool := Pool.pair [.home 6] 1000
    let l := (opening pool).ledger.after [.select 0 (.plain 1) (.home 5)]
    ((Turn.discover 10 (.plain 2) (.home 5)).run l).answer = .ok (.refused .exhausted) ∧
      l.Full 10 ∧ l.standing 10 = Set.ncard {a | pool.Assigns a} := by
  intro pool l
  let t := Turn.discover 10 (.plain 2) (.home 5)
  have read : t.call.operation =
    .ok (.offer ⟨.plain 2, none, none, some (.home 5), .null⟩) := rfl
  have refused : (t.run l).answer = .ok (.refused .exhausted) :=
    Turn.answer_of_said? Answer.eq_of_refusal? (by decide +kernel)
  obtain ⟨_, _, counted⟩ := exhausted_iff_full pool [.select 0 (.plain 1) (.home 5)] read
    (by decide +kernel) rfl rfl
  obtain ⟨full, count⟩ := counted (List.forall_mem_singleton.mpr rfl)
  exact ⟨refused, full.mp refused, count.mp refused⟩

/-- Both addresses are reserved, but the offer fails when it strikes out a lease whose end is too
long for words, on an address that is no longer assignable. -/
theorem full_offer_fails :
    let served := Turn.mk 2 (.reconfigure (.network (.v4 ⟨.home 4, 30, by decide⟩))
      (.list [.address (.v4 (.home 5)), .address (.v4 (.home 6))]) (.int 1000))
    let l := (opening (.home (10 ^ 4300 - 1))).ledger.after
      [.select 1 (.plain 1) (.home 4), served]
    let t := Turn.discover (10 ^ 4300) (.plain 2) (.home 5)
    l.Full t.now ∧
      (∀ e ∈ l.committed.entries, e.2.client.identity = (Client.plain 2).identity →
        e.2.expiration ≤ t.now) ∧
      (t.run l).answer = .error .longNumber := by
  intro served l t
  have right : l.Bounded := bounded_after (orderly_fresh _) (bounded_fresh _) _
  have long : ¬ l.Clears t.now := by decide +kernel
  have read : t.call.operation =
    .ok (.offer ⟨.plain 2, none, none, some (.home 5), .null⟩) := rfl
  exact ⟨by decide +kernel, by decide +kernel, offer_turn_of_not_clears right long read⟩

end Ledger
end LeaseBook
