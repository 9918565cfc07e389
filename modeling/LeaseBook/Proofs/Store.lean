import LeaseBook.Proofs.Run

/-!
What holds of the leases and declines of every reachable ledger. A new pool drops the leases that
it does not serve one after the other, and a lease that cannot be put into words ends that halfway;
as long as no such lease is dropped, the pool covers everything in the ledger.
-/

namespace LeaseBook.Ledger

variable {l : Ledger}

/-- Whether the last pool that a run asks for is taken on as a whole. -/
def TakesOn (l : Ledger) (turns : List Turn) : Prop :=
  ∀ before t rest pool, turns = before ++ t :: rest → t.pool? = some pool →
    (∀ u ∈ rest, u.pool? = none) → (l.after before).Drops pool

theorem served_of_takesOn (orderly : l.Orderly) (served : l.Served) {turns : List Turn}
    (takesOn : l.TakesOn turns) : (l.after turns).Served := by
  rcases Turn.last_pool? turns with never | ⟨before, t, rest, pool, rfl, asks, never⟩
  · exact served_after orderly served never
  · have drops := takesOn before t rest pool rfl asks never
    have orderly := orderly_after orderly before
    have served := served_turn_of_drops orderly asks drops
    rw [after_append]
    exact served_after (l := (t.run (l.after before)).ledger) (orderly_turn orderly t) served never

theorem Orderly.pairwise (orderly : l.Orderly) :
    l.committed.records.Pairwise fun x y => x.client.identity ≠ y.client.identity := by
  have apart := List.pairwise_map.mp orderly.distinct
  refine List.pairwise_map.mpr (apart.imp_of_mem fun he hf distinct same => ?_)
  exact distinct (orderly.single _ he _ hf same)

/-- Leases are filed under their own addresses, each once; no two are of one client, so that the
one that is found for a client is all it has; and a pool that was taken on as a whole has all
leases on addresses of its subnet that are not reserved, and all declines inside the subnet. -/
theorem reachable_ledger_invariant (pool : Pool) (turns : List Turn) :
    let l := (opening pool).ledger.after turns
    (l.committed.addresses.Nodup ∧ ∀ e ∈ l.committed.entries, e.2.address = e.1) ∧
    l.committed.records.Pairwise (fun x y => x.client.identity ≠ y.client.identity) ∧
    (∀ c lease, l.leaseOf c = some lease ↔
      lease ∈ l.committed.records ∧ lease.client.identity = c.identity) ∧
    ((opening pool).ledger.TakesOn turns →
      (∀ a ∈ l.committed.addresses, l.pool.contains a = true ∧ l.pool.isReserved a = false) ∧
      ∀ a ∈ l.declined.addresses, l.pool.contains a = true) := by
  intro l
  have orderly : l.Orderly := orderly_after (orderly_fresh pool) turns
  refine ⟨⟨orderly.distinct, orderly.keyed⟩, orderly.pairwise, fun c lease => orderly.leaseOf_iff,
    fun takesOn => ?_⟩
  have served : l.Served := served_of_takesOn (orderly_fresh pool) (served_fresh pool) takesOn
  refine ⟨fun a ha => ?_, served.declined⟩
  have inside := served.committed a ha
  simpa only [isStranded, Bool.or_eq_false_iff, Bool.not_eq_false'] using inside

/-- A pool that is taken on halfway leaves leases outside of it. -/
theorem halfway_pool_strands :
    let l := (opening (.home (10 ^ 4300 - 1))).ledger.after
      [.select 1 (.plain 1) (.home 10), .select 1 (.plain 2) (.home 20),
        .serve 1 ⟨⟨0x0A000000, by decide⟩, 24, by decide⟩ 1000]
    .home 20 ∈ l.committed.addresses ∧ l.pool.contains (.home 20) = false := by
  decide +kernel

end LeaseBook.Ledger
