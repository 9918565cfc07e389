import LeaseBook.Proofs.Clearing

/-!
A declined address is listed as declined from then on. A decline looks for an earlier one of the
same address without sweeping first, so that one which has run out and is still there makes it go
by unheard.
-/

namespace LeaseBook

def Turn.decline (now : Int) (a : Address) : Turn := ⟨now, .decline (.address (.v4 a))⟩

def Answer.addresses? : Answer → Option (List Address)
  | .addresses as => some as
  | _ => none

theorem Answer.eq_of_addresses? (r : Answer) (as : List Address) (h : r.addresses? = some as) :
    r = .addresses as := by
  cases r <;> cases h
  rfl

namespace Ledger

variable {l : Ledger} {now : Int} {a : Address}

/-- Whether a decline of an address has run out and is still in the ledger. -/
def Lapsed (now : Int) (a : Address) (l : Ledger) : Prop :=
  ∃ expiration, (a, expiration) ∈ l.declined.entries ∧ expiration ≤ now

instance (now : Int) (a : Address) (l : Ledger) : Decidable (l.Lapsed now a) :=
  decidable_of_iff (∃ e ∈ l.declined.entries, e.1 = a ∧ e.2 ≤ now)
    ⟨fun ⟨e, there, here, past⟩ => ⟨e.2, here ▸ there, past⟩,
      fun ⟨expiration, there, past⟩ => ⟨(a, expiration), there, rfl, past⟩⟩

theorem listed_iff (right : l.Bounded) (now : Int) (a : Address) :
    (∃ as, (Turn.run ⟨now, .declined⟩ l).answer = .ok (.addresses as) ∧ a ∈ as) ↔
      l.Clears now ∧ ∃ expiration, (a, expiration) ∈ l.declined.entries ∧ now < expiration := by
  have read : (Turn.mk now .declined).call.operation = .ok .declined := rfl
  have notes : (Operation.declined.run now l).notes = (l.sweep now).notes := List.append_nil _
  rw [run_of_read read, Outcome.written_answer, notes, ← sweep_writable_iff right,
    ← (sweep_cleared right now).declined_iff]
  constructor
  · rintro ⟨as, answered, listed⟩
    split at answered
    · rename_i all
      cases answered
      exact ⟨all, Address.mem_sorted.mp listed⟩
    · cases answered
  · rintro ⟨all, there⟩
    rw [if_pos all]
    exact ⟨_, rfl, Address.mem_sorted.mpr there⟩

/-- An address of the subnet is withheld after a decline, unless an earlier one has lapsed. -/
theorem withheld_iff (orderly : l.Orderly) (inside : l.pool.contains a = true)
    (lasts : 1 ≤ l.pool.leaseTime) :
    (∃ expiration, (a, expiration) ∈ (l.decline now a).ledger.declined.entries ∧
      now < expiration) ↔ ¬ l.Lapsed now a := by
  unfold decline Lapsed
  cases known : l.declined.contains a with
  | true =>
    obtain ⟨first, entry⟩ := Roster.mem_addresses.mp (Roster.contains_iff.mp known)
    simp only [Bool.true_or, if_true, Outcome.plain_ledger]
    constructor
    · rintro ⟨expiration, there, stands⟩ ⟨other, here, past⟩
      have same := Roster.record_unique orderly.declinedDistinct there here
      omega
    · intro fresh
      have stands : ¬ first ≤ now := fun past => fresh ⟨first, entry, past⟩
      exact ⟨first, entry, Int.not_le.mp stands⟩
  | false =>
    have unknown := Roster.contains_eq_false_iff.mp known
    simp only [inside, Bool.not_true, Bool.or_false, Bool.false_eq_true, if_false,
      Outcome.plain_ledger]
    constructor
    · rintro _ ⟨expiration, entry, _⟩
      exact unknown (Roster.address_mem entry)
    · intro _
      have entered := (Roster.mem_put (x := now + l.pool.leaseTime)
        orderly.declinedDistinct).mpr (.inl (Eq.refl (a, now + (l.pool.leaseTime : Int))))
      exact ⟨_, entered, by omega⟩

/-- An address of the subnet that is declined is listed as declined at the same instant, unless an
earlier decline of it has lapsed, or the sweep before the listing strikes out a lease that cannot
be put into words. -/
theorem declined_address_listed (pool : Pool) (turns : List Turn) (now : Int) {call : Call}
    {a : Address} (read : call.operation = .ok (.decline a))
    (lasts : 1 ≤ ((opening pool).ledger.after turns).pool.leaseTime)
    (inside : ((opening pool).ledger.after turns).pool.contains a = true) :
    let l := (opening pool).ledger.after turns
    (∃ as, (Turn.run ⟨now, .declined⟩ (Turn.run ⟨now, call⟩ l).ledger).answer =
        .ok (.addresses as) ∧ a ∈ as) ↔
      ¬ l.Lapsed now a ∧ l.Clears now := by
  intro l
  have orderly : l.Orderly := orderly_after (orderly_fresh pool) turns
  have right : l.Bounded := bounded_after (orderly_fresh pool) (bounded_fresh pool) turns
  have left : (Turn.run ⟨now, call⟩ l).ledger = (l.decline now a).ledger := by
    have read' : (Turn.mk now call).call.operation = .ok (.decline a) := read
    rw [run_of_read read', decline_written]
  have leases : (l.decline now a).ledger.Clears now ↔ l.Clears now := by
    unfold Clears
    rw [decline_committed]
  rw [left, listed_iff (bounded_decline orderly right now a), leases,
    withheld_iff orderly inside lasts]
  exact and_comm

theorem fresh_decline_listed :
    let l := (opening (.home 1000)).ledger.after [.decline 0 (.home 10), .decline 500 (.home 20)]
    ∃ as, (Turn.run ⟨1000, .declined⟩ ((Turn.decline 1000 (.home 30)).run l).ledger).answer =
      .ok (.addresses as) ∧ .home 30 ∈ as := by
  intro l
  have read : (Turn.decline 1000 (.home 30)).call.operation = .ok (.decline (.home 30)) := rfl
  have fresh : ¬ l.Lapsed 1000 (.home 30) := by decide +kernel
  have clears : l.Clears 1000 := by decide +kernel
  have listed := declined_address_listed (.home 1000)
    [.decline 0 (.home 10), .decline 500 (.home 20)] 1000 read (by decide +kernel)
    (by decide +kernel)
  exact listed.mpr ⟨fresh, clears⟩

/-- A decline is unheard that comes when an earlier one has run out and not been swept. -/
theorem lapsed_decline_unheard :
    let l := (opening (.home 1000)).ledger.after [.decline 0 (.home 10)]
    let m := ((Turn.decline 1000 (.home 10)).run l).ledger
    1 ≤ l.pool.leaseTime ∧ l.pool.contains (.home 10) = true ∧
      ∃ as, (Turn.run ⟨1000, .declined⟩ m).answer = .ok (.addresses as) ∧ .home 10 ∉ as := by
  intro l m
  have nothing : (Turn.exchange ⟨1000, .declined⟩ m).said? Answer.addresses? = some [] := by
    decide +kernel
  have answered := Turn.answer_of_said? Answer.eq_of_addresses? nothing
  exact ⟨by decide +kernel, by decide +kernel, [], answered, List.not_mem_nil⟩

end Ledger
end LeaseBook
