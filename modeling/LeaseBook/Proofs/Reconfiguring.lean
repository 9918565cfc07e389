import LeaseBook.Proofs.Taking

/-!
What is offered under a new pool. A new pool takes over the leases on addresses of its subnet that
are not reserved, also where it would pass the address over itself. Such a lease is offered to its
client again, and cannot be taken.
-/

namespace LeaseBook

def Answer.serving? : Answer → Option Pool
  | .serving pool => some pool
  | _ => none

theorem Answer.eq_of_serving? (r : Answer) (pool : Pool) (h : r.serving? = some pool) :
    r = .serving pool := by
  cases r <;> cases h
  rfl

namespace Ledger

variable {l : Ledger} {t : Turn} {new : Pool}

/-- A new pool that is answered has been taken on as a whole. -/
theorem reconfigured_of_serving (updated : (t.run l).answer = .ok (.serving new)) :
    (t.run l).ledger = (l.reconfigure new).ledger := by
  unfold Turn.run Call.run at updated ⊢
  cases read : t.call.operation with
  | error fault =>
    rw [read] at updated
    cases updated
  | ok op =>
    rw [read] at updated
    dsimp only at updated ⊢
    obtain ⟨same, left, _⟩ := Outcome.written_of_ok updated
    rw [left]
    cases op with
    | offer q => exact absurd same (Answer.ofLease_ne nofun nofun)
    | request q => exact absurd same (Answer.ofLease_ne nofun nofun)
    | release c a => cases same
    | decline a => cases same
    | committed => cases same
    | declined => cases same
    | reconfigure pool =>
      cases same
      rfl

/-- What is offered lies in the subnet and is not reserved, also where it is repeated. -/
theorem Offered.inside {m : Ledger} {now : Int} {c : Client} {lease : Lease}
    (offered : Offered now c lease l m) (served : l.Served) :
    l.pool.contains lease.address = true ∧ l.pool.isReserved lease.address = false := by
  rcases offered.assigned with assigned | ⟨e, entry, here, _⟩
  · exact ⟨assigned.1, assigned.2.2⟩
  · have stays := served.committed _ (Roster.address_mem entry)
    rw [here] at stays
    simpa only [isStranded, Bool.or_eq_false_iff, Bool.not_eq_false'] using stays

/-- What is offered under a new pool is granted at the same instant if the pool does not pass the
address over and the lease then ends at an instant that can be put into words. The latter holds
where the present can be put into words, and only an address that the client had before can be one
that the new pool passes over. -/
theorem offer_after_update_taken (pool : Pool) (turns : List Turn) {update : Turn} {new : Pool}
    (updated : (update.run ((opening pool).ledger.after turns)).answer = .ok (.serving new))
    {now : Int} {offer take : Call} {c : Client} {lease : Lease} {q : Demand}
    (offered : (Turn.exchange ⟨now, offer⟩
      (update.run ((opening pool).ledger.after turns)).ledger).Offers c lease)
    (read : take.operation = .ok (.request q)) (its : q.client.identity = c.identity)
    (takes : q.TakesUp lease.address) :
    let l := (opening pool).ledger.after turns
    let m := (Turn.run ⟨now, offer⟩ (update.run l).ledger).ledger
    ((∃ granted, (Turn.run ⟨now, take⟩ m).answer = .ok (.lease granted) ∧
        granted.address = lease.address) ↔
      new.isValid lease.address = true ∧ Numeral.isWritable (now + new.leaseTime) = true) ∧
    (Numeral.isWritable now = true → Numeral.isWritable (now + new.leaseTime) = true) ∧
    (new.isValid lease.address = true ∨
      ∃ e ∈ l.committed.entries, e.1 = lease.address ∧ e.2.client.identity = c.identity) := by
  intro l m
  have left := reconfigured_of_serving updated
  have orderly : l.Orderly := orderly_after (orderly_fresh pool) turns
  have right : l.Bounded := bounded_after (orderly_fresh pool) (bounded_fresh pool) turns
  have orderly' : (update.run l).ledger.Orderly := orderly_turn orderly update
  have right' : (update.run l).ledger.Bounded := bounded_turn orderly right update
  have served : (update.run l).ledger.Served := left ▸ served_reconfigure new l
  have serves : (update.run l).ledger.pool = new := congrArg Ledger.pool left
  have quoted := offered_of_offers orderly' right' served offered
  have pool' : m.pool = new := quoted.pool.trans serves
  have final : m.Orderly := orderly_turn orderly' _
  have bound : m.Bounded := bounded_turn orderly' right' _
  have read' : (Turn.mk now take).call.operation = .ok (.request q) := read
  have opened : m.OpenTo q.client.identity lease.address := by
    rw [its]
    exact quoted.opened
  have taken := taken_iff final bound read' takes opened
  rw [pool'] at taken
  have keeps := quoted.inside served
  rw [serves] at keeps
  refine ⟨⟨?_, ?_⟩, fun present => ?_, ?_⟩
  · rintro ⟨granted, answered, _⟩
    obtain ⟨_, assigned, writable⟩ := taken.mp ⟨granted, answered⟩
    exact ⟨assigned.2.1, writable⟩
  · rintro ⟨valid, writable⟩
    -- nothing has ended that the sweep before the request could stumble on
    have clears : m.Clears now := clears_of_lives quoted.lives
    obtain ⟨granted, answered⟩ := taken.mpr ⟨clears, ⟨keeps.1, valid, keeps.2⟩, writable⟩
    exact ⟨granted, answered, granted_address final read' takes answered⟩
  · have late := quoted.late
    rw [serves] at late
    exact Numeral.isWritable_between present quoted.writable (by omega) late
  · rcases quoted.assigned with assigned | ⟨e, entry, here, mine⟩
    · rw [serves] at assigned
      exact .inl assigned.2.1
    · refine .inr ⟨e, ?_, here, mine⟩
      rw [left] at entry
      exact (reconfigure_sheds new l).committed.mem entry

theorem kept_lease_retaken :
    let l := (opening (.home 1000)).ledger.after [.select 0 (.plain 1) (.home 10)]
    let update := Turn.serve 500 ⟨.home 0, 25, by decide⟩ 2000
    let offer := Turn.discover 700 (.plain 1) (.home 10)
    let take := Turn.select 700 (.plain 1) (.home 10)
    let m := (offer.run (update.run l).ledger).ledger
    ∃ new lease granted, (update.run l).answer = .ok (.serving new) ∧
      (offer.exchange (update.run l).ledger).Offers (.plain 1) lease ∧
      (take.run m).answer = .ok (.lease granted) ∧ granted.address = lease.address := by
  intro l update offer take m
  have serving : (update.exchange l).said? Answer.serving? =
      some ⟨⟨.home 0, 25, by decide, by decide⟩, [], 2000, by decide⟩ := by decide +kernel
  have quoted : (offer.exchange (update.run l).ledger).term? = some (.home 10, 2700) := by
    decide +kernel
  obtain ⟨lease, offered, here, _⟩ := Exchange.offers_of_term? rfl quoted
  have updated := Turn.answer_of_said? Answer.eq_of_serving? serving
  have read : take.call.operation =
      .ok (.request ⟨.plain 1, none, some (.home 10), true, .null⟩) := rfl
  obtain ⟨taken, _, _⟩ := offer_after_update_taken (.home 1000) [.select 0 (.plain 1) (.home 10)]
    updated offered read rfl ⟨congrArg some here.symm, rfl⟩
  rw [here] at taken
  obtain ⟨granted, answered, its⟩ := taken.mpr ⟨by decide +kernel, by decide +kernel⟩
  exact ⟨_, lease, granted, updated, offered, answered, its.trans here.symm⟩

/-- A lease on what becomes the first address of a new subnet is offered again and refused. -/
theorem kept_lease_stranded :
    let l := (opening (.home 1000)).ledger.after [.select 0 (.plain 1) (.home 64)]
    let update := Turn.serve 1 ⟨.home 64, 26, by decide⟩ 1000
    let offer := Turn.discover 1 (.plain 1) (.home 64)
    let take := Turn.select 1 (.plain 1) (.home 64)
    let m := (offer.run (update.run l).ledger).ledger
    ∃ new lease, (update.run l).answer = .ok (.serving new) ∧
      (offer.exchange (update.run l).ledger).Offers (.plain 1) lease ∧
      lease.address = .home 64 ∧ (take.run m).answer = .ok (.refused .unavailable) := by
  intro l update offer take m
  have serving : (update.exchange l).said? Answer.serving? =
      some ⟨⟨.home 64, 26, by decide, by decide⟩, [], 1000, by decide⟩ := by decide +kernel
  have quoted : (offer.exchange (update.run l).ledger).term? = some (.home 64, 1001) := by
    decide +kernel
  have refused : (take.exchange m).said? Answer.refusal? = some .unavailable := by decide +kernel
  obtain ⟨lease, offered, here, _⟩ := Exchange.offers_of_term? rfl quoted
  exact ⟨_, lease, Turn.answer_of_said? Answer.eq_of_serving? serving, offered, here,
    Turn.answer_of_said? Answer.eq_of_refusal? refused⟩

end Ledger
end LeaseBook
