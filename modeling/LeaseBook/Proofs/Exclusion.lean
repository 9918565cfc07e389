import LeaseBook.Proofs.History

/-!
No address is given to two clients at a time. This is said of the history of answers: as long as a
granted lease stands, nobody else is offered or granted its address.
-/

namespace LeaseBook

/-- Whether an operation costs a client its lease on an address even where it ends at a note that
cannot be put into words: the client takes up an offer, or gives the lease up. -/
def Operation.Forfeits (op : Operation) (i : Identity) (a : Address) : Prop :=
  match op with
  | .request q => q.client.identity = i ∧ q.Selects
  | .release c b => c.identity = i ∧ b = a
  | _ => False

namespace Exchange

variable {x : Exchange} {q : Demand} {i : Identity} {a : Address}

/-- Whether a client loses its lease on an address by a call that ends at a note that cannot be put
into words. -/
def Loses (x : Exchange) (i : Identity) (a : Address) : Prop :=
  x.answer = .error .longNumber ∧ ∃ op, x.turn.call.operation = .ok op ∧ op.Forfeits i a

theorem not_loses_of_foreign (read : x.turn.call.operation = .ok (.request q))
    (foreign : q.client.identity ≠ i) : ¬ x.Loses i a := by
  rintro ⟨_, op, read', forfeits⟩
  cases read.symm.trans read'
  exact foreign forfeits.1

/-- Whether a client is offered or granted a lease. -/
def Gives (x : Exchange) (c : Client) (lease : Lease) : Prop :=
  x.Grants c lease ∨ ∃ q : Discovery, x.turn.call.operation = .ok (.offer q) ∧ q.client = c ∧
    x.answer = .ok (.lease lease)

end Exchange

namespace Ledger

variable {l m : Ledger} {now limit expiration : Int} {i : Identity} {a : Address} {c : Client}
  {lease : Lease}

/-- Whether a client has an address up to an instant at least. -/
def Holds (i : Identity) (a : Address) (limit : Int) (l : Ledger) : Prop :=
  ∃ lease, (a, lease) ∈ l.committed.entries ∧ lease.client.identity = i ∧ limit ≤ lease.expiration

/-- What is entered for a client that has an address stands there, and no shorter. -/
theorem holds_commit (orderly : l.Orderly) (holds : l.Holds c.identity a limit)
    (fits : Fits now c lease l) : (l.commit lease).Holds c.identity a limit := by
  obtain ⟨old, held, its, long⟩ := holds
  have here : a = lease.address := (fits.sole _ held).mpr its
  refine ⟨lease, (mem_commit orderly).mpr (.inl (by rw [here])), fits.client, ?_⟩
  rcases fits.time with ⟨nobody, _⟩ | ⟨e, entry, mine, time⟩
  · exact absurd its (nobody _ held)
  · have same := orderly.single e entry _ held (mine.trans its.symm)
    cases Roster.entry_unique orderly.distinct entry held same
    rw [time]
    exact Int.le_trans long (Int.le_max_left _ _)

namespace Effect

variable {op : Operation} {answer : Except Fault Answer}

/-- A client has an address until its time is up, unless the lease is taken away or lost. -/
theorem holds (effect : Effect now l op answer m) (orderly : l.Orderly)
    (holds : l.Holds i a limit) (early : now < limit) (kept : ¬ op.Frees answer i a)
    (safe : answer = .error .longNumber → ¬ op.Forfeits i a) : m.Holds i a limit := by
  obtain ⟨old, held, its, long⟩ := holds
  have live : ¬ Ended now (a, old) := Int.not_le.mpr (Int.lt_of_lt_of_le early long)
  cases effect with
  | swept _ _ shed => exact ⟨old, shed.spared _ held live, its, long⟩
  | @committed q _ lease m _ shed stays fits answered =>
    by_cases mine : q.client.identity = i
    · subst mine
      rcases answered with granted | short
      · exact absurd ⟨rfl, lease, granted⟩ kept
      -- cut short, but not for another offer: the lease is renewed in its place
      · have sheds := stays fun selects => safe short ⟨rfl, selects⟩
        exact holds_commit (shed.orderly orderly) ⟨old, sheds.spared _ held live, its, long⟩ fits
    · have foreign : old.client.identity ≠ q.client.identity := fun same => mine (same ▸ its)
      have there := shed.spared _ held fun gone => gone.elim live foreign
      have elsewhere : a ≠ lease.address := fun here => foreign ((fits.sole _ there).mp here)
      exact ⟨old, (mem_commit (shed.orderly orderly)).mpr (.inr ⟨there, elsewhere⟩), its, long⟩
  | @released c b _ lease m filed hers _ shed answered =>
    refine ⟨old, shed.spared _ held fun here => ?_, its, long⟩
    subst here
    cases Roster.record_unique orderly.distinct filed held
    rcases answered with found | ⟨short, _⟩
    · exact kept ⟨hers.symm.trans its, rfl, found⟩
    · exact safe short ⟨hers.symm.trans its, rfl⟩
  | declined =>
    refine ⟨old, ?_, its, long⟩
    rw [decline_committed]
    exact held
  | reconfigured _ shed _ => exact ⟨old, shed.spared _ held kept, its, long⟩

end Effect

theorem holds_turn (orderly : l.Orderly) (holds : l.Holds i a limit) {t : Turn}
    (early : t.now < limit) (kept : ¬ (t.exchange l).Frees i a)
    (safe : ¬ (t.exchange l).Loses i a) : (t.run l).ledger.Holds i a limit := by
  rcases turn_effect orderly t with ⟨_, _, same⟩ | ⟨op, read, effect⟩
  · rw [same]
    exact holds
  · exact effect.holds orderly holds early (fun frees => kept ⟨op, read, frees⟩)
      (fun short forfeits => safe ⟨short, op, read, forfeits⟩)

/-- While a client has an address, it is given to nobody else. -/
theorem gives_elsewhere (orderly : l.Orderly) (holds : l.Holds i a limit) {t : Turn}
    (early : t.now < limit) (gives : (t.exchange l).Gives c lease) (other : c.identity ≠ i) :
    lease.address ≠ a := by
  obtain ⟨old, held, its, long⟩ := holds
  have live : ¬ Ended t.now (a, old) := Int.not_le.mpr (Int.lt_of_lt_of_le early long)
  simp only [Exchange.Gives, Exchange.Grants, Turn.exchange, Turn.run, Call.run] at gives
  intro here
  rcases gives with ⟨q, read, rfl, granted⟩ | ⟨q, read, rfl, offered⟩
  · rw [read] at granted
    obtain ⟨m, _, shed, fits, _, _⟩ := request_granted orderly granted
    have stays := shed.spared _ held fun gone => gone.elim live fun same => other (same ▸ its)
    exact other (((fits.sole _ stays).mp here.symm).symm.trans its)
  · rw [read] at offered
    obtain ⟨same, _, _⟩ := Outcome.written_of_ok offered
    have shed := (sweep_leaves t.now l).1.2
    have own := offerSwept_open (shed.orderly orderly) (Answer.ofLease_eq_lease same)
    exact other ((own _ (shed.spared _ held live) here.symm).symm.trans its)

/-- After a client is granted a lease, and before it ends, no other client is offered or granted a
lease on its address, unless meanwhile the lease was taken away. The client may also have lost it by
a call of its own that ended at a note that could not be put into words. -/
theorem granted_address_exclusive (pool : Pool) {turns : List Turn} (ordered : Chronological turns)
    {before between rest : List Exchange} {first last : Exchange} {c d : Client}
    {lease other : Lease}
    (history : (opening pool).ledger.exchanges turns =
      before ++ first :: between ++ last :: rest)
    (granted : first.Grants c lease) (alive : last.turn.now < lease.expiration)
    (kept : ∀ x ∈ between, ¬ x.Frees c.identity lease.address)
    (safe : ∀ x ∈ between, ¬ x.Loses c.identity lease.address)
    (gives : last.Gives d other) (apart : d.identity ≠ c.identity) :
    other.address ≠ lease.address := by
  have early (x) (hx : x ∈ between) : x.turn.now < lease.expiration := by
    have there : x ∈ before ++ first :: between :=
      List.mem_append_right _ (List.mem_cons_of_mem _ hx)
    have paced := exchanges_ordered ordered history there List.mem_cons_self
    exact Int.lt_of_le_of_lt paced alive
  obtain ⟨earlier, _, rfl, standing, onward⟩ := exchanges_eq_append history
  obtain ⟨t, later, rfl, rfl, _⟩ := exchanges_eq_cons onward
  have fresh : (opening pool).ledger.Orderly := orderly_fresh pool
  obtain ⟨m, rest, orderly, rfl, after, held, its, _⟩ := entered_by_grant fresh standing granted
  -- the lease itself may be renewed meanwhile, so only address, client and a least end are kept
  have holds : (m.after rest).Holds c.identity lease.address lease.expiration :=
    after_induction (Q := fun x => x.turn.now < lease.expiration ∧
        ¬ x.Frees c.identity lease.address ∧ ¬ x.Loses c.identity lease.address)
      (fun _ _ orderly holds now => holds_turn orderly holds now.1 now.2.1 now.2.2) orderly
      ⟨lease, held, its, Int.le_refl _⟩ (fun x hx => ⟨early x hx, kept x hx, safe x hx⟩)
  rw [after] at gives
  exact gives_elsewhere (orderly_after orderly rest) holds alive gives apart

theorem third_client_elsewhere :
    let l := (opening (.home 1000)).ledger
    let first := Turn.select 0 (.plain 1) (.home 10)
    let second := Turn.select 0 (.plain 2) (.home 20)
    let third := Turn.select 999 (.plain 3) (.home 30)
    ∃ lease other, (first.exchange l).Grants (.plain 1) lease ∧
      (third.exchange (l.after [first, second])).Gives (.plain 3) other ∧
      lease.expiration = 1000 ∧ other.address ≠ lease.address := by
  intro l first second third
  have lent : (first.exchange l).term? = some (.home 10, 1000) := by decide +kernel
  have taken : (third.exchange (l.after [first, second])).term? = some (.home 30, 1999) := by
    decide +kernel
  obtain ⟨lease, granted, _, ends⟩ := Exchange.grants_of_term? rfl lent
  obtain ⟨other, grants, _, _⟩ := Exchange.grants_of_term? rfl taken
  refine ⟨lease, other, granted, .inl grants, ends, ?_⟩
  have ordered : Chronological [first, second, third] := by
    unfold Chronological
    decide
  have history : l.exchanges [first, second, third] = [] ++ first.exchange l ::
      [second.exchange (l.after [first])] ++ third.exchange (l.after [first, second]) :: [] := rfl
  have foreign : (Client.plain 2).identity ≠ (Client.plain 1).identity := by decide
  apply granted_address_exclusive (.home 1000) ordered history granted
  · rw [ends]
    decide
  · intro x hx
    cases List.mem_singleton.mp hx
    exact Exchange.not_frees_of_foreign rfl foreign
  · intro x hx
    cases List.mem_singleton.mp hx
    exact Exchange.not_loses_of_foreign rfl foreign
  · exact .inl grants
  · decide

/-- A client that takes up another offer loses its lease although its request fails. -/
theorem failed_selection_shares :
    let l := (opening (.home (10 ^ 4300 - 1))).ledger
    let first := Turn.select 0 (.plain 1) (.home 10)
    let between := [Turn.select 1 (.plain 1) (.home 20), .serve 1 ⟨.home 0, 24, by decide⟩ 1000]
    let last := Turn.select 1 (.plain 2) (.home 10)
    Chronological (first :: between ++ [last]) ∧
    ∃ lease other, (first.exchange l).Grants (.plain 1) lease ∧ last.now < lease.expiration ∧
      (∀ x ∈ (first.run l).ledger.exchanges between,
        ¬ x.Frees (Client.plain 1).identity lease.address) ∧
      (last.exchange (l.after (first :: between))).Gives (.plain 2) other ∧
      (Client.plain 2).identity ≠ (Client.plain 1).identity ∧ other.address = lease.address := by
  intro l first between last
  have lent : (first.exchange l).term? = some (.home 10, 10 ^ 4300 - 1) := by decide +kernel
  have short : ((Turn.select 1 (.plain 1) (.home 20)).exchange (l.after [first])).term? = none := by
    decide +kernel
  have taken : (last.exchange (l.after (first :: between))).term? = some (.home 10, 1001) := by
    decide +kernel
  obtain ⟨lease, granted, its, ends⟩ := Exchange.grants_of_term? rfl lent
  obtain ⟨other, grants, same, _⟩ := Exchange.grants_of_term? rfl taken
  refine ⟨?_, lease, other, granted, ?_, ?_, .inl grants, by decide, same.trans its.symm⟩
  · unfold Chronological
    decide
  · rw [ends]
    decide +kernel
  · rw [its]
    intro x hx
    rcases List.mem_cons.mp hx with rfl | hx
    · exact Exchange.not_frees_of_term? rfl short
    · cases List.mem_singleton.mp hx
      rintro ⟨op, read, frees⟩
      cases read
      exact frees.elim (by decide) (by decide)

end Ledger
end LeaseBook
