import LeaseBook.Proofs.Run

/-!
Histories of runs, and what can be read off them: which requests are granted, which exchanges take
a lease away from its client, and that what is granted is entered.
-/

namespace LeaseBook

/-- Whether an operation that is answered in some way takes away the lease that a client has on an
address: the client is granted a lease anew, or gives this one up, or a new pool does not serve
it. -/
def Operation.Frees (op : Operation) (answer : Except Fault Answer) (i : Identity) (a : Address) :
    Prop :=
  match op with
  | .request q => q.client.identity = i ∧ ∃ lease, answer = .ok (.lease lease)
  | .release c b => c.identity = i ∧ b = a ∧ answer = .ok (.released true)
  | .reconfigure pool => Ledger.Outcast pool a
  | _ => False

def Chronological (turns : List Turn) : Prop := turns.Pairwise fun t u => t.now ≤ u.now

theorem Answer.ofLease_eq_lease {r : Except Refusal Lease} {lease : Lease}
    (h : Answer.ofLease r = .lease lease) : r = .ok lease := by
  cases r with
  | error refusal => cases h
  | ok granted =>
    cases h
    rfl

namespace Exchange

variable {x : Exchange} {q : Demand} {i : Identity} {a : Address} {expiration : Int}

/-- Whether an exchange takes away the lease that a client has on an address. -/
def Frees (x : Exchange) (i : Identity) (a : Address) : Prop :=
  ∃ op, x.turn.call.operation = .ok op ∧ op.Frees x.answer i a

/-- Whether a request of a client is granted with a lease. -/
def Grants (x : Exchange) (c : Client) (lease : Lease) : Prop :=
  ∃ q : Demand, x.turn.call.operation = .ok (.request q) ∧ q.client = c ∧
    x.answer = .ok (.lease lease)

/-- The address and the end of the lease that is answered. -/
def term? (x : Exchange) : Option (Address × Int) :=
  match x.answer with
  | .ok (.lease lease) => some (lease.address, lease.expiration)
  | _ => none

theorem not_leased_of_term? (h : x.term? = none) (lease : Lease) :
    x.answer ≠ .ok (.lease lease) := by
  intro answered
  rw [term?, answered] at h
  cases h

theorem answer_of_term? (h : x.term? = some (a, expiration)) :
    ∃ lease, x.answer = .ok (.lease lease) ∧ lease.address = a ∧
      lease.expiration = expiration := by
  unfold term? at h
  split at h
  · rename_i lease answered
    cases h
    exact ⟨lease, answered, rfl, rfl⟩
  · cases h

theorem grants_of_term? (read : x.turn.call.operation = .ok (.request q))
    (h : x.term? = some (a, expiration)) :
    ∃ lease, x.Grants q.client lease ∧ lease.address = a ∧ lease.expiration = expiration := by
  obtain ⟨lease, answered, here, ends⟩ := answer_of_term? h
  exact ⟨lease, ⟨q, read, rfl, answered⟩, here, ends⟩

theorem not_frees_of_term? (read : x.turn.call.operation = .ok (.request q)) (h : x.term? = none) :
    ¬ x.Frees i a := by
  rintro ⟨op, read', frees⟩
  cases read.symm.trans read'
  obtain ⟨_, lease, answered⟩ := frees
  exact not_leased_of_term? h lease answered

theorem not_frees_of_foreign (read : x.turn.call.operation = .ok (.request q))
    (foreign : q.client.identity ≠ i) : ¬ x.Frees i a := by
  rintro ⟨op, read', frees⟩
  cases read.symm.trans read'
  exact foreign frees.1

end Exchange

theorem Turn.answer_of_term? {t : Turn} {l : Ledger} {a : Address} {expiration : Int}
    (h : (t.exchange l).term? = some (a, expiration)) :
    ∃ lease, (t.run l).answer = .ok (.lease lease) ∧ lease.address = a ∧
      lease.expiration = expiration :=
  Exchange.answer_of_term? h

namespace Ledger

variable {l m : Ledger} {now : Int} {c : Client} {lease : Lease} {turns : List Turn}

theorem exchanges_eq_cons {x : Exchange} {later : List Exchange}
    (h : l.exchanges turns = x :: later) :
    ∃ t rest, turns = t :: rest ∧ x = t.exchange l ∧ (t.run l).ledger.exchanges rest = later := by
  cases turns with
  | nil => cases h
  | cons t rest =>
    cases h
    exact ⟨t, rest, rfl, rfl, rfl⟩

theorem exchanges_eq_append {earlier later : List Exchange}
    (h : l.exchanges turns = earlier ++ later) :
    ∃ first rest, turns = first ++ rest ∧ l.exchanges first = earlier ∧
      (l.after first).exchanges rest = later := by
  induction earlier generalizing l turns with
  | nil => exact ⟨[], turns, rfl, rfl, h⟩
  | cons x earlier ih =>
    obtain ⟨t, rest, rfl, rfl, left⟩ := exchanges_eq_cons h
    obtain ⟨first, rest, rfl, before, after⟩ := ih left
    exact ⟨t :: first, rest, rfl, congrArg _ before, after⟩

/-- A run splits at an exchange of its history. -/
theorem exchanges_split {before between : List Exchange} {x : Exchange}
    (history : l.exchanges turns = before ++ x :: between) :
    ∃ earlier t rest, turns = earlier ++ t :: rest ∧ x = t.exchange (l.after earlier) ∧
      l.after turns = (t.run (l.after earlier)).ledger.after rest ∧
      (t.run (l.after earlier)).ledger.exchanges rest = between := by
  obtain ⟨earlier, _, rfl, _, onward⟩ := exchanges_eq_append history
  obtain ⟨t, rest, rfl, rfl, left⟩ := exchanges_eq_cons onward
  exact ⟨earlier, t, rest, rfl, rfl, after_append _ _ _, left⟩

/-- Of two exchanges in a history, the later one is not at an earlier instant. -/
theorem exchanges_ordered (ordered : Chronological turns) {earlier later : List Exchange}
    (history : l.exchanges turns = earlier ++ later) {x y : Exchange} (hx : x ∈ earlier)
    (hy : y ∈ later) : x.turn.now ≤ y.turn.now := by
  rw [← exchanges_turns l turns, Chronological, List.pairwise_map, history] at ordered
  exact (List.pairwise_append.mp ordered).2.2 x hx y hy

/-- A granted request has entered a lease that fits, and that can be put into words. -/
theorem request_granted (orderly : l.Orderly) {q : Demand}
    (h : ((Operation.request q).run now l).written.answer = .ok (.lease lease)) :
    ∃ m, m.pool = l.pool ∧
      Sheds (fun e => Ended now e ∨ e.2.client.identity = q.client.identity) l m ∧
      Fits now q.client lease m ∧
      ((Operation.request q).run now l).written.ledger = m.commit lease ∧
      Numeral.isWritable lease.expiration = true := by
  have entered := request_entered orderly now q
  rw [h] at entered
  generalize ((Operation.request q).run now l).written.ledger = n at entered ⊢
  cases entered with
  | nothing _ _ denied => exact absurd rfl (denied lease)
  | lease pool shed _ fits answered =>
    split at answered
    · rename_i writable
      cases answered
      exact ⟨_, pool, shed, fits, rfl, writable⟩
    · cases answered

/-- Behind the exchange that grants a lease the run goes on from a ledger that has the lease. -/
theorem entered_by_grant (orderly : l.Orderly) {before between : List Exchange} {first : Exchange}
    (history : l.exchanges turns = before ++ first :: between) (granted : first.Grants c lease) :
    ∃ (m : Ledger) (rest : List Turn), m.Orderly ∧ m.exchanges rest = between ∧
      l.after turns = m.after rest ∧ (lease.address, lease) ∈ m.committed.entries ∧
      lease.client.identity = c.identity ∧ Numeral.isWritable lease.expiration = true := by
  obtain ⟨earlier, t, rest, _, rfl, after, left⟩ := exchanges_split history
  have orderly := orderly_after orderly earlier
  obtain ⟨q, read, rfl, lent⟩ := granted
  have run : t.run (l.after earlier) = _ := run_of_read read (l.after earlier)
  have answered : (t.run (l.after earlier)).answer = .ok (.lease lease) := lent
  obtain ⟨m, _, shed, fits, entered, writable⟩ := request_granted orderly (run ▸ answered)
  refine ⟨(t.run (l.after earlier)).ledger, rest, orderly_turn orderly t, left, after, ?_,
    fits.client, writable⟩
  rw [run, entered]
  exact (mem_commit (shed.orderly orderly)).mpr (.inl rfl)

end Ledger
end LeaseBook
