import LeaseBook.Proofs.Choosing
import LeaseBook.Proofs.Expiring
import LeaseBook.Proofs.Lending

/-!
What replies say is so. A client that is confirmed a lease has just that one; a request is refused
out loud exactly where the ledger refuses it and the client asks for an address; and where nothing
is confirmed, nobody loses a lease that stands, unless the client gives it up. The server replies to
every message, or does not, without a fault, as long as it can put into words what it does.
-/

namespace LeaseBook

namespace Ledger

variable {l m : Ledger} {now : Int} {a : Address} {c : Client} {t : Turn}

/-- What cannot be put into words of what an operation does. -/
inductive Stalls (now : Int) (l : Ledger) : Operation → Prop
  | offerSweep {q : Discovery} (long : ¬ l.Clears now) : Stalls now l (.offer q)
  | offer {q : Discovery} {lease : Lease} {rest : Roster Int}
      (choice : (l.sweep now).ledger.Choice now q (.ok lease) rest)
      (long : Numeral.isWritable lease.expiration = false) : Stalls now l (.offer q)
  | requestSweep {q : Demand} (long : ¬ l.Clears now) : Stalls now l (.request q)
  | request {q : Demand} {lease : Lease} (due : q.Due now l.pool (l.live now) lease)
      (long : Numeral.isWritable lease.expiration = false) : Stalls now l (.request q)
  | release {c : Client} {a : Address} {lease : Lease} (entry : (a, lease) ∈ l.committed.entries)
      (its : lease.client.identity = c.identity)
      (long : Numeral.isWritable lease.expiration = false) : Stalls now l (.release c a)
  | decline {a : Address} (inside : l.pool.contains a = true) (fresh : a ∉ l.declined.addresses)
      (long : Numeral.isWritable (now + l.pool.leaseTime) = false) : Stalls now l (.decline a)

theorem long_of_worded {r : Except Refusal Lease} (h : Answer.worded r = .error .longNumber) :
    ∃ lease, r = .ok lease ∧ Numeral.isWritable lease.expiration = false := by
  cases r with
  | error refusal => cases h
  | ok lease =>
    refine ⟨lease, rfl, Bool.eq_false_iff.mpr fun writable => ?_⟩
    rw [Answer.worded_of_writable writable] at h
    cases h

theorem offer_stalls_iff (orderly : l.Orderly) (right : l.Bounded) {q : Discovery}
    (read : t.call.operation = .ok (.offer q)) :
    (t.run l).answer = .error .longNumber ↔ l.Stalls t.now (.offer q) := by
  by_cases clears : l.Clears t.now
  · have swept : (l.sweep t.now).ledger.Orderly := orderly_sweep orderly t.now
    have answered {r rest} (choice : (l.sweep t.now).ledger.Choice t.now q r rest) :
        (t.run l).answer = Answer.worded r := by
      obtain ⟨notes, offered⟩ := offerSwept_of_choice swept choice
      rw [(offer_turn right clears read).1, offered]
      rfl
    constructor
    · intro failed
      obtain ⟨r, rest, choice⟩ := exists_choice q (l.sweep t.now).ledger t.now
      obtain ⟨lease, rfl, long⟩ := long_of_worded ((answered choice).symm.trans failed)
      exact .offer choice long
    · intro stalls
      cases stalls with
      | offerSweep long => exact absurd clears long
      | offer choice long => exact (answered choice).trans (Answer.worded_of_long long)
  · exact iff_of_true (offer_turn_of_not_clears right clears read) (.offerSweep clears)

theorem request_stalls_iff (orderly : l.Orderly) (right : l.Bounded) {q : Demand}
    (read : t.call.operation = .ok (.request q)) :
    (t.run l).answer = .error .longNumber ↔ l.Stalls t.now (.request q) := by
  by_cases clears : l.Clears t.now
  · constructor
    · intro failed
      by_cases some : ∃ lease, q.Due t.now l.pool (l.live t.now) lease
      · obtain ⟨lease, due⟩ := some
        obtain ⟨answered, _⟩ := due_turn orderly right clears read due
        obtain ⟨_, same, long⟩ := long_of_worded (answered.symm.trans failed)
        cases same
        exact .request due long
      · obtain ⟨⟨refusal, _, refused⟩, _⟩ :=
          not_due_turn orderly right clears read (not_exists.mp some)
        cases refused.symm.trans failed
    · intro stalls
      cases stalls with
      | requestSweep long => exact absurd clears long
      | request due long =>
        obtain ⟨answered, _⟩ := due_turn orderly right clears read due
        exact answered.trans (Answer.worded_of_long long)
  · exact iff_of_true (request_turn_of_not_clears right clears read) (.requestSweep clears)

theorem release_stalls_iff (orderly : l.Orderly)
    (read : t.call.operation = .ok (.release c a)) :
    (t.run l).answer = .error .longNumber ↔ l.Stalls t.now (.release c a) := by
  have ran : t.run l = ((l.release c a).map Answer.released).written := run_of_read read l
  rw [ran]
  rcases release_cases orderly c a with ⟨lease, entry, its, released⟩ | ⟨foreign, ignored⟩
  · have words : [Note.leaseReleased lease].all Note.isWritable =
        Numeral.isWritable lease.expiration := by
      rw [List.all_cons, List.all_nil, Bool.and_true, Note.isWritable_of_numbers rfl]
    rw [Outcome.written_answer, Outcome.map_notes, released, Outcome.plain_notes, words]
    constructor
    · intro failed
      split at failed
      · cases failed
      · rename_i long
        exact .release entry its (Bool.eq_false_iff.mpr long)
    · intro stalls
      cases stalls with
      | release there hers long =>
        cases Roster.record_unique orderly.distinct there entry
        exact if_neg (Bool.eq_false_iff.mp long)
  · rw [ignored]
    refine iff_of_false nofun fun stalls => ?_
    cases stalls with
    | release there its long => exact foreign _ there its

theorem decline_stalls_iff (read : t.call.operation = .ok (.decline a)) :
    (t.run l).answer = .error .longNumber ↔ l.Stalls t.now (.decline a) := by
  have ran : t.run l = ((l.decline t.now a).map fun _ => Answer.noted).written :=
    run_of_read read l
  rw [ran]
  by_cases idle : l.pool.contains a = false ∨ a ∈ l.declined.addresses
  · rw [decline_idle idle]
    refine iff_of_false nofun fun stalls => ?_
    cases stalls with
    | decline inside fresh long =>
      rcases idle with outside | known
      · cases inside.symm.trans outside
      · exact fresh known
  · obtain ⟨inside, fresh⟩ := not_or.mp idle
    have covered : l.pool.contains a = true := Bool.not_eq_false _ ▸ inside
    have words : ((l.decline t.now a).map fun _ => Answer.noted).notes.all Note.isWritable =
        Numeral.isWritable (t.now + l.pool.leaseTime) := by
      have new := Roster.contains_eq_false_iff.mpr fresh
      simp only [decline, new, covered, Bool.not_true, Bool.or_false, Bool.false_eq_true, if_false,
        Outcome.map_notes, Outcome.plain_notes, List.all_cons, List.all_nil, Bool.and_true]
      exact Note.isWritable_of_numbers rfl
    rw [Outcome.written_answer, words]
    constructor
    · intro failed
      split at failed
      · cases failed
      · rename_i long
        exact .decline covered fresh (Bool.eq_false_iff.mpr long)
    · intro stalls
      cases stalls with
      | decline _ _ long => exact if_neg (Bool.eq_false_iff.mp long)

/-- Whether all leases stay that stand, and none is added. -/
structure Spares (now : Int) (l m : Ledger) : Prop where
  fewer : m.committed.entries.Sublist l.committed.entries
  stays : ∀ e ∈ l.committed.entries, now < e.2.expiration → e ∈ m.committed.entries

theorem Sheds.spares (shed : Sheds (Ended now) l m) : Spares now l m :=
  ⟨shed.committed, fun e he alive => shed.spared e he (Int.not_le.mpr alive)⟩

theorem offer_spares (orderly : l.Orderly) (now : Int) (q : Discovery) :
    Spares now l ((Operation.offer q).run now l).written.ledger := by
  have effect := run_effect orderly now (.offer q)
  generalize ((Operation.offer q).run now l).written.answer = answer at effect
  generalize ((Operation.offer q).run now l).written.ledger = n at effect ⊢
  cases effect with
  | swept _ _ shed => exact shed.spares

theorem decline_spares (now : Int) (a : Address) (l : Ledger) :
    Spares now l ((Operation.decline a).run now l).written.ledger := by
  have same : ((Operation.decline a).run now l).written.ledger.committed = l.committed := by
    rw [decline_written, decline_committed]
  exact ⟨same ▸ .refl _, fun e he _ => same ▸ he⟩

theorem refusal_spares (orderly : l.Orderly) {op : Operation} {refusal : Refusal}
    (refused : (op.run now l).written.answer = .ok (.refused refusal)) :
    Spares now l (op.run now l).written.ledger := by
  rw [run_refused orderly refused]
  exact (sweep_leaves now l).1.2.spares

end Ledger

namespace Delivery

variable {d : Delivery} {l : Ledger} {reply : Option Reply} {lease : Lease} {refusal : Refusal}

/-- Whether the server cannot put into words what it does about a message. -/
def Stalls (d : Delivery) (l : Ledger) : Prop :=
  ∃ op, d.message.operation? = some op ∧ l.Stalls d.now op

/-- Whether the ledger refuses what a message requests. -/
def IsRefused (d : Delivery) (l : Ledger) : Prop :=
  ∃ refusal, ((Operation.request d.message.demand).run d.now l).written.answer =
    .ok (.refused refusal)

/-- That a reply to a message is of a kind that goes with it, and that it says what has become of
the ledger. -/
structure Tells (d : Delivery) (l m : Ledger) (reply : Option Reply) : Prop where
  discover : d.message.kind = .discover →
    reply = none ∨ ∃ lease, reply = some (.offer lease)
  request : d.message.kind = .request →
    reply = none ∨ (∃ lease, reply = some (.ack lease)) ∨ ∃ refusal, reply = some (.nak refusal)
  other : d.message.kind ≠ .discover → d.message.kind ≠ .request → reply = none
  confirmed : ∀ lease, reply = some (.ack lease) → d.now < lease.expiration ∧
    ∀ e, e ∈ m.committed.entries ∧ e.2.client.identity = d.message.client.identity ↔
      e = (lease.address, lease)
  refused : d.message.kind = .request → ((∃ refusal, reply = some (.nak refusal)) ↔
    d.IsRefused l ∧ d.message.requested.isSome = true)
  silent : d.message.kind = .request →
    (reply = none ↔ d.IsRefused l ∧ d.message.requested = none)
  spares : (∀ lease, reply ≠ some (.ack lease)) → d.message.kind ≠ .release →
    Ledger.Spares d.now l m

theorem stalls_iff (orderly : l.Orderly) (right : l.Bounded) :
    (d.handle l).answer = .error .longNumber ↔ d.Stalls l := by
  rcases d.idle_or_calls with ⟨asks, idle⟩ | ⟨op, t, calls⟩
  · rw [(idle l).1]
    refine iff_of_false nofun fun ⟨op, other, _⟩ => ?_
    cases asks.symm.trans other
  · have stalls : (t.run l).answer = .error .longNumber ↔ l.Stalls t.now op := by
      have asking := d.message.asking
      have read := calls.read
      rw [calls.asks] at asking
      cases asking with
      | discover _ => exact Ledger.offer_stalls_iff orderly right read
      | request _ => exact Ledger.request_stalls_iff orderly right read
      | release _ _ => exact Ledger.release_stalls_iff orderly read
      | decline _ _ => exact Ledger.decline_stalls_iff read
    have same : d.Stalls l ↔ l.Stalls t.now op := by
      rw [calls.now]
      constructor
      · rintro ⟨other, asks, stalls⟩
        cases calls.asks.symm.trans asks
        exact stalls
      · intro stalls
        exact ⟨op, calls.asks, stalls⟩
    rw [same, ← stalls, calls.answer]
    cases (t.run l).answer with
    | error fault => simp only [Except.map, Except.error.injEq]
    | ok answer => exact iff_of_false nofun nofun

/- What is replied to each kind of message. -/

theorem tells_of_silence (quiet : d.message.kind ≠ .discover ∧ d.message.kind ≠ .request)
    {m : Ledger} (spares : d.message.kind ≠ .release → Ledger.Spares d.now l m) :
    d.Tells l m none where
  discover := fun _ => .inl rfl
  request := fun _ => .inl rfl
  other := fun _ _ => rfl
  confirmed := nofun
  refused := fun kind => absurd kind quiet.2
  silent := fun kind => absurd kind quiet.2
  spares := fun _ => spares

theorem tells_of_discover (orderly : l.Orderly) (kind : d.message.kind = .discover)
    (handled : (d.handle l).answer = .ok reply) : d.Tells l (d.handle l).ledger reply := by
  have asks : d.message.operation? = some (.offer d.message.discovery) := by
    simp only [ClientMessage.operation?, kind]
  obtain ⟨answer, answered, replied⟩ := answer_of_reply asks handled
  obtain ⟨said, _, _⟩ := Outcome.written_of_ok answered
  have offers : reply = none ∨ ∃ lease, reply = some (.offer lease) := by
    rw [← replied, ← said]
    cases found : (l.offer d.now d.message.discovery).answer with
    | ok lease =>
      simp [Operation.run, found, Answer.ofLease, ClientMessage.reply?, kind]
    | error refusal =>
      simp [Operation.run, found, Answer.ofLease, ClientMessage.reply?, kind]
  have other : d.message.kind ≠ .request := by
    rw [kind]
    decide
  rw [(handle_of_operation asks l).2]
  exact {
    discover := fun _ => offers
    request := fun same => absurd same other
    other := fun same => absurd kind same
    confirmed := by
      rintro lease rfl
      rcases offers with silent | ⟨_, offered⟩
      · cases silent
      · cases offered
    refused := fun same => absurd same other
    silent := fun same => absurd same other
    spares := fun _ _ => Ledger.offer_spares orderly d.now d.message.discovery }

theorem tells_of_ack (kind : d.message.kind = .request) {m : Ledger}
    (alive : d.now < lease.expiration)
    (sole : ∀ e, e ∈ m.committed.entries ∧ e.2.client.identity = d.message.client.identity ↔
      e = (lease.address, lease)) (granted : ¬ d.IsRefused l) :
    d.Tells l m (some (.ack lease)) where
  discover := fun other => nomatch kind.symm.trans other
  request := fun _ => .inr (.inl ⟨lease, rfl⟩)
  other := fun _ other => absurd kind other
  confirmed := by
    rintro _ ⟨⟩
    exact ⟨alive, sole⟩
  refused := fun _ => iff_of_false nofun fun both => granted both.1
  silent := fun _ => iff_of_false nofun fun both => granted both.1
  spares := fun other => absurd rfl (other lease)

theorem tells_of_refusal (kind : d.message.kind = .request) {m : Ledger}
    (refused : d.IsRefused l) (refusal : Refusal) (spares : Ledger.Spares d.now l m) :
    d.Tells l m (if d.message.requested.isSome then some (.nak refusal) else none) := by
  cases asked : d.message.requested with
  | none =>
    exact {
      discover := fun other => nomatch kind.symm.trans other
      request := fun _ => .inl rfl
      other := fun _ other => absurd kind other
      confirmed := nofun
      refused := fun _ => by simp [asked]
      silent := fun _ => by simp [asked, refused]
      spares := fun _ _ => spares }
  | some a =>
    exact {
      discover := fun other => nomatch kind.symm.trans other
      request := fun _ => .inr (.inr ⟨refusal, rfl⟩)
      other := fun _ other => absurd kind other
      confirmed := by
        rintro lease same
        cases same
      refused := fun _ => by simp [asked, refused]
      silent := fun _ => by simp [asked]
      spares := fun _ _ => spares }

theorem tells_of_request (orderly : l.Orderly) (right : l.Bounded)
    (lasts : 1 ≤ l.pool.leaseTime) (kind : d.message.kind = .request)
    (handled : (d.handle l).answer = .ok reply) : d.Tells l (d.handle l).ledger reply := by
  have asks : d.message.operation? = some (.request d.message.demand) := by
    simp only [ClientMessage.operation?, kind]
  obtain ⟨answer, answered, rfl⟩ := answer_of_reply asks handled
  obtain ⟨said, _, _⟩ := Outcome.written_of_ok answered
  obtain ⟨call, read⟩ : ∃ call : Call, call.operation = .ok (.request d.message.demand) :=
    Operation.exists_call fun _ same => by cases same
  let t : Turn := ⟨d.now, call⟩
  have run : t.run l = ((Operation.request d.message.demand).run d.now l).written :=
    Ledger.run_of_read read l
  rw [(handle_of_operation asks l).2]
  cases found : (l.request d.now d.message.demand).answer with
  | ok lease =>
    have same : answer = .lease lease := by
      rw [← said, Operation.run, Outcome.map_answer, found, Answer.ofLease]
    subst same
    have granted : (t.run l).answer = .ok (.lease lease) := run ▸ answered
    have alive := (Ledger.alive_iff_of_granted orderly right read granted).mpr (.inl (by omega))
    have sole := Ledger.sole_of_granted orderly read granted
    rw [run] at sole
    have kept : ¬ d.IsRefused l := by
      rintro ⟨refusal, refused⟩
      cases answered.symm.trans refused
    have other : d.message.kind ≠ .discover := by
      rw [kind]
      decide
    have acked : d.message.reply? (.lease lease) = some (.ack lease) :=
      ClientMessage.reply?_eq_ack.mpr ⟨other, rfl⟩
    rw [acked]
    exact tells_of_ack kind alive sole kept
  | error refusal =>
    have same : answer = .refused refusal := by
      rw [← said, Operation.run, Outcome.map_answer, found, Answer.ofLease]
    subst same
    have naked : d.message.reply? (.refused refusal) =
        if d.message.requested.isSome then some (.nak refusal) else none := by
      simp only [ClientMessage.reply?, kind, true_and]
    rw [naked]
    exact tells_of_refusal kind ⟨refusal, answered⟩ refusal
      (Ledger.refusal_spares orderly answered)

theorem tells_of_release {a : Address} (kind : d.message.kind = .release)
    (source : d.message.source = some a) (handled : (d.handle l).answer = .ok reply) :
    d.Tells l (d.handle l).ledger reply := by
  have asks : d.message.operation? = some (.release d.message.client a) := by
    simp only [ClientMessage.operation?, kind, source, Option.map_some]
  obtain ⟨answer, answered, rfl⟩ := answer_of_reply asks handled
  obtain ⟨said, _, _⟩ := Outcome.written_of_ok answered
  have quiet : d.message.reply? answer = none := by
    rw [← said]
    rfl
  rw [quiet]
  refine tells_of_silence ?_ fun other => absurd kind other
  rw [kind]
  decide

theorem tells_of_decline {a : Address} (kind : d.message.kind = .decline)
    (requested : d.message.requested = some a) (handled : (d.handle l).answer = .ok reply) :
    d.Tells l (d.handle l).ledger reply := by
  have asks : d.message.operation? = some (.decline a) := by
    simp only [ClientMessage.operation?, kind, requested, Option.map_some]
  obtain ⟨answer, answered, rfl⟩ := answer_of_reply asks handled
  obtain ⟨said, _, _⟩ := Outcome.written_of_ok answered
  have quiet : d.message.reply? answer = none := by
    rw [← said]
    rfl
  rw [quiet, (handle_of_operation asks l).2]
  refine tells_of_silence ?_ fun _ => Ledger.decline_spares d.now a l
  rw [kind]
  decide

theorem tells_of_nothing (asks : d.message.operation? = none)
    (handled : (d.handle l).answer = .ok reply) : d.Tells l (d.handle l).ledger reply := by
  obtain ⟨said, left⟩ := handle_of_nothing asks l
  cases said.symm.trans handled
  rw [left]
  refine tells_of_silence ⟨fun kind => ?_, fun kind => ?_⟩ fun _ => ⟨.refl _, fun _ he _ => he⟩
  · simp [ClientMessage.operation?, kind] at asks
  · simp [ClientMessage.operation?, kind] at asks

theorem tells_of_handle (orderly : l.Orderly) (right : l.Bounded)
    (lasts : 1 ≤ l.pool.leaseTime) (handled : (d.handle l).answer = .ok reply) :
    d.Tells l (d.handle l).ledger reply := by
  have asking := d.message.asking
  generalize asks : d.message.operation? = op at asking
  cases asking with
  | discover kind => exact tells_of_discover orderly kind handled
  | request kind => exact tells_of_request orderly right lasts kind handled
  | release kind source => exact tells_of_release kind source handled
  | decline kind requested => exact tells_of_decline kind requested handled
  | nothing unaddressed => exact tells_of_nothing asks handled

/- When everything can be put into words. -/

theorem prolonged_writable {due : Int} {hostname : Value}
    (old : Numeral.isWritable lease.expiration = true) (new : Numeral.isWritable due = true) :
    Numeral.isWritable (lease.prolonged due hostname).expiration = true := by
  have time : (lease.prolonged due hostname).expiration = max lease.expiration due := rfl
  rcases Int.le_total lease.expiration due with later | earlier
  · rw [time, Int.max_eq_right later]
    exact new
  · rw [time, Int.max_eq_left earlier]
    exact old

/-- Nothing is too long for words where no lease is and a new one would not be. -/
theorem not_stalls_of_worded (worded : l.Worded)
    (due : Numeral.isWritable (d.now + l.pool.leaseTime) = true) : ¬ d.Stalls l := by
  obtain ⟨pool, shed⟩ := (Ledger.sweep_leaves d.now l).1
  have fit {long : Int} (same : long = d.now + l.pool.leaseTime)
      (short : Numeral.isWritable long = false) : False := by
    rw [same, due] at short
    cases short
  have renewed {e : Address × Lease} {hostname : Value} (held : e ∈ l.committed.entries)
      (short : Numeral.isWritable
        (e.2.prolonged (d.now + l.pool.leaseTime) hostname).expiration = false) : False := by
    rw [prolonged_writable (worded e held) due] at short
    cases short
  -- what has to be said is the end of a lease that was there, or of a new one
  rintro ⟨op, _, stalls⟩
  cases stalls with
  | offerSweep long => exact long (worded.clears d.now)
  | requestSweep long => exact long (worded.clears d.now)
  | offer choice long =>
    rw [← pool] at fit renewed
    cases choice with
    | own entry its => exact renewed (shed.committed.mem entry) long
    | wished without wish untaken => exact fit rfl long
    | searched seeks around passed free => exact fit rfl long
    | recycled seeks nothing declines passed untaken => exact fit rfl long
  | request obtained long =>
    cases obtained with
    | selected takes free => exact fit rfl long
    | renewed confirms entry its => exact renewed (Roster.mem_filter.mp entry).1 long
    | made confirms assigns free => exact fit rfl long
  | release entry its long =>
    rw [worded _ entry] at long
    cases long
  | decline inside fresh long => exact fit rfl long

end Delivery

namespace Ledger

theorem within_handling {l : Ledger} {start last : Int} {ds : List Delivery}
    (orderly : l.Orderly) (within : l.Within start last)
    (span : ∀ d ∈ ds, start ≤ d.now ∧ d.now ≤ last) : (l.handling ds).Within start last := by
  obtain ⟨turns, made, same⟩ := handling_eq_after l ds
  rw [same]
  refine within_after orderly within (fun t ht => ?_) fun t ht => (made t ht).1
  obtain ⟨_, d, hd, now⟩ := made t ht
  exact now ▸ span d hd

/-- Whatever messages have come in to a server whose leases last, a message is handled without a
fault unless it makes the server put into words what is too long for them, which it never does while
the clock is far enough from there; and what is replied to it is so. An offer or nothing is replied
to a discovery; a confirmation, a refusal or nothing to a request; and nothing to all other messages.
What is confirmed to a client is the one lease that it has then. A request is refused, or met with
silence, if and only if the ledger refuses it, depending on whether it asks for an address. Where
nothing is confirmed, only leases that have ended are struck out, unless by a release. -/
theorem replies_truthful (pool : Pool) (lasts : 1 ≤ pool.leaseTime) (ds : List Delivery)
    (d : Delivery) :
    let l := (opening pool).ledger.handling ds
    let o := d.handle l
    (∀ fault, o.answer = .error fault ↔ fault = .longNumber ∧ d.Stalls l) ∧
    (∀ start last, Numeral.isWritable start = true →
      Numeral.isWritable (last + pool.leaseTime) = true →
      (∀ e ∈ d :: ds, start ≤ e.now ∧ e.now ≤ last) → ¬ d.Stalls l) ∧
    ∀ reply, o.answer = .ok reply → d.Tells l o.ledger reply := by
  intro l o
  obtain ⟨orderly, right, _, _, stays⟩ := sound_handling pool ds
  refine ⟨fun fault => ⟨fun failed => ?_, ?_⟩, fun start last began ends span => ?_,
    fun reply handled => ?_⟩
  · cases Delivery.fault_of_handle failed
    exact ⟨rfl, (Delivery.stalls_iff orderly right).mp failed⟩
  · rintro ⟨rfl, stalls⟩
    exact (Delivery.stalls_iff orderly right).mpr stalls
  · obtain ⟨⟨early, late⟩, others⟩ := List.forall_mem_cons.mp span
    have within : l.Within start last :=
      within_handling (orderly_fresh pool) (within_fresh start last pool) others
    have lasting : l.pool = pool := stays
    refine Delivery.not_stalls_of_worded (fun e he => ?_) ?_
    · obtain ⟨above, below⟩ := within e he
      rw [lasting] at below
      exact Numeral.isWritable_between began ends above below
    · rw [lasting]
      exact Numeral.isWritable_between began ends (by omega) (by omega)
  · exact Delivery.tells_of_handle orderly right (stays ▸ lasts) handled

/-- A second client requests an address that a first one has. -/
theorem contest_refused :
    let asks (now : Int) (c : Client) : Delivery :=
      ⟨now, .request, c, none, none, some (.home 10), true, .null⟩
    let l := (opening (.home 1000)).ledger.handling [asks 0 (.plain 1)]
    let d := asks 500 (.plain 2)
    ¬ d.Stalls l ∧ d.IsRefused l ∧ ∃ refusal, (d.handle l).answer = .ok (some (.nak refusal)) := by
  intro asks l d
  have said : (d.handle l).answer.toOption.join.map Reply.kind = some .nak := by decide +kernel
  obtain ⟨_, calm, told⟩ :=
    replies_truthful (.home 1000) (by decide) [asks 0 (.plain 1)] d
  have quiet : ¬ d.Stalls l := by
    refine calm 0 500 (by decide +kernel) (by decide +kernel) ?_
    exact List.forall_mem_cons.mpr ⟨by decide, List.forall_mem_singleton.mpr (by decide)⟩
  cases handled : (d.handle l).answer with
  | error fault =>
    rw [handled] at said
    cases said
  | ok reply =>
    rw [handled] at said
    have tells := told reply handled
    obtain rfl | ⟨lease, rfl⟩ | ⟨refusal, rfl⟩ := tells.request rfl
    · cases said
    · cases said
    · exact ⟨quiet, ((tells.refused rfl).mp ⟨refusal, rfl⟩).1, refusal, rfl⟩

/-- A client could be confirmed a lease, but the end of it is too long for words. -/
theorem confirmation_fails :
    let l := (opening (.home (10 ^ 4300 - 1))).ledger.handling []
    let d : Delivery := ⟨1, .request, .plain 1, none, none, some (.home 10), true, .null⟩
    1 ≤ l.pool.leaseTime ∧ (d.handle l).answer = .error .longNumber := by
  intro l d
  let lease : Lease := ⟨.plain 1, .home 10, 1 + (l.pool.leaseTime : Int), .null⟩
  have long : Numeral.isWritable lease.expiration = false := by decide +kernel
  have free : l.pool.Selectable (l.live 1) (Client.plain 1).identity (.home 10) := by
    decide +kernel
  have due : d.message.demand.Due 1 l.pool (l.live 1) lease := .selected ⟨rfl, rfl⟩ free
  have orderly : l.Orderly := orderly_fresh _
  have right : l.Bounded := bounded_fresh _
  have stalls : d.Stalls l := ⟨.request d.message.demand, rfl, .request due long⟩
  exact ⟨by decide +kernel, (Delivery.stalls_iff orderly right).mpr stalls⟩

end Ledger
end LeaseBook
