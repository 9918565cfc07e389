import LeaseBook.Proofs.Failing
import LeaseBook.Proofs.Searching
import LeaseBook.Proofs.Taking

/-!
An offer that is asked for again is the same, as long as only offers and reads come in between and
nothing ends meanwhile. The search for a new address may take a declined one, and then all older
declines are gone too; but from then on this address is the only one to be found, for every client.
What can differ is whether the end of the lease can be put into words.
-/

namespace LeaseBook

/-- Whether an operation is an offer or a read. -/
def Operation.Looks : Operation → Prop
  | offer _ | committed | declined => True
  | request _ | release _ _ | decline _ | reconfigure _ => False

/-- Whether a call asks for no more than an offer or a read. One that cannot be read asks for
nothing. -/
def Call.Looks (c : Call) : Prop := ∀ op, c.operation = .ok op → op.Looks

/-- An offer may be malformed, but it is nothing else than an offer. -/
theorem Call.operation_offer (id : Option (List UInt8))
    (mac source relay requested hostname : Value) :
    (∃ fault, (offer id mac source relay requested hostname).operation = .error fault) ∨
      ∃ q, (offer id mac source relay requested hostname).operation = .ok (.offer q) := by
  simp only [operation, bind, Except.bind]
  cases mac.toHardware with
  | error fault => exact .inl ⟨fault, rfl⟩
  | ok hardware =>
    cases source.toAddress? with
    | error fault => exact .inl ⟨fault, rfl⟩
    | ok speaker =>
      cases relay.toAddress? with
      | error fault => exact .inl ⟨fault, rfl⟩
      | ok passer =>
        cases requested.toAddress? with
        | error fault => exact .inl ⟨fault, rfl⟩
        | ok wish => exact .inr ⟨⟨⟨id, hardware⟩, speaker, passer, wish, hostname⟩, rfl⟩

/-- Whether two answers are leases on one address, or the same refusal, or the same fault. -/
def Answer.Repeats (x y : Except Fault Answer) : Prop :=
  (∃ lease other, x = .ok (.lease lease) ∧ y = .ok (.lease other) ∧
    other.address = lease.address) ∨
  (∃ refusal, x = .ok (.refused refusal) ∧ y = .ok (.refused refusal)) ∨
  ∃ fault, x = .error fault ∧ y = .error fault

/-- The answer to an offer, if it can be put into words. -/
def Answer.worded : Except Refusal Lease → Except Fault Answer
  | .ok offered =>
    if Numeral.isWritable offered.expiration then .ok (.lease offered) else .error .longNumber
  | .error refusal => .ok (.refused refusal)

theorem Answer.worded_of_writable {lease : Lease}
    (writable : Numeral.isWritable lease.expiration = true) :
    worded (.ok lease) = .ok (.lease lease) := by
  unfold worded
  exact if_pos writable

theorem Answer.worded_of_long {lease : Lease}
    (long : Numeral.isWritable lease.expiration = false) :
    worded (.ok lease) = .error .longNumber := by
  unfold worded
  exact if_neg (Bool.eq_false_iff.mp long)

theorem Answer.worded_lease (lease : Lease) :
    worded (.ok lease) = .ok (.lease lease) ∨ worded (.ok lease) = .error .longNumber := by
  unfold worded
  dsimp only
  split
  · exact .inl rfl
  · exact .inr rfl

theorem Answer.ofLease_of_worded {r : Except Refusal Lease} {answer : Answer}
    (h : worded r = .ok answer) : ofLease r = answer := by
  cases r with
  | error refusal => exact Except.ok.inj h
  | ok lease =>
    rcases worded_lease lease with said | short
    · exact Except.ok.inj (said.symm.trans h)
    · cases short.symm.trans h

theorem Answer.Repeats.fault_iff {x y : Except Fault Answer} (repeats : Repeats x y)
    (fault : Fault) : x = .error fault ↔ y = .error fault := by
  rcases repeats with ⟨lease, other, rfl, rfl, _⟩ | ⟨refusal, rfl, rfl⟩ | ⟨same, rfl, rfl⟩
  · exact iff_of_false nofun nofun
  · exact iff_of_false nofun nofun
  · exact Iff.rfl

theorem Outcome.written_andThen_ledger {α β : Type} {first : Outcome Unit}
    {operation : Ledger → Outcome α} (all : first.notes.all Note.isWritable = true) (f : α → β) :
    ((first.andThen operation).map f).written.ledger =
      ((operation first.ledger).map f).written.ledger := by
  have notes : ((first.andThen operation).map f).notes.all Note.isWritable =
      ((operation first.ledger).map f).notes.all Note.isWritable := by
    simp only [map_notes, andThen, List.all_append, all, Bool.true_and]
  have halted : ((first.andThen operation).map f).halted = (operation first.ledger).halted :=
    if_pos all
  unfold written
  rw [notes, halted]
  split
  · rfl
  · rfl

namespace Ledger

variable {l m : Ledger} {now later last due expiration : Int} {a : Address} {q : Discovery}
  {t : Turn} {turns : List Turn}

/- What does not end meanwhile. -/

/-- Whether nothing in a ledger ends after one instant and up to another. -/
structure Quiet (first last : Int) (l : Ledger) : Prop where
  leases : ∀ e ∈ l.committed.entries, e.2.expiration ≤ first ∨ last < e.2.expiration
  declines : ∀ e ∈ l.declined.entries, e.2 ≤ first ∨ last < e.2

instance (first last : Int) (l : Ledger) : Decidable (l.Quiet first last) :=
  decidable_of_iff ((∀ e ∈ l.committed.entries, e.2.expiration ≤ first ∨ last < e.2.expiration) ∧
      ∀ e ∈ l.declined.entries, e.2 ≤ first ∨ last < e.2)
    ⟨fun ⟨leases, declines⟩ => ⟨leases, declines⟩, fun quiet => ⟨quiet.leases, quiet.declines⟩⟩

/-- Whether everything in a ledger ends after an instant. -/
structure Outlasts (last : Int) (l : Ledger) : Prop where
  leases : ∀ e ∈ l.committed.entries, last < e.2.expiration
  declines : ∀ e ∈ l.declined.entries, last < e.2

theorem Quiet.outlasts (right : l.Bounded) {first : Int} (quiet : l.Quiet first last) :
    (l.sweep first).ledger.Outlasts last := by
  have cleared := sweep_cleared right first
  constructor
  · intro e he
    rw [cleared.committed] at he
    obtain ⟨old, live⟩ := Roster.mem_filter.mp he
    have stands := keepsLease_iff.mp live
    exact (quiet.leases e old).resolve_left (by omega)
  · intro e he
    rw [cleared.declined] at he
    obtain ⟨old, holds⟩ := Roster.mem_filter.mp he
    have stands := of_decide_eq_true holds
    exact (quiet.declines e old).resolve_left (by omega)

theorem Outlasts.of_sublist (outlasts : l.Outlasts last)
    (committed : m.committed.entries.Sublist l.committed.entries)
    (declined : m.declined.entries.Sublist l.declined.entries) : m.Outlasts last :=
  ⟨fun e he => outlasts.leases e (committed.mem he),
    fun e he => outlasts.declines e (declined.mem he)⟩

theorem Outlasts.clears (outlasts : l.Outlasts last) (early : now ≤ last) : l.Clears now :=
  clears_of_lives fun e he => Int.not_le.mpr (Int.lt_of_le_of_lt early (outlasts.leases e he))

theorem Outlasts.book_sweep (outlasts : l.Outlasts last) (right : l.Bounded)
    (early : now ≤ last) : (l.sweep now).ledger.book = l.book := by
  have cleared := sweep_cleared right now
  have committed : (l.sweep now).ledger.committed = l.committed := by
    rw [cleared.committed]
    exact Roster.filter_eq_self fun e he =>
      keepsLease_iff.mpr (Int.lt_of_le_of_lt early (outlasts.leases e he))
  have declined : (l.sweep now).ledger.declined = l.declined := by
    rw [cleared.declined]
    exact Roster.filter_eq_self fun e he =>
      decide_eq_true (Int.lt_of_le_of_lt early (outlasts.declines e he))
  simp only [book, cleared.pool, committed, declined]

/- An offer made twice. -/

/-- What becomes of an offer that is made again: the same refusal, or a lease on the same address
that ends when the first one does or when it is due, if that is later. -/
inductive Again (due : Int) : Except Refusal Lease → Except Refusal Lease → Prop
  | refused (refusal : Refusal) : Again due (.error refusal) (.error refusal)
  | lease {lease other : Lease} (here : other.address = lease.address)
      (time : other.expiration = max lease.expiration due) : Again due (.ok lease) (.ok other)

theorem again_fresh (late : expiration ≤ due) (c : Client) (a : Address) (hostname : Value) :
    Again due (.ok ⟨c, a, expiration, hostname⟩) (.ok ⟨c, a, due, hostname⟩) :=
  .lease rfl (Int.max_eq_right late).symm

theorem again_renewed (late : expiration ≤ due) (current : Lease) (hostname : Value) :
    Again due (.ok (current.renew expiration hostname)) (.ok (current.renew due hostname)) := by
  refine .lease ?_ ?_
  · rw [Lease.renew_address, Lease.renew_address]
  · rw [Lease.renew_expiration, Lease.renew_expiration]
    omega

/-- Whether offers leave the declines alone: a vacant address is not declined, or no declined one is
vacant. -/
def Settled (l : Ledger) : Prop :=
  (∃ a, l.Vacant a ∧ a ∉ l.declined.addresses) ∨ ∀ a ∈ l.declined.addresses, ¬ l.Vacant a

theorem vacant_iff : l.Vacant a ↔ (l.pool.isValid a && l.isAvailable a) = true := by
  rw [Vacant, Bool.and_eq_true]

theorem offerNew_of_settled (settled : l.Settled) : (l.offerNew expiration q).ledger = l := by
  unfold offerNew
  split
  · rfl
  · rename_i nothing
    have declined := freeAddress?_eq_none_iff.mp nothing
    split
    · rename_i a rest found
      rcases settled with ⟨b, vacant, undeclined⟩ | none
      · exact absurd (declined b vacant) undeclined
      · exact absurd (vacant_iff.mpr (Roster.cut?_sublist found).1) (none a (Roster.cut?_mem found))
    · rfl

/-- The declines that an offer of a new address leaves are left alone from then on. -/
theorem offerNew_settled (distinct : l.declined.addresses.Nodup) :
    (l.offerNew expiration q).ledger.Settled := by
  unfold offerNew
  split
  · rename_i a found
    exact .inl ⟨a, freeAddress?_eq_some found⟩
  · split
    · rename_i a rest found
      have vacant : l.Vacant a := vacant_iff.mpr (Roster.cut?_sublist found).1
      exact .inl ⟨a, vacant, (Roster.cut?_eq_some distinct found).1⟩
    · rename_i missed
      refine .inr fun a there vacant => ?_
      have miss := Roster.cut?_eq_none missed a there
      exact absurd (vacant_iff.mp vacant) (Bool.eq_false_iff.mp miss)

/-- A recycled address is the only one that the next search can find. -/
theorem freeAddress?_recycled {h : Hardware} {rest : Roster Int}
    (distinct : l.declined.addresses.Nodup) (nothing : l.freeAddress? h = none)
    (found : l.declined.cut? (fun a => l.pool.isValid a && l.isAvailable a) = some (a, rest))
    (g : Hardware) : freeAddress? { l with declined := rest } g = some a := by
  have declined := freeAddress?_eq_none_iff.mp nothing
  obtain ⟨gone, others⟩ := Roster.cut?_eq_some distinct found
  have vacant : l.Vacant a := vacant_iff.mpr (Roster.cut?_sublist found).1
  cases again : freeAddress? { l with declined := rest } g with
  | none => exact absurd (freeAddress?_eq_none_iff.mp again a vacant) gone
  | some b =>
    obtain ⟨open', undeclined⟩ := freeAddress?_eq_some again
    have old : b ∈ l.declined.addresses := declined b open'
    exact congrArg some ((others b old (vacant_iff.mp open')).resolve_right undeclined)

theorem offerNew_again (distinct : l.declined.addresses.Nodup) (late : expiration ≤ due) :
    Again due (l.offerNew expiration q).answer
      ((l.offerNew expiration q).ledger.offerNew due q).answer := by
  cases free : l.freeAddress? q.client.hardware with
  | some a =>
    simp only [offerNew, free, Outcome.plain_ledger, Outcome.plain_answer]
    exact again_fresh late q.client a q.hostname
  | none =>
    cases cut : l.declined.cut? fun a => l.pool.isValid a && l.isAvailable a with
    | some found =>
      -- the second time the search comes by the address that was taken from the declined ones
      have only := freeAddress?_recycled distinct free cut q.client.hardware
      simp only [offerNew, free, cut, only, Outcome.plain_ledger, Outcome.plain_answer]
      exact again_fresh late q.client found.1 q.hostname
    | none =>
      simp only [offerNew, free, cut, Outcome.plain_ledger, Outcome.plain_answer]
      exact .refused _

/-- An offer is decided by the pool and the leases alone, or a new address is looked for. -/
theorem offerSwept_cases (l : Ledger) (q : Discovery) :
    (∃ (answer : Int → Except Refusal Lease) (notes : Int → List Note),
      (∀ now later, now ≤ later →
        Again (later + l.pool.leaseTime) (answer now) (answer later)) ∧
      ∀ m : Ledger, m.pool = l.pool → m.committed = l.committed → ∀ now,
        m.offerSwept now q = .plain (answer now) m (notes now)) ∨
    ∀ m : Ledger, m.pool = l.pool → m.committed = l.committed → ∀ now,
      m.offerSwept now q = m.offerNew (now + l.pool.leaseTime) q := by
  have own (m : Ledger) (committed : m.committed = l.committed) :
      m.leaseOf q.client = l.leaseOf q.client := by
    unfold leaseOf
    rw [committed]
  have wished (m : Ledger) (pool : m.pool = l.pool) (committed : m.committed = l.committed) :
      q.requested.filter m.isOfferable = q.requested.filter l.isOfferable := by
    have same : m.isOfferable = l.isOfferable := by
      funext a
      simp only [isOfferable, isAvailable, pool, committed]
    rw [same]
  have outside (m : Ledger) (pool : m.pool = l.pool) : m.isOutside = l.isOutside := by
    funext a
    simp only [isOutside, pool]
  cases current : l.leaseOf q.client with
  | some lease =>
    refine .inl ⟨fun now => .ok (lease.renew (now + l.pool.leaseTime) q.hostname),
      fun now => [.offeringExtended (lease.renew (now + l.pool.leaseTime) q.hostname)],
      fun now later late => again_renewed (by omega) lease q.hostname,
      fun m pool committed now => ?_⟩
    simp only [offerSwept, own m committed, current, pool]
  | none =>
    cases wish : q.requested.filter l.isOfferable with
    | some a =>
      refine .inl ⟨fun now => .ok ⟨q.client, a, now + l.pool.leaseTime, q.hostname⟩,
        fun now => [.offeringRequested ⟨q.client, a, now + l.pool.leaseTime, q.hostname⟩],
        fun now later late => again_fresh (by omega) q.client a q.hostname,
        fun m pool committed now => ?_⟩
      simp only [offerSwept, own m committed, current, wished m pool committed, wish, pool]
    | none =>
      cases source : l.isOutside q.source with
      | true =>
        refine .inl ⟨fun _ => .error .sourceOutside, fun _ => [], fun _ _ _ => .refused _,
          fun m pool committed now => ?_⟩
        simp only [offerSwept, own m committed, current, wished m pool committed, wish,
          outside m pool, source, if_true]
      | false =>
        cases relay : l.isOutside q.relay with
        | true =>
          refine .inl ⟨fun _ => .error .relayOutside, fun _ => [], fun _ _ _ => .refused _,
            fun m pool committed now => ?_⟩
          simp only [offerSwept, own m committed, current, wished m pool committed, wish,
            outside m pool, source, relay, if_true, Bool.false_eq_true, if_false]
        | false =>
          refine .inr fun m pool committed now => ?_
          simp only [offerSwept, own m committed, current, wished m pool committed, wish,
            outside m pool, source, relay, Bool.false_eq_true, if_false, pool]

/-- A ledger that offers may have left of another one: pool and leases are the same, and so are the
declines unless an offer can still take one. -/
structure Kept (l m : Ledger) : Prop where
  pool : m.pool = l.pool
  committed : m.committed = l.committed
  declined : l.Settled → m.declined = l.declined

theorem Kept.refl (l : Ledger) : Kept l l := ⟨rfl, rfl, fun _ => rfl⟩

theorem Kept.of_book {n : Ledger} (kept : Kept l m) (same : n.book = m.book) : Kept l n where
  pool := (read_of_book Ledger.pool (fun _ _ => rfl) same).trans kept.pool
  committed := (read_of_book Ledger.committed (fun _ _ => rfl) same).trans kept.committed
  declined := fun settled =>
    (read_of_book Ledger.declined (fun _ _ => rfl) same).trans (kept.declined settled)

theorem Kept.book (kept : Kept l m) (settled : l.Settled) : m.book = l.book := by
  simp only [Ledger.book, kept.pool, kept.committed, kept.declined settled]

theorem offerNew_ledger (expiration : Int) (q : Discovery) (l : Ledger) :
    (l.offerNew expiration q).ledger.pool = l.pool ∧
      (l.offerNew expiration q).ledger.committed = l.committed := by
  unfold offerNew
  split
  · exact ⟨rfl, rfl⟩
  · split
    · exact ⟨rfl, rfl⟩
    · exact ⟨rfl, rfl⟩

theorem Kept.offer (kept : Kept l m) (now : Int) (q : Discovery) :
    Kept l (m.offerSwept now q).ledger := by
  rcases offerSwept_cases m q with ⟨answer, notes, _, decided⟩ | new
  · rw [decided m rfl rfl]
    exact kept
  · rw [new m rfl rfl]
    obtain ⟨pool, committed⟩ := offerNew_ledger (now + m.pool.leaseTime) q m
    refine ⟨pool.trans kept.pool, committed.trans kept.committed, fun settled => ?_⟩
    have still : m.Settled := read_of_book Settled (fun _ _ => rfl) (kept.book settled) ▸ settled
    rw [offerNew_of_settled still]
    exact kept.declined settled

/-- Whatever offers come in between, an offer that is made again is the same. -/
theorem offerSwept_again (distinct : l.declined.addresses.Nodup) (late : now ≤ later)
    (kept : Kept (l.offerSwept now q).ledger m) :
    Again (later + l.pool.leaseTime) (l.offerSwept now q).answer
      (m.offerSwept later q).answer := by
  rcases offerSwept_cases l q with ⟨answer, notes, again, decided⟩ | new
  · rw [decided l rfl rfl] at kept ⊢
    rw [decided m kept.pool kept.committed]
    exact again now later late
  · rw [new l rfl rfl] at kept ⊢
    obtain ⟨pool, committed⟩ := offerNew_ledger (now + l.pool.leaseTime) q l
    -- the first offer has left a settled ledger, which the others have not changed since
    rw [new m (kept.pool.trans pool) (kept.committed.trans committed),
      (offerNew_blind _ q (kept.book (offerNew_settled distinct))).answer]
    exact offerNew_again distinct (by omega)

/- Offers and reads as calls. -/

theorem offerSwept_plain (now : Int) (q : Discovery) (l : Ledger) :
    (l.offerSwept now q).halted = (l.offerSwept now q).ledger := by
  have quoted := offerSwept_quoted now q l
  generalize l.offerSwept now q = o at quoted ⊢
  cases quoted with
  | refused refusal notes => rfl
  | own current found notes words => rfl
  | fresh a rest notes inside valid available fewer words => rfl

/-- An offer whose notes hold no number but the end of the lease fails only because of that. -/
theorem worded_of_notes {notes : List Note} {lease : Lease}
    (digits : notes.all Note.isWritable = Numeral.isWritable lease.expiration) :
    (if notes.all Note.isWritable then .ok (Answer.ofLease (.ok lease)) else .error .longNumber) =
      Answer.worded (.ok lease) := by
  rw [digits]
  rfl

theorem offerSwept_worded (now : Int) (q : Discovery) (l : Ledger) :
    ((l.offerSwept now q).map Answer.ofLease).written.answer =
      Answer.worded (l.offerSwept now q).answer := by
  have one {note : Note} {lease : Lease} (words : note.numbers = [lease.expiration]) :
      [note].all Note.isWritable = Numeral.isWritable lease.expiration := by
    rw [List.all_cons, List.all_nil, Bool.and_true, Note.isWritable_of_numbers words]
  rw [Outcome.written_answer, Outcome.map_notes, Outcome.map_answer]
  unfold offerSwept offerNew
  dsimp only
  split
  · exact worded_of_notes (one rfl)
  · split
    · exact worded_of_notes (one rfl)
    · split
      · exact if_pos rfl
      · split
        · exact if_pos rfl
        · split
          · exact worded_of_notes (one rfl)
          · split
            · -- the note on the address that is recycled holds no number
              have recycled (a : Address) : (Note.recycling a).isWritable = true := rfl
              refine worded_of_notes ?_
              rw [Outcome.plain_notes, List.all_cons, recycled, Bool.true_and]
              exact one rfl
            · exact if_pos rfl

theorem offer_turn (right : l.Bounded) (clears : l.Clears t.now)
    (read : t.call.operation = .ok (.offer q)) :
    (t.run l).answer = Answer.worded ((l.sweep t.now).ledger.offerSwept t.now q).answer ∧
      (t.run l).ledger = ((l.sweep t.now).ledger.offerSwept t.now q).ledger := by
  have all := (sweep_writable_iff right).mpr clears
  have answer : ((Operation.offer q).run t.now l).written.answer = _ :=
    Outcome.written_andThen all Answer.ofLease
  have left : ((Operation.offer q).run t.now l).written.ledger = _ :=
    Outcome.written_andThen_ledger all Answer.ofLease
  rw [run_of_read read, answer, left]
  refine ⟨offerSwept_worded _ _ _, ?_⟩
  rcases Outcome.written_cases (((l.sweep t.now).ledger.offerSwept t.now q).map Answer.ofLease)
    with ⟨_, _, whole⟩ | ⟨_, _, halted⟩
  · exact whole
  · exact halted.trans (offerSwept_plain _ _ _)

theorem offer_turn_of_not_clears (right : l.Bounded) (clears : ¬ l.Clears t.now)
    (read : t.call.operation = .ok (.offer q)) : (t.run l).answer = .error .longNumber := by
  have short := mt (sweep_writable_iff right).mp clears
  rw [run_of_read read, Outcome.written_answer, if_neg]
  intro all
  simp only [Operation.run, offer, Ledger.swept, Outcome.map_notes, Outcome.andThen,
    List.all_append, Bool.and_eq_true] at all
  exact short all.1

theorem ledger_of_read {op : Operation} (reads : op = .committed ∨ op = .declined)
    (read : t.call.operation = .ok op)
    (all : (l.sweep t.now).notes.all Note.isWritable = true) :
    (t.run l).ledger = (l.sweep t.now).ledger := by
  rw [run_of_read read]
  rcases reads with rfl | rfl
  · exact Outcome.written_andThen_ledger all Answer.leases
  · exact Outcome.written_andThen_ledger all fun as => Answer.addresses (Address.sorted as)

/-- Where nothing ends meanwhile, an offer or a read keeps what the next offer depends on. -/
theorem kept_turn {s : Ledger} (right : m.Bounded) (outlasts : m.Outlasts last)
    (kept : Kept s m) (looks : t.call.Looks) (early : t.now ≤ last) :
    (t.run m).ledger.Outlasts last ∧ Kept s (t.run m).ledger := by
  have clears := outlasts.clears early
  have all := (sweep_writable_iff right).mpr clears
  have swept : (m.sweep t.now).ledger.Outlasts last ∧ Kept s (m.sweep t.now).ledger := by
    obtain ⟨_, shed⟩ := (sweep_leaves t.now m).1
    exact ⟨outlasts.of_sublist shed.committed shed.declined,
      kept.of_book (outlasts.book_sweep right early)⟩
  cases read : t.call.operation with
  | error fault =>
    rw [run_of_unread read]
    exact ⟨outlasts, kept⟩
  | ok op =>
    cases op with
    | offer q =>
      obtain ⟨_, left⟩ := offer_turn right clears read
      obtain ⟨_, shed⟩ := (offerSwept_leaves (Ended t.now) t.now q (m.sweep t.now).ledger).1
      rw [left]
      exact ⟨swept.1.of_sublist shed.committed shed.declined, swept.2.offer t.now q⟩
    | committed =>
      rw [ledger_of_read (.inl rfl) read all]
      exact swept
    | declined =>
      rw [ledger_of_read (.inr rfl) read all]
      exact swept
    | request q => exact (looks _ read).elim
    | release c a => exact (looks _ read).elim
    | decline a => exact (looks _ read).elim
    | reconfigure pool => exact (looks _ read).elim

theorem kept_after {s : Ledger} (orderly : m.Orderly) (right : m.Bounded)
    (outlasts : m.Outlasts last) (kept : Kept s m)
    (looks : ∀ t ∈ turns, t.call.Looks ∧ t.now ≤ last) :
    (m.after turns).Outlasts last ∧ Kept s (m.after turns) := by
  refine (after_induction (P := fun m => m.Bounded ∧ m.Outlasts last ∧ Kept s m)
    (fun m t orderly here looks => ?_) orderly ⟨right, outlasts, kept⟩
    (forall_exchanges looks)).2
  obtain ⟨right, outlasts, kept⟩ := here
  exact ⟨bounded_turn orderly right t, kept_turn right outlasts kept looks.1 looks.2⟩

theorem offer_again (orderly : l.Orderly) (right : l.Bounded) {first last : Turn}
    (read : first.call.operation = .ok (.offer q)) (again : last.call = first.call)
    (late : first.now ≤ last.now) (quiet : l.Quiet first.now last.now)
    (clears : l.Clears first.now) (looks : ∀ t ∈ turns, t.call.Looks ∧ t.now ≤ last.now) :
    ∃ r s, Again (last.now + l.pool.leaseTime) r s ∧ (first.run l).answer = Answer.worded r ∧
      (last.run ((first.run l).ledger.after turns)).answer = Answer.worded s := by
  obtain ⟨answered, left⟩ := offer_turn right clears read
  obtain ⟨pool, swept⟩ := (sweep_leaves first.now l).1
  obtain ⟨_, shed⟩ := (offerSwept_leaves (Ended first.now) first.now q (l.sweep first.now).ledger).1
  have outlasts : (first.run l).ledger.Outlasts last.now := by
    rw [left]
    exact (quiet.outlasts right).of_sublist shed.committed shed.declined
  have right' : (first.run l).ledger.Bounded := bounded_turn orderly right first
  have orderly' : (first.run l).ledger.Orderly := orderly_turn orderly first
  have begins : Kept ((l.sweep first.now).ledger.offerSwept first.now q).ledger
      (first.run l).ledger := by
    rw [left]
    exact Kept.refl _
  obtain ⟨stands, kept⟩ := kept_after orderly' right' outlasts begins looks
  have bounded := bounded_after orderly' right' turns
  have same := stands.book_sweep bounded (Int.le_refl _)
  rw [← again] at read
  obtain ⟨repeated, _⟩ := offer_turn bounded (stands.clears (Int.le_refl _)) read
  have settles := offerSwept_again (swept.orderly orderly).declinedDistinct late
    (kept.of_book same)
  rw [pool] at settles
  exact ⟨_, _, settles, answered, repeated⟩

/-- An offer that is made again repeats the answer unless just one of the two is too long. -/
theorem repeats_worded_iff {r s : Except Refusal Lease} (again : Again due r s) :
    Answer.Repeats (Answer.worded r) (Answer.worded s) ↔
      (Answer.worded r = .error .longNumber ↔ Answer.worded s = .error .longNumber) := by
  refine ⟨fun repeats => repeats.fault_iff _, fun alike => ?_⟩
  cases again with
  | refused refusal => exact .inr (.inl ⟨refusal, rfl, rfl⟩)
  | @lease lease other here time =>
    rcases Answer.worded_lease lease with said | short
    · rcases Answer.worded_lease other with repeated | long
      · exact .inl ⟨lease, other, said, repeated, here⟩
      · cases said.symm.trans (alike.mpr long)
    · exact .inr (.inr ⟨_, short, alike.mp short⟩)

/-- An offer that is made again, with only offers and reads in between and nothing that ends
meanwhile, is answered with a lease on the same address, the same refusal or the same fault, unless
one of the two answers and not the other fails because a number in it is too long. A refusal is
repeated in any case; a lease is repeated to the end that is due, as far as that can be put into
words. -/
theorem offer_repeated (pool : Pool) (turns : List Turn) {first last : Turn}
    {id : Option (List UInt8)} {mac source relay requested hostname : Value}
    (asks : first.call = .offer id mac source relay requested hostname)
    (again : last.call = first.call) (late : first.now ≤ last.now) {between : List Turn}
    (looks : ∀ t ∈ between, t.call.Looks ∧ t.now ≤ last.now)
    (quiet : ((opening pool).ledger.after turns).Quiet first.now last.now) :
    let l := (opening pool).ledger.after turns
    let x := (first.run l).answer
    let y := (last.run ((first.run l).ledger.after between)).answer
    (Answer.Repeats x y ↔ (x = .error .longNumber ↔ y = .error .longNumber)) ∧
    (∀ refusal, x = .ok (.refused refusal) → y = .ok (.refused refusal)) ∧
    ∀ lease, x = .ok (.lease lease) → ∃ other : Lease, other.address = lease.address ∧
      other.expiration = max lease.expiration (last.now + l.pool.leaseTime) ∧
      y = if Numeral.isWritable other.expiration then .ok (.lease other)
        else .error .longNumber := by
  intro l x y
  have orderly : l.Orderly := orderly_after (orderly_fresh pool) turns
  have right : l.Bounded := bounded_after (orderly_fresh pool) (bounded_fresh pool) turns
  rcases Call.operation_offer id mac source relay requested hostname with
    ⟨fault, unread⟩ | ⟨q, read⟩
  · have unread : first.call.operation = .error fault := asks ▸ unread
    have failed : x = .error fault := congrArg Outcome.answer (run_of_unread unread l)
    rw [← again] at unread
    have still : y = .error fault := congrArg Outcome.answer (run_of_unread unread _)
    rw [failed, still]
    exact ⟨iff_of_true (.inr (.inr ⟨fault, rfl, rfl⟩)) Iff.rfl, nofun, nofun⟩
  · rw [← asks] at read
    by_cases clears : l.Clears first.now
    · obtain ⟨r, s, settles, answered, repeated⟩ :=
        offer_again orderly right read again late quiet clears looks
      change x = Answer.worded r at answered
      change y = Answer.worded s at repeated
      rw [answered, repeated]
      refine ⟨repeats_worded_iff settles, fun refusal refused => ?_, fun lease offered => ?_⟩
      · cases Answer.ofLease_eq_refused (Answer.ofLease_of_worded refused)
        cases settles
        rfl
      · cases Answer.ofLease_eq_lease (Answer.ofLease_of_worded offered)
        cases settles with
        | @lease _ other here time => exact ⟨other, here, time, rfl⟩
    · have short : x = .error .longNumber := offer_turn_of_not_clears right clears read
      rw [short]
      refine ⟨⟨fun repeats => repeats.fault_iff _, fun alike => ?_⟩, nofun, nofun⟩
      exact .inr (.inr ⟨_, rfl, alike.mp rfl⟩)

theorem offer_repeated_after_contest :
    let l := (opening (.home 1000)).ledger.after [.select 0 (.plain 2) (.home 20)]
    let first := Turn.discover 10 (.plain 1) (.home 10)
    let between := [Turn.discover 300 (.plain 3) (.home 10), ⟨500, .committed⟩]
    let last := Turn.discover 999 (.plain 1) (.home 10)
    ∃ lease other, (first.run l).answer = .ok (.lease lease) ∧
      (last.run ((first.run l).ledger.after between)).answer = .ok (.lease other) ∧
      other.address = lease.address ∧ other.expiration = 1999 := by
  intro l first between last
  have quoted : (first.exchange l).term? = some (.home 10, 1010) := by decide +kernel
  obtain ⟨lease, offered, _, ends⟩ := Turn.answer_of_term? quoted
  have looks : ∀ t ∈ between, t.call.Looks ∧ t.now ≤ last.now := by
    refine List.forall_mem_cons.mpr ⟨⟨fun op read => ?_, by decide⟩,
      List.forall_mem_cons.mpr ⟨⟨fun op read => ?_, by decide⟩, nofun⟩⟩
    · cases read
      trivial
    · cases read
      trivial
  have quiet : l.Quiet first.now last.now := by decide +kernel
  obtain ⟨_, _, repeated⟩ := offer_repeated (.home 1000) [.select 0 (.plain 2) (.home 20)]
    (show first.call = _ from rfl) (show last.call = first.call from rfl) (by decide) looks quiet
  obtain ⟨other, here, time, answered⟩ := repeated lease offered
  have due : other.expiration = 1999 := by
    rw [time, ends]
    decide +kernel
  have digits : Numeral.isWritable other.expiration = true := by
    rw [due]
    decide +kernel
  rw [if_pos digits] at answered
  exact ⟨lease, other, offered, answered, here, due⟩

/-- The end of a lease that is offered again can be too long for words. -/
theorem later_offer_fails :
    let l := (opening (.home (10 ^ 4300 - 1))).ledger
    let first := Turn.discover 0 (.plain 1) (.home 10)
    let last := Turn.discover 1 (.plain 1) (.home 10)
    l.Quiet first.now last.now ∧
      ¬ Answer.Repeats (first.exchange l).answer (last.exchange (first.run l).ledger).answer := by
  intro l first last
  have quoted : (first.exchange l).term? = some (.home 10, 10 ^ 4300 - 1) := by decide +kernel
  have short : (last.exchange (first.run l).ledger).term? = none := by decide +kernel
  obtain ⟨lease, offered, _, _⟩ := Exchange.answer_of_term? quoted
  have unleased := Exchange.not_leased_of_term? short
  refine ⟨by decide +kernel, ?_⟩
  rw [offered]
  rintro (⟨_, other, _, again, _⟩ | ⟨_, refused, _⟩ | ⟨_, failed, _⟩)
  · exact unleased other again
  · cases refused
  · cases failed

end Ledger
end LeaseBook
