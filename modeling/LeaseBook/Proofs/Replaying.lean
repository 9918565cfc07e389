import LeaseBook.Proofs.Clearing
import LeaseBook.Proofs.Dispatch
import LeaseBook.Proofs.Renewal
import LeaseBook.Proofs.Store
import LeaseBook.Scenario

/-!
The leases behind a scenario are what the replies say. A lease that has not ended is in the ledger
because it was confirmed, and is gone only if its client was confirmed another one since or has
released it; whatever else messages do, and whenever the ledger is swept, makes no difference.
-/

namespace LeaseBook

def Answer.places? : Answer → Option (List Address)
  | .leases ls => some (ls.map Lease.address)
  | _ => none

/-- A message, the instant at which it arrived, and the reply to it. -/
structure Dispatch where
  delivery : Delivery
  reply : Option Reply

namespace Dispatch

/-- Whether a message of a client comes with a lease in the place of the one that the client may
have on an address, or releases it. -/
def Parts (x : Dispatch) (i : Identity) (a : Address) : Prop :=
  x.delivery.message.client.identity = i ∧
    ((∃ lease, x.reply = some (.ack lease)) ∨
      x.delivery.message.kind = .release ∧ x.delivery.message.source = some a)

/-- Whether a lease was confirmed in a history, and its client has neither been confirmed one since
nor released it. -/
def Standing (log : List Dispatch) (lease : Lease) : Prop :=
  ∃ before x after, log = before ++ x :: after ∧ x.reply = some (.ack lease) ∧
    ∀ y ∈ after, ¬ y.Parts x.delivery.message.client.identity lease.address

def row (x : Dispatch) : EventRow :=
  ⟨x.delivery.now, x.delivery.message.kind, x.delivery.message.client.hardware, x.reply⟩

end Dispatch

namespace Ledger

variable {l m : Ledger} {now : Int} {a : Address} {c : Client} {q : Demand} {answer : Answer}
  {e : Address × Lease}

/- What one operation does to the leases that have not ended. -/

theorem mem_request (orderly : l.Orderly)
    (answered : ((Operation.request q).run now l).written.answer = .ok answer)
    (alive : now < e.2.expiration) :
    e ∈ ((Operation.request q).run now l).written.ledger.committed.entries ↔
      (∃ lease, answer = .lease lease ∧ e = (lease.address, lease)) ∨
      e ∈ l.committed.entries ∧
        ¬ (e.2.client.identity = q.client.identity ∧ ∃ lease, answer = .lease lease) := by
  have live : ¬ Ended now e := Int.not_le.mpr alive
  have entered := request_entered orderly now q
  rw [answered] at entered
  generalize ((Operation.request q).run now l).written.ledger = n at entered ⊢
  cases entered with
  | nothing pool shed denied =>
    have unleased (lease : Lease) : answer ≠ .lease lease :=
      fun same => denied lease (congrArg Except.ok same)
    constructor
    · exact fun he => .inr ⟨shed.committed.mem he, fun ⟨_, lease, same⟩ => unleased lease same⟩
    · rintro (⟨lease, same, _⟩ | ⟨he, _⟩)
      · exact absurd same (unleased lease)
      · exact shed.spared e he live
  | @lease lease m pool shed stays fits granted =>
    have said : answer = .lease lease := by
      split at granted
      · exact Except.ok.inj granted
      · cases granted
    subst said
    rw [mem_commit (shed.orderly orderly)]
    constructor
    · rintro (rfl | ⟨he, apart⟩)
      · exact .inl ⟨lease, rfl, rfl⟩
      · refine .inr ⟨shed.committed.mem he, fun ⟨its, _⟩ => ?_⟩
        exact apart ((fits.sole e he).mpr its)
    · rintro (⟨_, same, rfl⟩ | ⟨he, other⟩)
      · cases same
        exact .inl rfl
      · have foreign : e.2.client.identity ≠ q.client.identity :=
          fun its => other ⟨its, lease, rfl⟩
        have stays := shed.spared e he fun gone => gone.elim live foreign
        exact .inr ⟨stays, fun here => foreign ((fits.sole e stays).mp here)⟩

theorem mem_release (orderly : l.Orderly) :
    e ∈ (l.release c a).ledger.committed.entries ↔
      e ∈ l.committed.entries ∧ ¬ (e.2.client.identity = c.identity ∧ e.1 = a) := by
  rcases release_cases orderly c a with ⟨lease, filed, its, released⟩ | ⟨foreign, ignored⟩
  · rw [released]
    refine Roster.mem_erase.trans (and_congr_right fun he => not_congr ⟨fun here => ?_, And.right⟩)
    subst here
    cases Roster.record_unique orderly.distinct he filed
    exact ⟨its, rfl⟩
  · rw [ignored]
    refine ⟨fun he => ⟨he, fun ⟨its, here⟩ => ?_⟩, And.left⟩
    subst here
    exact foreign e.2 he its

theorem mem_of_swept (shed : Sheds (Ended now) l m) (alive : now < e.2.expiration) :
    e ∈ m.committed.entries ↔ e ∈ l.committed.entries :=
  ⟨fun he => shed.committed.mem he, fun he => shed.spared e he (Int.not_le.mpr alive)⟩

end Ledger

namespace Dispatch

variable {l n : Ledger} {lease : Lease} {x : Dispatch} {answer : Answer}

/-- What a message does to a lease: the lease is there behind it if the message confirmed it, or if
it was there before and the message did not part the client from it. -/
def Moves (x : Dispatch) (lease : Lease) (l n : Ledger) : Prop :=
  (lease.address, lease) ∈ n.committed.entries ↔
    x.reply = some (.ack lease) ∨ (lease.address, lease) ∈ l.committed.entries ∧
      ¬ x.Parts lease.client.identity lease.address

theorem moves_of_kept
    (same : (lease.address, lease) ∈ n.committed.entries ↔
      (lease.address, lease) ∈ l.committed.entries)
    (unconfirmed : ∀ other, x.reply ≠ some (.ack other))
    (unreleased : x.delivery.message.kind = .release →
      x.delivery.message.source ≠ some lease.address) : x.Moves lease l n := by
  have kept : ¬ x.Parts lease.client.identity lease.address := by
    rintro ⟨_, ⟨other, confirmed⟩ | ⟨kind, source⟩⟩
    · exact unconfirmed other confirmed
    · exact unreleased kind source
  exact same.trans ⟨fun there => .inr ⟨there, kept⟩,
    fun moved => (moved.resolve_left (unconfirmed lease)).1⟩

theorem moves_of_request (orderly : l.Orderly) {now : Int}
    (kind : x.delivery.message.kind = .request)
    (answered : ((Operation.request x.delivery.message.demand).run now l).written.answer =
      .ok answer)
    (confirmed : ∀ other, x.reply = some (.ack other) ↔ answer = .lease other)
    (alive : now < lease.expiration) :
    x.Moves lease l ((Operation.request x.delivery.message.demand).run now l).written.ledger := by
  have entry := Ledger.mem_request (e := (lease.address, lease)) orderly answered alive
  have here : (∃ other, answer = .lease other ∧ (lease.address, lease) = (other.address, other)) ↔
      x.reply = some (.ack lease) := by
    rw [confirmed]
    constructor
    · rintro ⟨other, said, same⟩
      obtain rfl : lease = other := congrArg Prod.snd same
      exact said
    · exact fun said => ⟨lease, said, rfl⟩
  have parts : x.Parts lease.client.identity lease.address ↔
      lease.client.identity = x.delivery.message.demand.client.identity ∧
        ∃ other, answer = .lease other := by
    unfold Parts
    simp only [kind, confirmed, reduceCtorEq, false_and, or_false, eq_comm]
    rfl
  unfold Moves
  rw [entry, here, parts]

theorem moves_of_release (orderly : l.Orderly) {a : Address}
    (kind : x.delivery.message.kind = .release) (source : x.delivery.message.source = some a)
    (unconfirmed : ∀ other, x.reply ≠ some (.ack other)) :
    x.Moves lease l (l.release x.delivery.message.client a).ledger := by
  have parts : x.Parts lease.client.identity lease.address ↔
      lease.client.identity = x.delivery.message.client.identity ∧ lease.address = a := by
    unfold Parts
    simp only [unconfirmed, exists_false, kind, source, true_and, false_or, Option.some.injEq,
      eq_comm]
  unfold Moves
  rw [Ledger.mem_release orderly, parts]
  exact ⟨.inr, fun moved => moved.resolve_left (unconfirmed lease)⟩

end Dispatch

namespace Ledger

/-- Every message that goes through does to a lease that has not ended what its reply says. -/
theorem handle_moves {l : Ledger} (orderly : l.Orderly) {d : Delivery} {reply : Option Reply}
    (handled : (d.handle l).answer = .ok reply) {lease : Lease} (alive : d.now < lease.expiration) :
    Dispatch.Moves ⟨d, reply⟩ lease l (d.handle l).ledger := by
  have asking := d.message.asking
  cases asks : d.message.operation? with
  | none =>
    obtain ⟨replied, left⟩ := Delivery.handle_of_nothing asks l
    obtain rfl : none = reply := Except.ok.inj (replied.symm.trans handled)
    rw [left]
    rw [asks] at asking
    cases asking with
    | nothing unaddressed =>
      refine Dispatch.moves_of_kept Iff.rfl nofun fun kind => ?_
      rw [unaddressed kind]
      exact nofun
  | some op =>
    rw [(Delivery.handle_of_operation asks l).2]
    obtain ⟨answer, answered, rfl⟩ := Delivery.answer_of_reply asks handled
    rw [asks] at asking
    cases asking with
    | discover kind =>
      have unconfirmed (other : Lease) : d.message.reply? answer ≠ some (.ack other) :=
        fun replied => (ClientMessage.reply?_eq_ack.mp replied).1 kind
      refine Dispatch.moves_of_kept ?_ unconfirmed fun other => nomatch kind.symm.trans other
      have effect : Effect d.now l (.offer d.message.discovery) (.ok answer)
          ((Operation.offer d.message.discovery).run d.now l).written.ledger := .offer _ _ _
      cases effect with
      | swept _ _ shed => exact mem_of_swept shed alive
    | request kind =>
      refine Dispatch.moves_of_request orderly kind answered (fun other => ?_) alive
      rw [ClientMessage.reply?_eq_ack]
      exact and_iff_right fun same => nomatch kind.symm.trans same
    | @release a kind source =>
      obtain ⟨said, left, _⟩ := Outcome.written_of_ok answered
      rw [left]
      refine Dispatch.moves_of_release orderly kind source fun other replied => ?_
      cases said.trans (ClientMessage.reply?_eq_ack.mp replied).2
    | @decline a kind requested =>
      obtain ⟨said, left, _⟩ := Outcome.written_of_ok answered
      have unconfirmed (other : Lease) : d.message.reply? answer ≠ some (.ack other) :=
        fun replied => nomatch said.trans (ClientMessage.reply?_eq_ack.mp replied).2
      refine Dispatch.moves_of_kept ?_ unconfirmed fun other => nomatch kind.symm.trans other
      rw [decline_written, decline_committed]

/-- A run of messages that all go through, with what it leaves behind. -/
inductive Handles : Ledger → List Dispatch → Ledger → Prop
  | nil (l : Ledger) : Handles l [] l
  | cons {l m : Ledger} {d : Delivery} {reply : Option Reply} {log : List Dispatch}
      (handled : (d.handle l).answer = .ok reply) (later : Handles (d.handle l).ledger log m) :
      Handles l (⟨d, reply⟩ :: log) m

theorem standing_cons {x : Dispatch} {log : List Dispatch} {lease : Lease} :
    Dispatch.Standing (x :: log) lease ↔ Dispatch.Standing log lease ∨
      x.reply = some (.ack lease) ∧
        ∀ y ∈ log, ¬ y.Parts x.delivery.message.client.identity lease.address := by
  constructor
  · rintro ⟨before, y, after, split, confirmed, kept⟩
    cases before with
    | nil =>
      cases split
      exact .inr ⟨confirmed, kept⟩
    | cons z before =>
      cases split
      exact .inl ⟨before, y, after, rfl, confirmed, kept⟩
  · rintro (⟨before, y, after, rfl, confirmed, kept⟩ | ⟨confirmed, kept⟩)
    · exact ⟨x :: before, y, after, rfl, confirmed, kept⟩
    · exact ⟨[], x, log, rfl, confirmed, kept⟩

theorem orderly_handle {l : Ledger} (orderly : l.Orderly) (d : Delivery) :
    (d.handle l).ledger.Orderly := by
  rcases d.idle_or_calls with ⟨_, idle⟩ | ⟨op, t, calls⟩
  · rw [(idle l).2]
    exact orderly
  · rw [calls.ledger]
    exact orderly_turn orderly t

theorem bounded_handle {l : Ledger} (orderly : l.Orderly) (right : l.Bounded) (d : Delivery) :
    (d.handle l).ledger.Bounded := by
  rcases d.idle_or_calls with ⟨_, idle⟩ | ⟨op, t, calls⟩
  · rw [(idle l).2]
    exact right
  · rw [calls.ledger]
    exact bounded_turn orderly right t

theorem worded_handle {l : Ledger} (orderly : l.Orderly) (worded : l.Worded) {d : Delivery}
    {reply : Option Reply} (handled : (d.handle l).answer = .ok reply) :
    (d.handle l).ledger.Worded := by
  rcases d.idle_or_calls with ⟨_, idle⟩ | ⟨op, t, calls⟩
  · rw [(idle l).2]
    exact worded
  · rw [calls.ledger]
    refine worded_turn orderly worded fun q _ failed => ?_
    rw [calls.answer, failed] at handled
    cases handled

theorem client_of_ack {l : Ledger} (orderly : l.Orderly) {d : Delivery} {lease : Lease}
    (handled : (d.handle l).answer = .ok (some (.ack lease))) :
    lease.client.identity = d.message.client.identity := by
  have asking := d.message.asking
  cases asks : d.message.operation? with
  | none => cases handled.symm.trans (Delivery.handle_of_nothing asks l).1
  | some op =>
    obtain ⟨answer, answered, replied⟩ := Delivery.answer_of_reply asks handled
    obtain ⟨other, rfl⟩ := ClientMessage.reply?_eq_ack.mp replied
    obtain ⟨said, _, _⟩ := Outcome.written_of_ok answered
    rw [asks] at asking
    cases asking with
    | discover kind => exact absurd kind other
    | request kind =>
      obtain ⟨_, _, _, fits, _, _⟩ := request_granted orderly answered
      exact fits.client
    | release kind source => cases said
    | decline kind requested => cases said

theorem Handles.sound {l m : Ledger} {log : List Dispatch} (run : Handles l log m)
    (orderly : l.Orderly) (right : l.Bounded) (worded : l.Worded) :
    m.Orderly ∧ m.Bounded ∧ m.Worded := by
  induction run with
  | nil l => exact ⟨orderly, right, worded⟩
  | cons handled later ih =>
    exact ih (orderly_handle orderly _) (bounded_handle orderly right _)
      (worded_handle orderly worded handled)

/-- Behind a run, a lease that has not ended is there if it is the last one that its client was
confirmed and was not released since, or if it was there before and nothing parted the client from
it. -/
theorem Handles.mem_iff {l m : Ledger} {log : List Dispatch} (run : Handles l log m)
    (orderly : l.Orderly) {lease : Lease} (alive : ∀ x ∈ log, x.delivery.now < lease.expiration) :
    (lease.address, lease) ∈ m.committed.entries ↔ Dispatch.Standing log lease ∨
      (lease.address, lease) ∈ l.committed.entries ∧
        ∀ x ∈ log, ¬ x.Parts lease.client.identity lease.address := by
  induction run with
  | nil l =>
    have nothing : ¬ Dispatch.Standing [] lease := by
      rintro ⟨before, x, after, split, _⟩
      cases before <;> cases split
    simp [nothing]
  | @cons l m d reply log handled later ih =>
    obtain ⟨first, others⟩ := List.forall_mem_cons.mp alive
    have step := handle_moves orderly handled first
    unfold Dispatch.Moves at step
    -- the client of a lease is also the one whose message confirmed it
    have whose : reply = some (.ack lease) ∧
          (∀ x ∈ log, ¬ x.Parts lease.client.identity lease.address) ↔
        reply = some (.ack lease) ∧
          ∀ x ∈ log, ¬ x.Parts d.message.client.identity lease.address :=
      and_congr_right fun confirmed => by rw [client_of_ack orderly (confirmed ▸ handled)]
    rw [ih (orderly_handle orderly d) others, step, standing_cons, List.forall_mem_cons,
      or_and_right, whose, or_assoc, and_assoc]

/-- What a ledger lists that is orderly and can be put into words: the leases that have not ended,
each of another client. -/
theorem listed_of_worded {l : Ledger} (orderly : l.Orderly) (right : l.Bounded)
    (worded : l.Worded) (now : Int) :
    ∃ leases, (Turn.run ⟨now, .committed⟩ l).answer = .ok (.leases leases) ∧
      leases.Pairwise (fun x y => x.client.identity ≠ y.client.identity) ∧
      ∀ lease, lease ∈ leases ↔
        (lease.address, lease) ∈ l.committed.entries ∧ now < lease.expiration := by
  have all := (sweep_writable_iff right).mpr (worded.clears now)
  have swept : (l.sweep now).ledger.Orderly := orderly_sweep orderly now
  have cleared := sweep_cleared right now
  refine ⟨(l.sweep now).ledger.committed.records, ?_, swept.pairwise, fun lease => ?_⟩
  · have read : (Turn.mk now .committed).call.operation = .ok .committed := rfl
    rw [run_of_read read]
    exact Outcome.written_andThen all Answer.leases
  · rw [Roster.mem_records, cleared.committed]
    constructor
    · rintro ⟨a, entry⟩
      obtain ⟨old, live⟩ := Roster.mem_filter.mp entry
      have key : lease.address = a := orderly.keyed _ old
      exact ⟨key ▸ old, keepsLease_iff.mp live⟩
    · rintro ⟨old, live⟩
      exact ⟨lease.address, Roster.mem_filter.mpr ⟨old, keepsLease_iff.mpr live⟩⟩

end Ledger

namespace Play

variable {clock : Clock} {l : Ledger} {items : List Value}

theorem readEvent_eq_ok {v : Value} {later : Clock} {m : ClientMessage}
    (read : readEvent clock v = .ok (later, m)) :
    ClientMessage.ofValue v = .ok m ∧ clock.now ≤ later.now := by
  cases v with
  | object fields =>
    simp only [readEvent, bind, Except.bind] at read
    split at read
    · cases read
    · split at read
      · cases read
      · rename_i set
        split at read
        · cases read
        · rename_i described
          cases read
          refine ⟨described, ?_⟩
          unfold Clock.set at set
          split at set
          · cases set
          · rename_i forward
            cases set
            exact Int.not_lt.mp forward
  | _ => cases read

section
variable {item : Value} {rest : List Value} {later : Clock} {m : ClientMessage} {fault : Fault}

theorem events_of_unread (read : readEvent clock item = .error fault) :
    events clock l (item :: rest) = ⟨[], clock, l, [], some fault⟩ := by
  rw [events, read]

theorem events_of_unhandled (read : readEvent clock item = .ok (later, m))
    (failed : (Delivery.handle ⟨later.now, m⟩ l).answer = .error fault) :
    events clock l (item :: rest) =
      ⟨[], later, (Delivery.handle ⟨later.now, m⟩ l).ledger,
        (Delivery.handle ⟨later.now, m⟩ l).notes, some fault⟩ := by
  rw [events, read]
  dsimp only
  rw [show (m.handle later.now l).written.answer = _ from failed]
  rfl

theorem events_of_handled {reply : Option Reply} (read : readEvent clock item = .ok (later, m))
    (handled : (Delivery.handle ⟨later.now, m⟩ l).answer = .ok reply) :
    let d : Delivery := ⟨later.now, m⟩
    let played := events later (d.handle l).ledger rest
    events clock l (item :: rest) =
      { played with
        rows := Dispatch.row ⟨d, reply⟩ :: played.rows
        notes := (d.handle l).notes ++ played.notes } := by
  rw [events, read]
  dsimp only
  rw [show (m.handle later.now l).written.answer = _ from handled]
  rfl

end

/-- A play that comes to its end: a run of messages, read off the events one by one, with a row for
each, at instants up to where the clock stands then. -/
structure Comes (clock : Clock) (l : Ledger) (items : List Value) (p : Play)
    (log : List Dispatch) : Prop where
  run : l.Handles log p.ledger
  read : items.map ClientMessage.ofValue = log.map fun x => .ok x.delivery.message
  rows : p.rows = log.map Dispatch.row
  onward : clock.now ≤ p.clock.now
  past : ∀ x ∈ log, x.delivery.now ≤ p.clock.now

theorem exists_comes (whole : (events clock l items).fault = none) :
    ∃ log, Comes clock l items (events clock l items) log := by
  induction items generalizing clock l with
  | nil => exact ⟨[], .nil l, rfl, rfl, Int.le_refl _, List.forall_mem_nil _⟩
  | cons item items ih =>
    cases read : readEvent clock item with
    | error fault =>
      rw [events_of_unread read] at whole
      cases whole
    | ok event =>
      obtain ⟨later, m⟩ := event
      obtain ⟨spelled, onward⟩ := readEvent_eq_ok read
      cases handled : (Delivery.handle ⟨later.now, m⟩ l).answer with
      | error fault =>
        rw [events_of_unhandled read handled] at whole
        cases whole
      | ok reply =>
        rw [events_of_handled read handled] at whole ⊢
        obtain ⟨log, comes⟩ := ih whole
        refine ⟨⟨⟨later.now, m⟩, reply⟩ :: log, .cons handled comes.run, ?_, ?_,
          Int.le_trans onward comes.onward, List.forall_mem_cons.mpr ⟨comes.onward, comes.past⟩⟩
        · rw [List.map_cons, List.map_cons, spelled, comes.read]
        · exact congrArg _ comes.rows

theorem exists_comes_of {v : Option Value} (whole : (eventsOf clock l v).fault = none) :
    ∃ items log, v.map Value.toItems = some (.ok items) ∧
      Comes clock l items (eventsOf clock l v) log := by
  unfold eventsOf at whole ⊢
  cases v with
  | none => cases whole
  | some v =>
    dsimp only at whole ⊢
    cases read : v.toItems with
    | error fault =>
      rw [read] at whole
      cases whole
    | ok items =>
      rw [read] at whole
      obtain ⟨log, comes⟩ := exists_comes whole
      exact ⟨items, log, congrArg some read, comes⟩

/-- Events are played on a pool if and only if its lease time can be put into words. -/
theorem onPool_eq (pool : Pool) (v : Option Value) : onPool pool v =
    if Numeral.isWritable pool.leaseTime = true then
      let played := eventsOf ⟨0⟩ (Ledger.opening pool).ledger v
      .ok { played with notes := .parametersUpdated pool :: played.notes }
    else .error .longNumber := by
  have words : (Ledger.opening pool).notes.all Note.isWritable =
      Numeral.isWritable pool.leaseTime := by
    have notes : (Ledger.opening pool).notes = [.parametersUpdated pool] := rfl
    rw [notes, List.all_cons, List.all_nil, Bool.and_true]
    exact Note.isWritable_of_numbers rfl
  unfold onPool Outcome.written
  rw [words]
  cases Numeral.isWritable pool.leaseTime with
  | true => rfl
  | false => rfl

end Play

/-- A scenario that is played to its end leaves the lease that each client was last confirmed, as
long as it has not ended and the client has not released it since, and nothing else. -/
theorem Scenario.final_leases_confirmed (subnet leaseTime : Value) (s : Scenario) {p : Play}
    (played : s.play subnet leaseTime = .ok p) (whole : p.fault = none) :
    ∃ items log leases, s.events.map Value.toItems = some (.ok items) ∧
      items.map ClientMessage.ofValue = log.map (fun x => .ok x.delivery.message) ∧
      p.rows = log.map Dispatch.row ∧
      (Turn.run ⟨p.clock.now, .committed⟩ p.ledger).answer = .ok (.leases leases) ∧
      leases.Pairwise (fun x y => x.client.identity ≠ y.client.identity) ∧
      ∀ lease, lease ∈ leases ↔ p.clock.now < lease.expiration ∧ Dispatch.Standing log lease := by
  unfold play at played
  cases built : Pool.ofValues (s.subnet.getD subnet) (s.reserved.getD (.list []))
      (s.leaseTime.getD leaseTime) with
  | error fault =>
    rw [built] at played
    cases played
  | ok pool =>
    rw [built] at played
    simp only [bind, Except.bind, Play.onPool_eq] at played
    split at played
    · obtain rfl := Except.ok.inj played
      obtain ⟨items, log, listed, comes⟩ := Play.exists_comes_of whole
      have fresh : (Ledger.opening pool).ledger.Orderly := Ledger.orderly_fresh pool
      obtain ⟨orderly, right, worded⟩ := comes.run.sound fresh (Ledger.bounded_fresh pool) nofun
      generalize Play.eventsOf ⟨0⟩ (Ledger.opening pool).ledger s.events = p
        at comes orderly right worded
      obtain ⟨leases, answered, apart, there⟩ :=
        Ledger.listed_of_worded orderly right worded p.clock.now
      refine ⟨items, log, leases, listed, comes.read, comes.rows, answered, apart, fun lease => ?_⟩
      rw [there, and_comm]
      refine and_congr_right fun alive => ?_
      rw [comes.run.mem_iff fresh fun x hx => Int.lt_of_le_of_lt (comes.past x hx) alive]
      exact or_iff_left fun old => List.not_mem_nil old.1
    · cases played

theorem Scenario.confirmed_lease_listed :
    let s : Scenario :=
      ⟨some (.text "192.168.1.0/24"), none, some (.int 1000), some (.list [
        .object [("at", .int 0), ("type", .text "request"), ("mac", .text "02:00:00:00:00:01"),
          ("requested", .text "192.168.1.10"), ("server_id", .bool true)],
        .object [("at", .int 500), ("type", .text "request"), ("mac", .text "02:00:00:00:00:02"),
          ("requested", .text "192.168.1.20"), ("server_id", .bool true)],
        .object [("at", .int 600), ("type", .text "release"), ("mac", .text "02:00:00:00:00:02"),
          ("src", .text "192.168.1.20")]])⟩
    ∃ p leases, s.play .null .null = .ok p ∧
      (Turn.run ⟨p.clock.now, .committed⟩ p.ledger).answer = .ok (.leases leases) ∧
      leases.map Lease.address = [.home 10] ∧
      ∀ lease ∈ leases, 600 < lease.expiration ∧ ∃ row ∈ p.rows, row.reply = some (.ack lease) := by
  intro s
  have seen : (s.play .null .null).toOption.map (fun p => (p.fault.isNone, p.clock.now,
      (Turn.exchange ⟨p.clock.now, .committed⟩ p.ledger).said? Answer.places?)) =
        some (true, 600, some [.home 10]) := by
    decide +kernel
  cases played : s.play .null .null with
  | error fault =>
    rw [played] at seen
    cases seen
  | ok p =>
    rw [played] at seen
    obtain ⟨ended, clock, listed⟩ : p.fault.isNone = true ∧ p.clock.now = 600 ∧
        (Turn.exchange ⟨p.clock.now, .committed⟩ p.ledger).said? Answer.places? =
          some [.home 10] := by
      simpa [Except.toOption] using seen
    obtain ⟨items, log, leases, _, _, rows, answered, _, there⟩ :=
      Scenario.final_leases_confirmed .null .null s played (Option.isNone_iff_eq_none.mp ended)
    refine ⟨p, leases, rfl, answered, ?_, fun lease filed => ?_⟩
    · change (Turn.run ⟨p.clock.now, .committed⟩ p.ledger).answer.toOption.bind _ = _ at listed
      rw [answered] at listed
      exact Option.some.inj listed
    · obtain ⟨alive, before, x, after, rfl, confirmed, _⟩ := (there lease).mp filed
      refine ⟨clock ▸ alive, x.row, ?_, confirmed⟩
      rw [rows]
      exact List.mem_map_of_mem (List.mem_append_right _ List.mem_cons_self)

end LeaseBook
