import LeaseBook.Proofs.Repeating
import Mathlib.Data.List.Nodup

/-!
Requests that have nothing to do with each other come out the same in either order. A request looks
at the lease of its client and at the one on the address that it asks for, and it changes no other
client's lease; so two clients that ask for different addresses do not notice each other, unless one
has a lease on the address that the other one asks for. What they share is the sweep before the
first of them. If it is cut short, it is the first request that fails, whichever it is.
-/

namespace LeaseBook

/-- The address that a request is for. -/
def Demand.target? (q : Demand) : Option Address := q.requested.or q.source

/-- What a request comes to for a client that has some lease or none: on which address it is to be
confirmed, dropping which lease, and in which words. -/
def Demand.plan (q : Demand) (own : Option Lease) :
    Except Refusal (Address × Option Lease × Note) :=
  match q.requested with
  | some a =>
    if q.serverChosen then .ok (a, own, .selecting a)
    else if Ledger.isElsewhere own a then .error .rebootMismatch
    else .ok (a, none, .rebooting a)
  | none =>
    match q.source with
    | none => .error .noClientAddress
    | some a =>
      if Ledger.isElsewhere own a then .error .renewalMismatch
      else .ok (a, none, .renewing a)

theorem Demand.target_of_plan {q : Demand} {own dropping : Option Lease} {a : Address} {note : Note}
    (planned : q.plan own = .ok (a, dropping, note)) : q.target? = some a := by
  unfold plan at planned
  unfold target?
  split at planned
  · rename_i wish asked
    rw [asked]
    split at planned
    · cases planned
      rfl
    · split at planned
      · cases planned
      · cases planned
        rfl
  · rename_i silent
    rw [silent]
    split at planned
    · cases planned
    · rename_i b speaks
      split at planned
      · cases planned
      · cases planned
        exact speaks

namespace Ledger

variable {l m : Ledger} {now : Int} {a b : Address} {c : Client} {lease : Lease} {p q : Demand}
  {t : Turn}

/-- Whether a client has a lease on an address that has not ended. -/
def Occupies (now : Int) (i : Identity) (a : Address) (l : Ledger) : Prop :=
  ∃ e ∈ l.committed.entries, e.1 = a ∧ e.2.client.identity = i ∧ now < e.2.expiration

instance (now : Int) (i : Identity) (a : Address) (l : Ledger) : Decidable (l.Occupies now i a) :=
  inferInstanceAs (Decidable (∃ e ∈ l.committed.entries, _ ∧ _ ∧ _))

/- What a request looks at. -/

theorem requestSwept_eq (now : Int) (q : Demand) (l : Ledger) :
    l.requestSwept now q =
      match q.plan (l.leaseOf q.client) with
      | .error refusal => .plain (.error refusal) l []
      | .ok (a, dropping, note) => l.confirm now q a dropping note := by
  unfold requestSwept Demand.plan
  dsimp only
  cases q.requested with
  | some wish =>
    dsimp only
    split
    · rfl
    · split
      · rfl
      · rfl
  | none =>
    cases q.source with
    | none => rfl
    | some b =>
      dsimp only
      split
      · rfl
      · rfl

/-- Two ledgers that are the same to a client that asks for an address. -/
structure SameTo (c : Client) (a : Address) (l m : Ledger) : Prop where
  pool : m.pool = l.pool
  own : m.leaseOf c = l.leaseOf c
  there : m.committed.find? a = l.committed.find? a

theorem grant_same (same : SameTo c a l m) (now : Int) (hostname : Value)
    (dropping : Option Lease) :
    m.grant now c a hostname dropping = l.grant now c a hostname dropping := by
  unfold grant holder?
  rw [same.pool, same.there]

theorem confirm_same (same : SameTo q.client a l m) (now : Int) (dropping : Option Lease)
    (note : Note) :
    (m.confirm now q a dropping note).answer = (l.confirm now q a dropping note).answer ∧
      (m.confirm now q a dropping note).notes = (l.confirm now q a dropping note).notes := by
  unfold confirm
  rw [grant_same same]
  split
  · exact ⟨rfl, rfl⟩
  · exact ⟨rfl, rfl⟩

theorem requestSwept_same (target : q.target? = some a) (same : SameTo q.client a l m)
    (now : Int) :
    (m.requestSwept now q).answer = (l.requestSwept now q).answer ∧
      (m.requestSwept now q).notes = (l.requestSwept now q).notes := by
  rw [requestSwept_eq, requestSwept_eq, same.own]
  cases planned : q.plan (l.leaseOf q.client) with
  | error refusal => exact ⟨rfl, rfl⟩
  | ok plan =>
    obtain ⟨b, dropping, note⟩ := plan
    cases (Demand.target_of_plan planned).symm.trans target
    exact confirm_same same now dropping note

theorem address_of_requested (orderly : l.Orderly) (target : q.target? = some a)
    (granted : (l.requestSwept now q).answer = .ok lease) : lease.address = a := by
  rw [requestSwept_eq] at granted
  cases planned : q.plan (l.leaseOf q.client) with
  | error refusal =>
    rw [planned] at granted
    cases granted
  | ok plan =>
    rw [planned] at granted
    obtain ⟨b, dropping, note⟩ := plan
    cases (Demand.target_of_plan planned).symm.trans target
    exact address_of_grant orderly ((confirm_answer ..).symm.trans granted)

/- What a request changes. -/

/-- The bound after a request that is answered in some way. -/
def boundAfter (bound : Int) : Except Refusal Lease → Int
  | .ok lease => min lease.expiration bound
  | .error _ => bound

theorem boundAfter_comm (bound : Int) (first second : Except Refusal Lease) :
    boundAfter (boundAfter bound first) second = boundAfter (boundAfter bound second) first := by
  cases first with
  | error refusal => rfl
  | ok lease =>
    cases second with
    | error refusal => rfl
    | ok other =>
      simp only [boundAfter]
      omega

/-- A request leaves the declines alone, and moves the bound for the lease that it enters. -/
structure Touches (l : Ledger) (o : Outcome (Except Refusal Lease)) : Prop where
  pool : o.ledger.pool = l.pool
  declined : o.ledger.declined = l.declined
  bound : o.ledger.nextCheck = boundAfter l.nextCheck o.answer
  halted : o.halted = o.ledger

theorem confirm_touches (now : Int) (q : Demand) (a : Address) (dropping : Option Lease)
    (note : Note) (l : Ledger) : Touches l (l.confirm now q a dropping note) := by
  unfold confirm
  split
  · exact ⟨rfl, rfl, rfl, rfl⟩
  · cases dropping with
    | none => exact ⟨rfl, rfl, rfl, rfl⟩
    | some old => exact ⟨rfl, rfl, rfl, rfl⟩

theorem requestSwept_touches (now : Int) (q : Demand) (l : Ledger) :
    Touches l (l.requestSwept now q) := by
  rw [requestSwept_eq]
  split
  · exact ⟨rfl, rfl, rfl, rfl⟩
  · exact confirm_touches now q _ _ _ l

/-- A granted request leaves its client one lease, and the leases of all others as they are. -/
theorem mem_requested (orderly : l.Orderly) (now : Int) (q : Demand) (e : Address × Lease) :
    e ∈ (l.requestSwept now q).ledger.committed.entries ↔
      (∃ lease, (l.requestSwept now q).answer = .ok lease ∧ e = (lease.address, lease)) ∨
      e ∈ l.committed.entries ∧ ((l.requestSwept now q).answer.isOk = true →
        e.2.client.identity ≠ q.client.identity) := by
  cases answered : (l.requestSwept now q).answer with
  | error refusal =>
    rw [requestSwept_refused orderly answered]
    constructor
    · intro there
      exact .inr ⟨there, nofun⟩
    · rintro (⟨_, granted, _⟩ | ⟨there, _⟩)
      · cases granted
      · exact there
  | ok lease =>
    obtain ⟨m, _, shed, _, fits, left⟩ := requestSwept_granted orderly answered
    rw [left, mem_commit (shed.orderly orderly)]
    constructor
    · rintro (rfl | ⟨there, apart⟩)
      · exact .inl ⟨lease, rfl, rfl⟩
      · exact .inr ⟨shed.committed.mem there, fun _ its => apart ((fits.sole e there).mpr its)⟩
    · rintro (⟨_, granted, rfl⟩ | ⟨there, foreign⟩)
      · cases granted
        exact .inl rfl
      · have stands := shed.spared e there (foreign rfl)
        exact .inr ⟨stands, fun here => foreign rfl ((fits.sole e stands).mp here)⟩

theorem orderly_requested (orderly : l.Orderly) (now : Int) (q : Demand) :
    (l.requestSwept now q).ledger.Orderly := by
  cases answered : (l.requestSwept now q).answer with
  | error refusal =>
    rw [requestSwept_refused orderly answered]
    exact orderly
  | ok lease =>
    obtain ⟨m, _, shed, _, fits, left⟩ := requestSwept_granted orderly answered
    rw [left]
    exact orderly_commit (shed.orderly orderly) fits

theorem client_of_requested (orderly : l.Orderly)
    (granted : (l.requestSwept now q).answer = .ok lease) :
    lease.client.identity = q.client.identity := by
  obtain ⟨_, _, _, _, fits, _⟩ := requestSwept_granted orderly granted
  exact fits.client

theorem expiration_of_requested_late (orderly : l.Orderly)
    (granted : (l.requestSwept now q).answer = .ok lease) :
    now + l.pool.leaseTime ≤ lease.expiration := by
  obtain ⟨_, pool, _, _, fits, _⟩ := requestSwept_granted orderly granted
  rw [← pool]
  rcases fits.time with ⟨_, time⟩ | ⟨_, _, _, time⟩
  · omega
  · omega

/- Ledgers that a sweep finds nothing to do in. -/

theorem earliest_cases (instants : List Int) :
    earliest instants = Lease.never ∨ earliest instants ∈ instants := by
  have fold (bound : Int) :
      instants.foldl min bound = bound ∨ instants.foldl min bound ∈ instants := by
    induction instants generalizing bound with
    | nil => exact .inl rfl
    | cons i rest ih =>
      rw [List.foldl_cons, List.mem_cons]
      rcases ih (min bound i) with first | later
      · rw [first]
        omega
      · exact .inr (.inr later)
  exact fold Lease.never

/-- Whether nothing in a ledger has ended, and the bound says so or stands at the end of time. -/
structure Current (now : Int) (l : Ledger) : Prop where
  outlasts : l.Outlasts now
  bound : now < l.nextCheck ∨ l.nextCheck = Lease.never

theorem outlasts_sweep (right : l.Bounded) (now : Int) : (l.sweep now).ledger.Outlasts now :=
  Quiet.outlasts right ⟨fun _ _ => by omega, fun _ _ => by omega⟩

theorem earliest_late {instants : List Int} (late : ∀ i ∈ instants, now < i) :
    now < earliest instants ∨ earliest instants = Lease.never := by
  rcases earliest_cases instants with never | there
  · exact .inr never
  · exact .inl (late _ there)

theorem bound_late (outlasts : l.Outlasts now) :
    now < min (earliest (l.committed.records.map Lease.expiration)) (earliest l.declined.records) ∨
      min (earliest (l.committed.records.map Lease.expiration)) (earliest l.declined.records) =
        Lease.never := by
  have leases : ∀ i ∈ l.committed.records.map Lease.expiration, now < i := by
    intro i hi
    obtain ⟨lease, filed, rfl⟩ := List.mem_map.mp hi
    obtain ⟨a, entry⟩ := Roster.mem_records.mp filed
    exact outlasts.leases _ entry
  have declines : ∀ i ∈ l.declined.records, now < i := by
    intro i hi
    obtain ⟨a, entry⟩ := Roster.mem_records.mp hi
    exact outlasts.declines _ entry
  have below := (earliest_le (l.committed.records.map Lease.expiration)).1
  have below' := (earliest_le l.declined.records).1
  rcases earliest_late leases with first | first
  · rcases earliest_late declines with second | second
    · omega
    · omega
  · rcases earliest_late declines with second | second
    · omega
    · omega

theorem current_sweep (right : l.Bounded) (now : Int) : (l.sweep now).ledger.Current now where
  outlasts := outlasts_sweep right now
  bound := by
    have cleared := sweep_cleared right now
    rcases Int.lt_or_le now l.nextCheck with early | due
    · rw [cleared.early early]
      exact .inl early
    · rw [cleared.due due]
      exact bound_late (outlasts_sweep right now)

theorem Current.sweep (current : l.Current now) (right : l.Bounded) :
    (l.sweep now).ledger = l := by
  have same := current.outlasts.book_sweep right (Int.le_refl now)
  have cleared := sweep_cleared right now
  have bound : (l.sweep now).ledger.nextCheck = l.nextCheck := by
    rcases current.bound with early | never
    · exact cleared.early early
    · rcases Int.lt_or_le now l.nextCheck with early | due
      · exact cleared.early early
      · -- past the end of time the bound is found there again
        have again := cleared.due due
        have late := bound_late (outlasts_sweep right now)
        have below := (earliest_le (l.sweep now).ledger.declined.records).1
        omega
  have pool : (l.sweep now).ledger.pool = l.pool := congrArg Book.pool same
  have committed : (l.sweep now).ledger.committed = l.committed := congrArg Book.committed same
  have declined : (l.sweep now).ledger.declined = l.declined := congrArg Book.declined same
  calc (l.sweep now).ledger
      = ⟨(l.sweep now).ledger.pool, (l.sweep now).ledger.committed,
          (l.sweep now).ledger.declined, (l.sweep now).ledger.nextCheck⟩ := rfl
    _ = l := by rw [pool, committed, declined, bound]

theorem Current.request (current : l.Current now) (orderly : l.Orderly)
    (lasts : 1 ≤ l.pool.leaseTime) (q : Demand) :
    (l.requestSwept now q).ledger.Current now := by
  have touches := requestSwept_touches now q l
  have late (lease : Lease) (granted : (l.requestSwept now q).answer = .ok lease) :
      now < lease.expiration := by
    have := expiration_of_requested_late orderly granted
    omega
  refine ⟨⟨fun e he => ?_, fun e he => ?_⟩, ?_⟩
  · rcases (mem_requested orderly now q e).mp he with ⟨lease, granted, rfl⟩ | ⟨there, _⟩
    · exact late lease granted
    · exact current.outlasts.leases e there
  · rw [touches.declined] at he
    exact current.outlasts.declines e he
  · rw [touches.bound]
    cases granted : (l.requestSwept now q).answer with
    | error refusal => exact current.bound
    | ok lease =>
      have alive := late lease granted
      have bound := current.bound
      simp only [boundAfter]
      omega

/- Two requests on a swept ledger. -/

/-- What another client is granted elsewhere makes no difference to a client that asks for an
address, if the other one had no lease there. -/
theorem sameTo_requested (orderly : l.Orderly) (now : Int)
    (foreign : p.client.identity ≠ q.client.identity) (target : p.target? = some a)
    (elsewhere : a ≠ b)
    (free : ∀ e ∈ l.committed.entries, e.1 = b → e.2.client.identity ≠ p.client.identity) :
    SameTo q.client b l (l.requestSwept now p).ledger := by
  have after : (l.requestSwept now p).ledger.Orderly := orderly_requested orderly now p
  constructor
  · exact (requestSwept_touches now p l).pool
  · refine Option.ext fun lease => ?_
    rw [after.leaseOf_iff, orderly.leaseOf_iff, Roster.mem_records, Roster.mem_records]
    refine and_congr_left fun its => exists_congr fun c => ?_
    rw [mem_requested orderly]
    constructor
    · rintro (⟨other, granted, same⟩ | ⟨there, _⟩)
      · cases same
        exact absurd ((client_of_requested orderly granted).symm.trans its) foreign
      · exact there
    · intro there
      exact .inr ⟨there, fun _ same => foreign (same.symm.trans its)⟩
  · refine Option.ext fun lease => ?_
    rw [Roster.find?_eq_some_iff after.distinct, Roster.find?_eq_some_iff orderly.distinct,
      mem_requested orderly]
    constructor
    · rintro (⟨other, granted, same⟩ | ⟨there, _⟩)
      · have here := address_of_requested orderly target granted
        cases same
        exact absurd here.symm elsewhere
      · exact there
    · intro there
      exact .inr ⟨there, fun _ => free _ there rfl⟩

/-- What two clients leave behind that ask for different addresses one after the other. -/
theorem mem_requested_twice (orderly : l.Orderly)
    (foreign : p.client.identity ≠ q.client.identity)
    (same : (((l.requestSwept now p).ledger).requestSwept now q).answer =
      (l.requestSwept now q).answer) (e : Address × Lease) :
    e ∈ (((l.requestSwept now p).ledger).requestSwept now q).ledger.committed.entries ↔
      (∃ lease, (l.requestSwept now p).answer = .ok lease ∧ e = (lease.address, lease)) ∨
      (∃ lease, (l.requestSwept now q).answer = .ok lease ∧ e = (lease.address, lease)) ∨
      e ∈ l.committed.entries ∧
        ((l.requestSwept now p).answer.isOk = true →
          e.2.client.identity ≠ p.client.identity) ∧
        ((l.requestSwept now q).answer.isOk = true →
          e.2.client.identity ≠ q.client.identity) := by
  rw [mem_requested (orderly_requested orderly now p), mem_requested orderly, same]
  constructor
  · rintro (second | ⟨first | ⟨there, others⟩, others'⟩)
    · exact .inr (.inl second)
    · exact .inl first
    · exact .inr (.inr ⟨there, others, others'⟩)
  · rintro (⟨lease, granted, rfl⟩ | second | ⟨there, others, others'⟩)
    · refine .inr ⟨.inl ⟨lease, granted, rfl⟩, fun _ its => foreign ?_⟩
      exact (client_of_requested orderly granted).symm.trans its
    · exact .inl second
    · exact .inr ⟨.inr ⟨there, others⟩, others'⟩

/- Two requests as calls. -/

theorem request_turn (right : l.Bounded) (clears : l.Clears t.now)
    (read : t.call.operation = .ok (.request q)) :
    (t.run l).answer =
        (((l.sweep t.now).ledger.requestSwept t.now q).map Answer.ofLease).written.answer ∧
      (t.run l).ledger = ((l.sweep t.now).ledger.requestSwept t.now q).ledger := by
  have all := (sweep_writable_iff right).mpr clears
  have answer : ((Operation.request q).run t.now l).written.answer = _ :=
    Outcome.written_andThen all Answer.ofLease
  have left : ((Operation.request q).run t.now l).written.ledger = _ :=
    Outcome.written_andThen_ledger all Answer.ofLease
  rw [run_of_read read, answer, left]
  refine ⟨rfl, ?_⟩
  have plain := (requestSwept_touches t.now q (l.sweep t.now).ledger).halted
  rcases Outcome.written_cases (((l.sweep t.now).ledger.requestSwept t.now q).map Answer.ofLease)
    with ⟨_, _, whole⟩ | ⟨_, _, halted⟩
  · exact whole
  · exact halted.trans plain

theorem request_turn_of_not_clears (right : l.Bounded) (clears : ¬ l.Clears t.now)
    (read : t.call.operation = .ok (.request q)) : (t.run l).answer = .error .longNumber := by
  have short := mt (sweep_writable_iff right).mp clears
  rw [run_of_read read, Outcome.written_answer, if_neg]
  intro all
  simp only [Operation.run, request, Ledger.swept, Outcome.map_notes, Outcome.andThen,
    List.all_append, Bool.and_eq_true] at all
  exact short all.1

/-- The second of two requests at the same instant is made on what the first one leaves behind. -/
theorem second_request_turn (orderly : l.Orderly) (right : l.Bounded) (clears : l.Clears now)
    (lasts : 1 ≤ l.pool.leaseTime) {first second : Call}
    (readP : first.operation = .ok (.request p)) (readQ : second.operation = .ok (.request q))
    (target : q.target? = some b)
    (same : SameTo q.client b (l.sweep now).ledger
      ((l.sweep now).ledger.requestSwept now p).ledger) :
    (Turn.run ⟨now, second⟩ (Turn.run ⟨now, first⟩ l).ledger).answer =
        (Turn.run ⟨now, second⟩ l).answer ∧
      (Turn.run ⟨now, second⟩ (Turn.run ⟨now, first⟩ l).ledger).ledger =
        (((l.sweep now).ledger.requestSwept now p).ledger.requestSwept now q).ledger := by
  have swept : (l.sweep now).ledger.Orderly := orderly_sweep orderly now
  have pool : (l.sweep now).ledger.pool = l.pool := (sweep_leaves now l).1.1
  have current := (current_sweep right now).request swept (pool ▸ lasts) p
  obtain ⟨_, left⟩ := request_turn (t := ⟨now, first⟩) right clears readP
  obtain ⟨alone, _⟩ := request_turn (t := ⟨now, second⟩) right clears readQ
  have right' := bounded_turn orderly right ⟨now, first⟩
  rw [left] at right' ⊢
  have clears' := current.outlasts.clears (Int.le_refl now)
  obtain ⟨answer, ledger⟩ := request_turn (t := ⟨now, second⟩) right' clears' readQ
  -- the second sweep finds nothing to do
  rw [current.sweep right'] at answer ledger
  obtain ⟨answers, notes⟩ := requestSwept_same target same now
  refine ⟨?_, ledger⟩
  rw [answer, alone, Outcome.written_answer, Outcome.written_answer]
  simp only [Outcome.map_notes, Outcome.map_answer, answers, notes]
  rfl

/-- Two calls that are answered alike in either order, and leave the same behind except for the
order of the leases. -/
structure Commute (t u : Turn) (l : Ledger) : Prop where
  first : (t.run (u.run l).ledger).answer = (t.run l).answer
  second : (u.run (t.run l).ledger).answer = (u.run l).answer
  committed : (u.run (t.run l).ledger).ledger.committed.entries.Perm
    (t.run (u.run l).ledger).ledger.committed.entries
  declined : (u.run (t.run l).ledger).ledger.declined = (t.run (u.run l).ledger).ledger.declined
  bound : (u.run (t.run l).ledger).ledger.nextCheck = (t.run (u.run l).ledger).ledger.nextCheck
  pool : (u.run (t.run l).ledger).ledger.pool = (t.run (u.run l).ledger).ledger.pool

/-- Requests on a swept ledger that do not notice each other leave the same behind. -/
theorem perm_of_requested_twice (orderly : l.Orderly)
    (foreign : p.client.identity ≠ q.client.identity)
    (sameQ : ((l.requestSwept now p).ledger.requestSwept now q).answer =
      (l.requestSwept now q).answer)
    (sameP : ((l.requestSwept now q).ledger.requestSwept now p).answer =
      (l.requestSwept now p).answer) :
    ((l.requestSwept now p).ledger.requestSwept now q).ledger.committed.entries.Perm
      ((l.requestSwept now q).ledger.requestSwept now p).ledger.committed.entries := by
  have first := orderly_requested (orderly_requested orderly now p) now q
  have second := orderly_requested (orderly_requested orderly now q) now p
  refine (List.perm_ext_iff_of_nodup (List.Nodup.of_map Prod.fst first.distinct)
    (List.Nodup.of_map Prod.fst second.distinct)).mpr fun e => ?_
  rw [mem_requested_twice orderly foreign sameQ, mem_requested_twice orderly foreign.symm sameP,
    or_left_comm]
  refine or_congr_right (or_congr_right (and_congr_right fun _ => ?_))
  exact and_comm

theorem commute_of_clears (orderly : l.Orderly) (right : l.Bounded) (clears : l.Clears now)
    (lasts : 1 ≤ l.pool.leaseTime) {first second : Call}
    (readP : first.operation = .ok (.request p)) (readQ : second.operation = .ok (.request q))
    (foreign : p.client.identity ≠ q.client.identity) (targetP : p.target? = some a)
    (targetQ : q.target? = some b) (elsewhere : a ≠ b)
    (freeP : ¬ l.Occupies now q.client.identity a)
    (freeQ : ¬ l.Occupies now p.client.identity b) : Commute ⟨now, first⟩ ⟨now, second⟩ l := by
  have shed := (sweep_leaves now l).1.2
  have swept : (l.sweep now).ledger.Orderly := shed.orderly orderly
  have lives := (outlasts_sweep right now).leases
  -- what one client is granted makes no difference to what the other one looks at
  have sameQ := sameTo_requested swept now foreign targetP elsewhere
    fun e he here its => freeQ ⟨e, shed.committed.mem he, here, its, lives e he⟩
  have sameP := sameTo_requested swept now foreign.symm targetQ elsewhere.symm
    fun e he here its => freeP ⟨e, shed.committed.mem he, here, its, lives e he⟩
  obtain ⟨answerQ, pq⟩ :=
    second_request_turn orderly right clears lasts readP readQ targetQ sameQ
  obtain ⟨answerP, qp⟩ :=
    second_request_turn orderly right clears lasts readQ readP targetP sameP
  have againQ := (requestSwept_same targetQ sameQ now).1
  have againP := (requestSwept_same targetP sameP now).1
  have touchP := requestSwept_touches now p (l.sweep now).ledger
  have touchQ := requestSwept_touches now q (l.sweep now).ledger
  have touchPQ := requestSwept_touches now q ((l.sweep now).ledger.requestSwept now p).ledger
  have touchQP := requestSwept_touches now p ((l.sweep now).ledger.requestSwept now q).ledger
  refine ⟨answerP, answerQ, ?_, ?_, ?_, ?_⟩
  · rw [pq, qp]
    exact perm_of_requested_twice swept foreign againQ againP
  · rw [pq, qp, touchPQ.declined, touchQP.declined, touchP.declined, touchQ.declined]
  · rw [pq, qp, touchPQ.bound, touchQP.bound, touchP.bound, touchQ.bound, againQ, againP]
    exact boundAfter_comm _ _ _
  · rw [pq, qp, touchPQ.pool, touchQP.pool, touchP.pool, touchQ.pool]

/-- Two clients that request different addresses at the same instant, neither of which has a lease
on the address of the other one, are answered the same in either order, and leave the same leases,
declines and bound behind; provided that the lease time is at least one, and that the sweep before
the first of them can put all leases into words that it strikes out. If it cannot, whichever request
comes first fails. -/
theorem unrelated_requests_commute (pool : Pool) (turns : List Turn) {now : Int}
    {first second : Call} {p q : Demand} (readP : first.operation = .ok (.request p))
    (readQ : second.operation = .ok (.request q))
    (foreign : p.client.identity ≠ q.client.identity) {a b : Address}
    (targetP : p.target? = some a) (targetQ : q.target? = some b) (elsewhere : a ≠ b)
    (lasts : 1 ≤ ((opening pool).ledger.after turns).pool.leaseTime)
    (freeP : ¬ ((opening pool).ledger.after turns).Occupies now q.client.identity a)
    (freeQ : ¬ ((opening pool).ledger.after turns).Occupies now p.client.identity b) :
    let l := (opening pool).ledger.after turns
    (l.Clears now → Commute ⟨now, first⟩ ⟨now, second⟩ l) ∧
    (¬ l.Clears now → (Turn.run ⟨now, first⟩ l).answer = .error .longNumber ∧
      (Turn.run ⟨now, second⟩ l).answer = .error .longNumber) := by
  intro l
  have orderly : l.Orderly := orderly_after (orderly_fresh pool) turns
  have right : l.Bounded := bounded_after (orderly_fresh pool) (bounded_fresh pool) turns
  constructor
  · intro clears
    exact commute_of_clears orderly right clears lasts readP readQ foreign targetP targetQ
      elsewhere freeP freeQ
  · intro clears
    exact ⟨request_turn_of_not_clears (t := ⟨now, first⟩) right clears readP,
      request_turn_of_not_clears (t := ⟨now, second⟩) right clears readQ⟩

theorem move_commutes_with_renewal :
    let l := (opening (.home 1000)).ledger.after
      [.select 0 (.plain 2) (.home 20), .select 10 (.plain 1) (.home 10)]
    l.Clears 500 ∧ ¬ l.Occupies 500 (Client.plain 2).identity (.home 30) ∧
      ¬ l.Occupies 500 (Client.plain 1).identity (.home 20) ∧
      Commute (.select 500 (.plain 1) (.home 30)) (.reboot 500 (.plain 2) (.home 20)) l := by
  intro l
  have clears : l.Clears 500 := by decide +kernel
  have free : ¬ l.Occupies 500 (Client.plain 2).identity (.home 30) := by decide +kernel
  have free' : ¬ l.Occupies 500 (Client.plain 1).identity (.home 20) := by decide +kernel
  have commute := unrelated_requests_commute (.home 1000)
    [.select 0 (.plain 2) (.home 20), .select 10 (.plain 1) (.home 10)]
    (show (Turn.select 500 (.plain 1) (.home 30)).call.operation =
      .ok (.request ⟨.plain 1, none, some (.home 30), true, .null⟩) from rfl)
    (show (Turn.reboot 500 (.plain 2) (.home 20)).call.operation =
      .ok (.request ⟨.plain 2, none, some (.home 20), false, .null⟩) from rfl)
    (by decide) rfl rfl (by decide) (by decide +kernel) free free'
  exact ⟨clears, free, free', commute.1 clears⟩

/-- Of two requests that are refused, the one that comes first fails when it strikes out a lease
whose end is too long for words. -/
theorem first_request_fails :
    let l := (opening (.home (10 ^ 4300 - 1))).ledger.after [.select 1 (.plain 1) (.home 10)]
    let t := Turn.reboot (10 ^ 4300) (.plain 2) (.home 0)
    let u := Turn.reboot (10 ^ 4300) (.plain 3) (.home 255)
    1 ≤ l.pool.leaseTime ∧ ¬ l.Occupies t.now (Client.plain 3).identity (.home 0) ∧
      ¬ l.Occupies t.now (Client.plain 2).identity (.home 255) ∧
      (t.run l).answer = .error .longNumber ∧
      (t.run (u.run l).ledger).answer = .ok (.refused .unavailable) := by
  intro l t u
  have right : l.Bounded := bounded_after (orderly_fresh _) (bounded_fresh _) _
  have long : ¬ l.Clears t.now := by decide +kernel
  have read : t.call.operation =
    .ok (.request ⟨.plain 2, none, some (.home 0), false, .null⟩) := rfl
  have refused : (t.exchange (u.run l).ledger).said? Answer.refusal? = some .unavailable := by
    decide +kernel
  exact ⟨by decide +kernel, by decide +kernel, by decide +kernel,
    request_turn_of_not_clears right long read,
    Turn.answer_of_said? Answer.eq_of_refusal? refused⟩

end Ledger
end LeaseBook
