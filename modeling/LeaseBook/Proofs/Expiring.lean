import LeaseBook.Proofs.Declining
import LeaseBook.Proofs.Taking

/-!
When leases end. Under one pool and a clock that does not go back, every lease that is offered or
granted ends one lease time from then on, and nothing in the ledger ends later. Whether that is
after the grant depends on the lease time alone, and a lease time of less than a millisecond is
taken for none.
-/

namespace LeaseBook

/- Lease times as they are handed in. -/

def Binary64.IsFraction : Binary64 → Prop
  | .finite negative mantissa exponent =>
    negative = false ∧ 0 < mantissa ∧ exponent < 0 ∧ mantissa < 2 ^ (-exponent).toNat
  | _ => False

theorem Binary64.wholePart_eq_zero_iff {mantissa : Nat} (positive : 0 < mantissa)
    (exponent : Int) :
    wholePart mantissa exponent = 0 ↔ exponent < 0 ∧ mantissa < 2 ^ (-exponent).toNat := by
  unfold wholePart
  split
  · rename_i whole
    have scale : 0 < 2 ^ exponent.toNat := Nat.two_pow_pos _
    have above : 0 < mantissa * 2 ^ exponent.toNat := Nat.mul_pos positive scale
    constructor
    · intro none
      omega
    · intro small
      omega
  · rename_i part
    rw [Nat.div_eq_zero_iff_lt (Nat.two_pow_pos _)]
    constructor
    · intro small
      exact ⟨Int.not_le.mp part, small⟩
    · intro small
      exact small.2

def Value.half : Value := .real (.finite false 1 (-1))

def Value.home : Value :=
  .network (.v4 ⟨(Pool.home 0).subnet.base, 24, (Pool.home 0).subnet.length_le⟩)

/-- Whether a value passes for a lease time and is none when it is made whole: a fraction of a
millisecond, or the longer identifier without a bit set. -/
def Value.Vanishes : Value → Prop
  | .real x => x.IsFraction
  | .identifier (.long n) => n = 0
  | _ => False

def Turn.leaseTime? (t : Turn) : Option Value :=
  t.pool?.bind fun _ =>
    match t.call with
    | .reconfigure _ _ leaseTime => some leaseTime
    | _ => none

/-- The lease time behind a run, as it was handed in last. -/
def Turn.lastLeaseTime (first : Value) (turns : List Turn) : Value :=
  turns.foldl (fun inForce t => t.leaseTime?.getD inForce) first

theorem Fault.ok_of_bind {α β : Type} {x : Except Fault α} {f : α → Except Fault β} {y : β}
    (h : x >>= f = .ok y) : ∃ found, x = .ok found ∧ f found = .ok y := by
  cases x with
  | error fault => cases h
  | ok found => exact ⟨found, rfl, h⟩

namespace Pool

variable {subnet reserved leaseTime : Value} {pool : Pool}

theorem ofValues_eq_ok_iff : ofValues subnet reserved leaseTime = .ok pool ↔
    subnet.toSubnet = .ok pool.subnet ∧ checkLeaseTime leaseTime = .ok () ∧
    (∃ items addresses, reserved.toItems = .ok items ∧ readReserved items = .ok addresses ∧
      pool.reserved = Address.sorted addresses) ∧
    ∃ time, leaseTime.toWhole = .ok time ∧ pool.leaseTime = time.toNat := by
  constructor
  · intro built
    obtain ⟨s, served, built⟩ := Fault.ok_of_bind built
    split at built
    · obtain ⟨_, checked, built⟩ := Fault.ok_of_bind built
      obtain ⟨items, taken, built⟩ := Fault.ok_of_bind built
      obtain ⟨addresses, read, built⟩ := Fault.ok_of_bind built
      obtain ⟨time, whole, built⟩ := Fault.ok_of_bind built
      cases built
      exact ⟨served, checked, ⟨items, addresses, taken, read, rfl⟩, time, whole, rfl⟩
    · cases built
  · obtain ⟨s, sorted, milliseconds, room⟩ := pool
    rintro ⟨served, checked, ⟨items, addresses, taken, read, rfl⟩, time, whole, rfl⟩
    have room : s.length ≤ maxLength := room
    simp only [ofValues, bind, Except.bind, served, room, dif_pos, checked, taken, read, whole]
    rfl

theorem leaseTime_eq_zero_iff (built : ofValues subnet reserved leaseTime = .ok pool) :
    pool.leaseTime = 0 ↔ leaseTime.Vanishes := by
  obtain ⟨_, checked, _, time, whole, same⟩ := ofValues_eq_ok_iff.mp built
  rw [same]
  unfold checkLeaseTime at checked
  cases leaseTime with
  | bool b =>
    cases b with
    | false => cases checked
    | true =>
      cases whole
      exact iff_of_false (by decide) id
  | int i =>
    cases whole
    simp only [Value.int?, Option.map_some] at checked
    have positive : ¬ time ≤ 0 := by
      intro low
      rw [decide_eq_true low] at checked
      cases checked
    refine iff_of_false ?_ id
    omega
  | real x =>
    cases x with
    | nan => cases whole
    | infinite negative => cases whole
    | finite negative mantissa exponent =>
      simp only [Binary64.isNonpositive] at checked
      cases negative with
      | true => cases checked
      | false =>
        have positive : 0 < mantissa := by
          rcases Nat.eq_zero_or_pos mantissa with rfl | positive
          · cases checked
          · exact positive
        have time_eq : time = Binary64.wholePart mantissa exponent := (Except.ok.inj whole).symm
        rw [time_eq, Int.toNat_natCast, Binary64.wholePart_eq_zero_iff positive]
        simp only [Value.Vanishes, Binary64.IsFraction, positive, true_and]
  | identifier e =>
    cases whole
    cases e with
    | short h =>
      refine iff_of_false (fun none => ?_) id
      have zero : h.number = 0 := none
      simp only [zero, beq_self_eq_true] at checked
      cases checked
    | long n => exact Iff.rfl
  | null => cases checked
  | text s => cases checked
  | list items => cases checked
  | object fields => cases checked
  | address a => cases checked
  | network n => cases checked
  | bytes b => cases checked

end Pool

theorem Call.reconfigure_of_operation {c : Call} {pool : Pool}
    (read : c.operation = .ok (.reconfigure pool)) :
    ∃ subnet reserved leaseTime, c = .reconfigure subnet reserved leaseTime ∧
      Pool.ofValues subnet reserved leaseTime = .ok pool := by
  cases c with
  | offer id mac source relay requested hostname =>
    obtain ⟨_, _, read⟩ := Fault.ok_of_bind read
    obtain ⟨_, _, read⟩ := Fault.ok_of_bind read
    obtain ⟨_, _, read⟩ := Fault.ok_of_bind read
    obtain ⟨_, _, read⟩ := Fault.ok_of_bind read
    cases read
  | request id mac source requested serverChosen hostname =>
    obtain ⟨_, _, read⟩ := Fault.ok_of_bind read
    obtain ⟨_, _, read⟩ := Fault.ok_of_bind read
    obtain ⟨_, _, read⟩ := Fault.ok_of_bind read
    cases read
  | release id mac address =>
    obtain ⟨_, _, read⟩ := Fault.ok_of_bind read
    obtain ⟨_, _, read⟩ := Fault.ok_of_bind read
    cases read
  | decline address =>
    obtain ⟨_, _, read⟩ := Fault.ok_of_bind read
    cases read
  | committed => cases read
  | declined => cases read
  | reconfigure subnet reserved leaseTime =>
    obtain ⟨_, built, read⟩ := Fault.ok_of_bind read
    cases read
    exact ⟨subnet, reserved, leaseTime, rfl, built⟩

namespace Ledger

variable {l m : Ledger} {now last : Int} {c : Client} {q : Demand} {lease : Lease} {t : Turn}
  {turns : List Turn}

/-- The pool of a ledger is built from the lease time that was handed in last. -/
def Built (leaseTime : Value) (l : Ledger) : Prop :=
  ∃ subnet reserved, Pool.ofValues subnet reserved leaseTime = .ok l.pool

theorem built_turn (orderly : l.Orderly) {leaseTime : Value} (built : l.Built leaseTime) :
    (t.run l).ledger.Built (t.leaseTime?.getD leaseTime) := by
  unfold Turn.leaseTime?
  cases asks : t.pool? with
  | none =>
    unfold Built
    rw [pool_turn orderly asks]
    exact built
  | some pool =>
    have read := Turn.pool?_eq_some.mp asks
    obtain ⟨subnet, reserved, time, call, fits⟩ := Call.reconfigure_of_operation read
    have taken : (t.run l).ledger.pool = pool := by
      rw [run_of_read read]
      exact ((reconfigure_leaves pool l).map (f := fun _ => Answer.serving pool)).written.1
    rw [call]
    exact ⟨subnet, reserved, taken ▸ fits⟩

theorem built_after (orderly : l.Orderly) {leaseTime : Value} (built : l.Built leaseTime)
    (turns : List Turn) : (l.after turns).Built (Turn.lastLeaseTime leaseTime turns) := by
  induction turns generalizing l leaseTime with
  | nil => exact built
  | cons t rest ih => exact ih (orderly_turn orderly t) (built_turn orderly built)

/- What a request is granted. -/

/-- Whether a client comes back for a lease that it still has, without giving it up for the new
one. -/
def Renews (now : Int) (q : Demand) (l : Ledger) : Prop :=
  ¬ q.Selects ∧ ∃ e ∈ l.committed.entries, e.2.client.identity = q.client.identity ∧
    now < e.2.expiration

theorem foreign_of_dropLease (orderly : l.Orderly) {e : Address × Lease}
    (left : e ∈ (l.dropLease (l.leaseOf c)).committed.entries) :
    e.2.client.identity ≠ c.identity := by
  cases old : l.leaseOf c with
  | none =>
    rw [old] at left
    exact orderly.address_of_leaseOf_none old left
  | some own =>
    rw [old] at left
    obtain ⟨there, apart⟩ := Roster.mem_erase.mp left
    obtain ⟨entry, its⟩ := orderly.mem_of_leaseOf old
    intro same
    exact apart (orderly.single e there _ entry (same.trans its.symm))

/-- A client that gives its lease up is granted one for one lease time. -/
theorem expiration_of_selected (orderly : l.Orderly) (selects : q.Selects)
    (granted : (l.requestSwept now q).answer = .ok lease) :
    lease.expiration = now + l.pool.leaseTime := by
  obtain ⟨asked, chosen⟩ := selects
  obtain ⟨a, wish⟩ := Option.isSome_iff_exists.mp asked
  rw [requestSwept_of_takesUp ⟨wish, chosen⟩] at granted
  have fits := fits_of_grant_dropping orderly granted
  rcases fits.time with ⟨_, time⟩ | ⟨e, left, its, _⟩
  · rw [time, dropLease_pool]
  · exact absurd its (foreign_of_dropLease orderly left)

/-- Any other client is granted its lease renewed, or a new one if it has none. -/
theorem expiration_of_kept (orderly : l.Orderly) (keeps : ¬ q.Selects)
    (granted : (l.requestSwept now q).answer = .ok lease) :
    ((∀ e ∈ l.committed.entries, e.2.client.identity ≠ q.client.identity) ∧
      lease.expiration = now + l.pool.leaseTime) ∨
    ∃ e ∈ l.committed.entries, e.2.client.identity = q.client.identity ∧
      lease.expiration = max e.2.expiration (now + l.pool.leaseTime) := by
  obtain ⟨m, _, _, stays, fits, _⟩ := requestSwept_granted orderly granted
  rw [stays keeps] at fits
  exact fits.time

theorem swept_of_granted (read : t.call.operation = .ok (.request q))
    (granted : (t.run l).answer = .ok (.lease lease)) :
    ((l.sweep t.now).ledger.requestSwept t.now q).answer = .ok lease ∧
      (t.run l).ledger = ((l.sweep t.now).ledger.requestSwept t.now q).ledger := by
  rw [run_of_read read] at granted ⊢
  obtain ⟨same, left, _⟩ := Outcome.written_of_ok granted
  exact ⟨Answer.ofLease_eq_lease same, left⟩

theorem alive_iff_of_granted (orderly : l.Orderly) (right : l.Bounded)
    (read : t.call.operation = .ok (.request q))
    (granted : (t.run l).answer = .ok (.lease lease)) :
    t.now < lease.expiration ↔ l.pool.leaseTime ≠ 0 ∨ l.Renews t.now q := by
  obtain ⟨pool, shed⟩ := (sweep_leaves t.now l).1
  have swept : (l.sweep t.now).ledger.Orderly := shed.orderly orderly
  have lives := (sweep_cleared right t.now).lives
  obtain ⟨answered, _⟩ := swept_of_granted read granted
  by_cases selects : q.Selects
  · have time := expiration_of_selected swept selects answered
    rw [time, pool]
    constructor
    · intro alive
      exact .inl (by omega)
    · rintro (lasts | ⟨keeps, _⟩)
      · omega
      · exact absurd selects keeps
  · rcases expiration_of_kept swept selects answered with ⟨others, time⟩ | ⟨e, own, its, time⟩
    · rw [time, pool]
      constructor
      · intro alive
        exact .inl (by omega)
      · rintro (lasts | ⟨_, e, there, its, alive⟩)
        · omega
        · exact absurd its (others e (shed.spared e there (Int.not_le.mpr alive)))
    · have alive : t.now < e.2.expiration := Int.not_le.mp (lives e own)
      rw [time]
      refine iff_of_true (by omega) (.inr ?_)
      exact ⟨selects, e, shed.committed.mem own, its, alive⟩

theorem lives_of_granted (orderly : l.Orderly) (right : l.Bounded)
    (read : t.call.operation = .ok (.request q))
    (granted : (t.run l).answer = .ok (.lease lease)) :
    ∀ e ∈ (t.run l).ledger.committed.entries,
      e = (lease.address, lease) ∨ t.now < e.2.expiration := by
  have swept : (l.sweep t.now).ledger.Orderly := orderly_sweep orderly t.now
  have lives := (sweep_cleared right t.now).lives
  obtain ⟨answered, left⟩ := swept_of_granted read granted
  obtain ⟨m, _, shed, _, _, entered⟩ := requestSwept_granted swept answered
  rw [left, entered]
  intro e he
  rcases (mem_commit (shed.orderly swept)).mp he with new | ⟨old, _⟩
  · exact .inl new
  · exact .inr (Int.not_le.mp (lives e (shed.committed.mem old)))

theorem leases_listed_iff (right : l.Bounded) (now : Int) (lease : Lease) :
    (∃ leases, (Turn.run ⟨now, .committed⟩ l).answer = .ok (.leases leases) ∧ lease ∈ leases) ↔
      l.Clears now ∧ lease ∈ l.committed.records ∧ now < lease.expiration := by
  have read : (Turn.mk now .committed).call.operation = .ok .committed := rfl
  have notes : (Operation.committed.run now l).notes = (l.sweep now).notes := List.append_nil _
  have listed : lease ∈ (l.sweep now).ledger.committed.records ↔
      lease ∈ l.committed.records ∧ now < lease.expiration := by
    simp only [Roster.mem_records, (sweep_cleared right now).committed, Roster.mem_filter,
      keepsLease_iff, exists_and_right]
  rw [run_of_read read, Outcome.written_answer, notes, ← sweep_writable_iff right, ← listed]
  constructor
  · rintro ⟨leases, answered, there⟩
    split at answered
    · rename_i all
      cases answered
      exact ⟨all, there⟩
    · cases answered
  · rintro ⟨all, there⟩
    rw [if_pos all]
    exact ⟨_, rfl, there⟩

theorem listed_of_granted (orderly : l.Orderly) (right : l.Bounded)
    (read : t.call.operation = .ok (.request q))
    (granted : (t.run l).answer = .ok (.lease lease)) :
    (∃ leases, (Turn.run ⟨t.now, .committed⟩ (t.run l).ledger).answer = .ok (.leases leases) ∧
      lease ∈ leases) ↔ t.now < lease.expiration := by
  have entry := ((sole_of_granted orderly read granted _).mpr rfl).1
  have clears : (t.run l).ledger.Clears t.now := by
    intro e he ended
    rcases lives_of_granted orderly right read granted e he with rfl | alive
    · exact (granted_late orderly read granted).2
    · exact absurd ended (Int.not_le.mpr alive)
  rw [leases_listed_iff (bounded_turn orderly right t)]
  constructor
  · rintro ⟨_, _, alive⟩
    exact alive
  · intro alive
    exact ⟨clears, Roster.mem_records.mpr ⟨_, entry⟩, alive⟩

/-- A lease that is granted ends after the grant, unless the lease time in force vanishes and the
client does not come back for a lease that it still has; and it is listed at the instant of the
grant if and only if it ends after it. -/
theorem granted_lease_lives {subnet reserved leaseTime : Value} {pool : Pool}
    (built : Pool.ofValues subnet reserved leaseTime = .ok pool) (turns : List Turn) {t : Turn}
    {q : Demand} {lease : Lease} (read : t.call.operation = .ok (.request q))
    (granted : (t.run ((opening pool).ledger.after turns)).answer = .ok (.lease lease)) :
    let l := (opening pool).ledger.after turns
    (t.now < lease.expiration ↔
      ¬ (Turn.lastLeaseTime leaseTime turns).Vanishes ∨ l.Renews t.now q) ∧
    ((∃ leases, (Turn.run ⟨t.now, .committed⟩ (t.run l).ledger).answer = .ok (.leases leases) ∧
      lease ∈ leases) ↔ t.now < lease.expiration) := by
  intro l
  have fresh : (opening pool).ledger.Orderly := orderly_fresh pool
  have orderly : l.Orderly := orderly_after fresh turns
  have right : l.Bounded := bounded_after fresh (bounded_fresh pool) turns
  obtain ⟨_, _, fits⟩ : l.Built (Turn.lastLeaseTime leaseTime turns) :=
    built_after fresh ⟨subnet, reserved, built⟩ turns
  constructor
  · rw [alive_iff_of_granted orderly right read granted, ne_eq, Pool.leaseTime_eq_zero_iff fits]
  · exact listed_of_granted orderly right read granted

theorem renewed_under_fraction :
    let l := (opening (.home 1000)).ledger.after
      [.select 0 (.plain 1) (.home 10), ⟨100, .reconfigure .home (.list []) .half⟩]
    let t := Turn.reboot 500 (.plain 1) (.home 10)
    ∃ lease, (t.run l).answer = .ok (.lease lease) ∧
      l.Renews 500 ⟨.plain 1, none, some (.home 10), false, .null⟩ ∧
      ∃ leases, (Turn.run ⟨500, .committed⟩ (t.run l).ledger).answer = .ok (.leases leases) ∧
        lease ∈ leases := by
  intro l t
  have lent : (t.exchange l).term? = some (.home 10, 1000) := by decide +kernel
  obtain ⟨lease, answered, _, ends⟩ := Turn.answer_of_term? lent
  have built : Pool.ofValues .home (.list []) (.int 1000) = .ok (.home 1000) := rfl
  have read : t.call.operation =
      .ok (.request ⟨.plain 1, none, some (.home 10), false, .null⟩) := rfl
  obtain ⟨lives, listed⟩ := granted_lease_lives built
    [.select 0 (.plain 1) (.home 10), ⟨100, .reconfigure .home (.list []) .half⟩] read answered
  have alive : (500 : Int) < lease.expiration := by
    rw [ends]
    decide
  refine ⟨lease, answered, (lives.mp alive).resolve_left ?_, listed.mpr alive⟩
  have vanishes : Value.half.Vanishes := ⟨rfl, by decide, by decide, by decide⟩
  exact fun lasts => lasts vanishes

/-- A lease for half a millisecond ends as it is granted, and is not listed. -/
theorem fraction_granted_ended :
    let l := (opening (.home 0)).ledger
    let t := Turn.select 0 (.plain 1) (.home 10)
    Pool.ofValues .home (.list []) .half = .ok (.home 0) ∧
    ∃ lease, (t.run l).answer = .ok (.lease lease) ∧ lease.expiration = 0 ∧
      ¬ ∃ leases, (Turn.run ⟨0, .committed⟩ (t.run l).ledger).answer = .ok (.leases leases) ∧
        lease ∈ leases := by
  intro l t
  have lent : (t.exchange l).term? = some (.home 10, 0) := by decide +kernel
  obtain ⟨lease, answered, _, ends⟩ := Turn.answer_of_term? lent
  have listed := listed_of_granted (orderly_fresh (.home 0)) (bounded_fresh (.home 0))
    (t := t) rfl answered
  refine ⟨rfl, lease, answered, ends, fun found => ?_⟩
  have alive : (0 : Int) < lease.expiration := listed.mp found
  omega

/- Leases and declines under one pool. -/

/-- Nothing in the ledger ends more than one lease time after an instant. -/
structure Near (last : Int) (l : Ledger) : Prop where
  leases : ∀ e ∈ l.committed.entries, e.2.expiration ≤ last + l.pool.leaseTime
  declines : ∀ e ∈ l.declined.entries, e.2 ≤ last + l.pool.leaseTime

theorem near_fresh (last : Int) (pool : Pool) : (fresh pool).Near last := ⟨nofun, nofun⟩

theorem Near.of_sublist (near : l.Near last) (pool : m.pool = l.pool)
    (committed : m.committed.entries.Sublist l.committed.entries)
    (declined : m.declined.entries.Sublist l.declined.entries) : m.Near last := by
  constructor
  · intro e he
    rw [pool]
    exact near.leases e (committed.mem he)
  · intro e he
    rw [pool]
    exact near.declines e (declined.mem he)

theorem Near.fits (near : l.Near last) (fits : Fits now c lease l) (onward : now ≤ last) :
    lease.expiration ≤ last + l.pool.leaseTime := by
  rcases fits.time with ⟨_, time⟩ | ⟨e, there, _, time⟩
  · omega
  · have := near.leases e there
    omega

theorem Effect.near {op : Operation} {answer : Except Fault Answer}
    (effect : Effect now l op answer m) (orderly : l.Orderly) (near : l.Near last)
    (onward : now ≤ last) (same : ∀ pool, op ≠ .reconfigure pool) : m.Near last := by
  cases effect with
  | swept _ pool shed => exact near.of_sublist pool shed.committed shed.declined
  | @committed q _ lease m pool shed _ fits _ =>
    have left := near.of_sublist pool shed.committed shed.declined
    constructor
    · intro e he
      rcases (mem_commit (shed.orderly orderly)).mp he with rfl | ⟨he, _⟩
      · exact left.fits fits onward
      · exact left.leases e he
    · exact left.declines
  | released _ _ pool shed _ => exact near.of_sublist pool shed.committed shed.declined
  | @declined a _ =>
    unfold decline
    split
    · exact near
    · refine ⟨near.leases, fun e he => ?_⟩
      rcases (Roster.mem_put orderly.declinedDistinct).mp he with rfl | ⟨he, _⟩
      · exact Int.add_le_add_right onward _
      · exact near.declines e he
  | reconfigured _ _ _ => exact absurd rfl (same _)

theorem near_turn (orderly : l.Orderly) (near : l.Near last) (onward : t.now ≤ last)
    (keeps : t.pool? = none) : (t.run l).ledger.Near last := by
  rcases turn_effect_of_keeps orderly keeps with same | ⟨_, other, effect⟩
  · rw [same]
    exact near
  · exact effect.near orderly near onward other

theorem near_after (orderly : l.Orderly) (near : l.Near last)
    (onward : ∀ t ∈ turns, t.now ≤ last) (keeps : ∀ t ∈ turns, t.pool? = none) :
    (l.after turns).Near last := by
  refine after_induction (fun l t orderly near during => ?_) orderly near
    (forall_exchanges (p := fun t => t.now ≤ last ∧ t.pool? = none)
      fun t ht => ⟨onward t ht, keeps t ht⟩)
  exact near_turn orderly near during.1 during.2

theorem expiration_of_quoted {q : Discovery} (orderly : l.Orderly) (near : l.Near now)
    (offered : (l.offerSwept now q).answer = .ok lease) :
    lease.expiration = now + l.pool.leaseTime := by
  have quoted := offerSwept_quoted now q l
  generalize l.offerSwept now q = o at quoted offered
  cases quoted with
  | refused refusal notes => cases offered
  | own current found notes words =>
    cases offered
    have := near.leases _ (orderly.mem_of_leaseOf found).1
    rw [Lease.renew_expiration]
    exact Int.max_eq_right this
  | fresh a rest notes inside valid available fewer words =>
    cases offered
    rfl

theorem expiration_of_requested (orderly : l.Orderly) (near : l.Near now)
    (granted : (l.requestSwept now q).answer = .ok lease) :
    lease.expiration = now + l.pool.leaseTime := by
  by_cases selects : q.Selects
  · exact expiration_of_selected orderly selects granted
  · rcases expiration_of_kept orderly selects granted with ⟨_, time⟩ | ⟨e, there, _, time⟩
    · exact time
    · have := near.leases e there
      omega

/-- A lease is the answer to an offer or a request, and ends one lease time from now. -/
theorem expiration_of_leased (orderly : l.Orderly) (near : l.Near t.now)
    (answered : (t.run l).answer = .ok (.lease lease)) :
    lease.expiration = t.now + l.pool.leaseTime := by
  obtain ⟨pool, shed⟩ := (sweep_leaves t.now l).1
  have swept : (l.sweep t.now).ledger.Orderly := shed.orderly orderly
  have left := near.of_sublist pool shed.committed shed.declined
  cases read : t.call.operation with
  | error fault =>
    rw [run_of_unread read] at answered
    cases answered
  | ok op =>
    rw [run_of_read read] at answered
    obtain ⟨said, _, _⟩ := Outcome.written_of_ok answered
    rw [← pool]
    cases op with
    | offer q => exact expiration_of_quoted swept left (Answer.ofLease_eq_lease said)
    | request q => exact expiration_of_requested swept left (Answer.ofLease_eq_lease said)
    | release c a => cases said
    | decline a => cases said
    | committed => cases said
    | declined => cases said
    | reconfigure pool => cases said

/-- Under a pool that stays, every lease that is offered or granted ends one lease time after the
instant at which it is, and at no time does anything in the ledger end more than one lease time
later. -/
theorem expirations_exact (pool : Pool) {turns : List Turn} (ordered : Chronological turns)
    (same : ∀ t ∈ turns, t.pool? = none) :
    (∀ x ∈ (opening pool).ledger.exchanges turns, ∀ lease, x.answer = .ok (.lease lease) →
      lease.expiration = x.turn.now + pool.leaseTime) ∧
    ∀ now, (∀ t ∈ turns, t.now ≤ now) →
      let l := (opening pool).ledger.after turns
      (∀ e ∈ l.committed.entries, e.2.expiration ≤ now + pool.leaseTime) ∧
        ∀ e ∈ l.declined.entries, e.2 ≤ now + pool.leaseTime := by
  have fresh : (opening pool).ledger.Orderly := orderly_fresh pool
  constructor
  · intro x hx lease answered
    obtain ⟨before, between, history⟩ := List.append_of_mem hx
    obtain ⟨earlier, t, rest, rfl, rfl, _, _⟩ := exchanges_split history
    have keeps : ∀ u ∈ earlier, u.pool? = none := fun u hu =>
      same u (List.mem_append_left _ hu)
    have onward : ∀ u ∈ earlier, u.now ≤ t.now := fun u hu =>
      (List.pairwise_append.mp ordered).2.2 u hu t List.mem_cons_self
    have time := expiration_of_leased (orderly_after fresh earlier)
      (near_after fresh (near_fresh t.now pool) onward keeps) answered
    rw [pool_after fresh keeps] at time
    exact time
  · intro now onward l
    have near : l.Near now := near_after fresh (near_fresh now pool) onward same
    have stays : l.pool = pool := pool_after fresh same
    rw [← stays]
    exact ⟨near.leases, near.declines⟩

theorem expiration_exact_of_renewed :
    let turns := [Turn.select 0 (.plain 1) (.home 10), .decline 500 (.home 20),
      .reboot 500 (.plain 1) (.home 10)]
    ∃ x ∈ (opening (.home 1000)).ledger.exchanges turns, ∃ lease, x.answer = .ok (.lease lease) ∧
      lease.expiration = x.turn.now + 1000 ∧
      ∀ e ∈ ((opening (.home 1000)).ledger.after turns).declined.entries, e.2 ≤ 500 + 1000 := by
  intro turns
  let t := Turn.reboot 500 (.plain 1) (.home 10)
  let m := (opening (.home 1000)).ledger.after
    [.select 0 (.plain 1) (.home 10), .decline 500 (.home 20)]
  have lent : (t.exchange m).term? = some (.home 10, 1500) := by decide +kernel
  obtain ⟨lease, answered, _, _⟩ := Exchange.answer_of_term? lent
  have ordered : Chronological turns := by
    simp [Chronological, turns, Turn.select, Turn.decline, Turn.reboot]
  have same : ∀ t ∈ turns, t.pool? = none := by
    simp only [turns, List.forall_mem_cons]
    exact ⟨rfl, rfl, rfl, List.forall_mem_nil _⟩
  have past : ∀ t ∈ turns, t.now ≤ 500 := by
    simp [turns, Turn.select, Turn.decline, Turn.reboot]
  have there : t.exchange m ∈ (opening (.home 1000)).ledger.exchanges turns := by
    simp only [t, m, turns, exchanges, after, List.mem_cons, true_or, or_true]
  obtain ⟨exact, near⟩ := expirations_exact (.home 1000) ordered same
  exact ⟨_, there, lease, answered, exact _ there lease answered, (near 500 past).2⟩

end Ledger
end LeaseBook
