import LeaseBook.Proofs.Clearing
import LeaseBook.Proofs.Renewal

/-!
A client can take what it is offered. Offers and requests look for free addresses each in its own
way; what the two agree on is that nobody else has the address and that the pool has it to give,
and that stays so until another client is granted the address.
-/

namespace LeaseBook

/-- Whether a demand takes up an offer of an address. -/
def Demand.TakesUp (q : Demand) (a : Address) : Prop :=
  q.requested = some a ∧ q.serverChosen = true

def Answer.refusal? : Answer → Option Refusal
  | .refused refusal => some refusal
  | _ => none

theorem Answer.eq_of_refusal? (r : Answer) (refusal : Refusal) (h : r.refusal? = some refusal) :
    r = .refused refusal := by
  cases r <;> cases h
  rfl

def Turn.discover (now : Int) (c : Client) (wish : Address) : Turn :=
  ⟨now, .offer c.id (.identifier (.short c.hardware)) .null .null (.address (.v4 wish)) .null⟩

namespace Exchange

variable {x : Exchange} {q : Discovery} {i : Identity} {a : Address} {expiration : Int}

/-- Whether a client is offered a lease. -/
def Offers (x : Exchange) (c : Client) (lease : Lease) : Prop :=
  ∃ q : Discovery, x.turn.call.operation = .ok (.offer q) ∧ q.client = c ∧
    x.answer = .ok (.lease lease)

/-- Whether a client other than one is granted an address. -/
def Takes (x : Exchange) (i : Identity) (a : Address) : Prop :=
  ∃ c lease, x.Grants c lease ∧ c.identity ≠ i ∧ lease.address = a

/-- Whether a client is granted another address than one, or a request of it is cut short. -/
def Moves (x : Exchange) (i : Identity) (a : Address) : Prop :=
  (∃ c lease, x.Grants c lease ∧ c.identity = i ∧ lease.address ≠ a) ∨ x.CutShort i

theorem offers_of_term? (read : x.turn.call.operation = .ok (.offer q))
    (h : x.term? = some (a, expiration)) :
    ∃ lease, x.Offers q.client lease ∧ lease.address = a ∧ lease.expiration = expiration := by
  obtain ⟨lease, answered, here, ends⟩ := answer_of_term? h
  exact ⟨lease, ⟨q, read, rfl, answered⟩, here, ends⟩

theorem not_takes_of_term? (h : x.term? = none) : ¬ x.Takes i a := by
  rintro ⟨_, lease, ⟨_, _, _, granted⟩, _⟩
  exact not_leased_of_term? h lease granted

theorem not_takes_of_elsewhere {b : Address} (h : x.term? = some (b, expiration)) (apart : b ≠ a) :
    ¬ x.Takes i a := by
  rintro ⟨_, lease, ⟨_, _, _, granted⟩, _, here⟩
  rw [term?, granted] at h
  cases h
  exact apart here

end Exchange

namespace Ledger

variable {l m : Ledger} {start now last : Int} {i : Identity} {a : Address} {c : Client}
  {lease : Lease} {q : Demand} {t : Turn} {turns : List Turn}

/-- Whether nobody has an address except for one client at most. -/
def OpenTo (i : Identity) (a : Address) (l : Ledger) : Prop :=
  ∀ e ∈ l.committed.entries, e.1 = a → e.2.client.identity = i

/-- Whether a client has no address except for one at most. -/
def SettledOn (i : Identity) (a : Address) (l : Ledger) : Prop :=
  ∀ e ∈ l.committed.entries, e.2.client.identity = i → e.1 = a

/-- Whether all leases stand on addresses that the pool has to give. -/
def Assigned (l : Ledger) : Prop := ∀ e ∈ l.committed.entries, l.pool.Assigns e.1

/- What one turn keeps. -/

theorem assigned_turn (orderly : l.Orderly) (assigned : l.Assigned) (keeps : t.pool? = none) :
    (t.run l).ledger.Assigned := by
  unfold Assigned
  rw [pool_turn orderly keeps]
  refine every_turn orderly assigned fun q lease m enters => ?_
  rcases enters.fits.assigned with new | old
  · rw [← enters.pool]
    exact new
  · obtain ⟨before, entry⟩ := Roster.mem_addresses.mp old
    exact assigned (_, before) (enters.fewer.mem entry)

/-- An address stays open to a client until another one is granted it. As long as instants can be
put into words, no request is cut short behind which another client would have it nevertheless. -/
theorem openTo_turn (orderly : l.Orderly) (within : l.Within start last)
    (began : Numeral.isWritable start = true)
    (ends : Numeral.isWritable (last + l.pool.leaseTime) = true)
    (opened : l.OpenTo i a) (early : start ≤ t.now) (late : t.now ≤ last)
    (others : ¬ (t.exchange l).Takes i a) : (t.run l).ledger.OpenTo i a := by
  refine every_turn orderly opened fun q lease m enters here => ?_
  have within : m.Within start last := by
    unfold Within
    rw [enters.pool]
    exact fun e he => within e (enters.fewer.mem he)
  obtain ⟨above, below⟩ := enters.fits.within within early late
  rw [enters.pool] at below
  have answered := enters.answered
  rw [if_pos (Numeral.isWritable_between began ends above below)] at answered
  have granted : (t.exchange l).Grants q.client lease := ⟨q, enters.read, rfl, answered⟩
  refine Decidable.byContradiction fun foreign => others ⟨_, lease, granted, ?_, here⟩
  rw [← enters.fits.client]
  exact foreign

theorem settledOn_turn (orderly : l.Orderly) (settled : l.SettledOn i a)
    (stays : ¬ (t.exchange l).Moves i a) : (t.run l).ledger.SettledOn i a := by
  refine every_turn orderly settled fun q lease m enters its => ?_
  have mine : q.client.identity = i := enters.fits.client.symm.trans its
  have answered := enters.answered
  split at answered
  · refine Decidable.byContradiction fun elsewhere => stays (.inl ⟨q.client, lease, ?_⟩)
    exact ⟨⟨q, enters.read, rfl, answered⟩, mine, elsewhere⟩
  · exact absurd (.inr ⟨q, enters.read, mine, answered⟩) stays

/- What an offer leaves behind. -/

/-- What an offer of a lease comes with: nobody else has the address, the pool has it to give or the
client had it already, and the lease ends one lease time from now at least. -/
structure Offered (now : Int) (c : Client) (lease : Lease) (l m : Ledger) : Prop where
  pool : m.pool = l.pool
  fewer : m.committed.entries.Sublist l.committed.entries
  lives : ∀ e ∈ m.committed.entries, ¬ Ended now e
  opened : m.OpenTo c.identity lease.address
  assigned : l.pool.Assigns lease.address ∨
    ∃ e ∈ l.committed.entries, e.1 = lease.address ∧ e.2.client.identity = c.identity
  late : now + l.pool.leaseTime ≤ lease.expiration
  writable : Numeral.isWritable lease.expiration = true

theorem offered_of_offers (orderly : l.Orderly) (right : l.Bounded) (served : l.Served)
    (offers : (t.exchange l).Offers c lease) : Offered t.now c lease l (t.run l).ledger := by
  obtain ⟨q, read, rfl, offered⟩ := offers
  have run : t.run l = ((Operation.offer q).run t.now l).written := run_of_read read l
  have answered : (t.run l).answer = .ok (.lease lease) := offered
  rw [run] at answered
  obtain ⟨same, left, all⟩ := Outcome.written_of_ok answered
  rw [run, left]
  obtain ⟨pool, shed⟩ := (sweep_leaves t.now l).1
  have swept : (l.sweep t.now).ledger.Orderly := shed.orderly orderly
  have lives := (sweep_cleared right t.now).lives
  have opened := offerSwept_open swept (Answer.ofLease_eq_lease same)
  have declined := (shed.served pool served).declined
  simp only [Operation.run, offer, Ledger.swept, Outcome.map_notes, Outcome.map_ledger,
    Outcome.map_answer, Outcome.andThen, List.all_append, Bool.and_eq_true] at same all ⊢
  have quoted := offerSwept_quoted t.now q (l.sweep t.now).ledger
  generalize (l.sweep t.now).ledger = m at *
  generalize m.offerSwept t.now q = o at quoted same all ⊢
  cases quoted with
  | refused refusal notes => cases same
  | own current found notes words =>
    cases same
    obtain ⟨entry, its⟩ := swept.mem_of_leaseOf found
    have before := shed.committed.mem entry
    refine ⟨pool, shed.committed, lives, opened, .inr ⟨_, before, ?_, its⟩, ?_, ?_⟩
    · rw [Lease.renew_address]
    · rw [Lease.renew_expiration, pool]
      exact Int.le_max_right _ _
    · exact words ▸ all.2
  | fresh a rest notes inside valid available fewer words =>
    cases same
    have reserved : m.pool.isReserved a = false := by
      simp only [isAvailable, Bool.and_eq_true, Bool.not_eq_true'] at available
      exact available.1
    have assigned : m.pool.Assigns a := ⟨inside.elim id (declined a), valid, reserved⟩
    refine ⟨pool, shed.committed, lives, opened, .inl ?_, ?_, ?_⟩
    · rw [← pool]
      exact assigned
    · refine Int.le_of_eq ?_
      rw [pool]
    · exact words ▸ all.2

/- Taking an address up. -/

theorem holder?_of_openTo (orderly : l.Orderly) (opened : l.OpenTo c.identity a) :
    l.holder? a (l.leaseOf c) = none := by
  cases found : l.committed.find? a with
  | none => simp [holder?, found]
  | some current =>
    have entry := Roster.mem_of_find? found
    have its : current.client.identity = c.identity := opened _ entry rfl
    have own := orderly.leaseOf_iff.mpr ⟨Roster.mem_records.mpr ⟨_, entry⟩, its⟩
    simp [holder?, found, own]

theorem confirm_answer (now : Int) (q : Demand) (a : Address) (dropping : Option Lease)
    (note : Note) (l : Ledger) :
    (l.confirm now q a dropping note).answer = l.grant now q.client a q.hostname dropping := by
  unfold confirm
  split
  · rename_i refused
    exact refused.symm
  · rename_i granted
    exact granted.symm

theorem requestSwept_of_takesUp (takes : q.TakesUp a) (now : Int) (l : Ledger) :
    (l.requestSwept now q).answer = l.grant now q.client a q.hostname (l.leaseOf q.client) := by
  unfold requestSwept
  simp only [takes.1, takes.2, if_true, confirm_answer]

theorem grant_of_openTo (orderly : l.Orderly) (opened : l.OpenTo c.identity a) (now : Int)
    (hostname : Value) : l.grant now c a hostname (l.leaseOf c) =
      if l.pool.Assigns a then .ok ⟨c, a, now + l.pool.leaseTime, hostname⟩
      else .error .unavailable := by
  simp only [grant, holder?_of_openTo orderly opened, Pool.assigns_iff]

theorem address_of_grant (orderly : l.Orderly) {dropping : Option Lease} {hostname : Value}
    (h : l.grant now c a hostname dropping = .ok lease) : lease.address = a := by
  simp only [grant] at h
  split at h
  · rename_i current held
    have key : current.address = a := orderly.keyed _ (holder?_eq_some held).1
    split at h
    · cases h
      rw [Lease.renew_address, key]
    · cases h
  · split at h
    · cases h
      rfl
    · cases h

/-- A client that takes up an offer of an address which nobody else has is granted the address if
the pool has it to give, as far as what comes with that can be put into words. -/
theorem taken_iff (orderly : l.Orderly) (right : l.Bounded)
    (read : t.call.operation = .ok (.request q)) (takes : q.TakesUp a)
    (opened : l.OpenTo q.client.identity a) :
    (∃ granted, (t.run l).answer = .ok (.lease granted)) ↔ l.Clears t.now ∧ l.pool.Assigns a ∧
      Numeral.isWritable (t.now + l.pool.leaseTime) = true := by
  obtain ⟨pool, shed⟩ := (sweep_leaves t.now l).1
  have swept : (l.sweep t.now).ledger.Orderly := shed.orderly orderly
  have still : (l.sweep t.now).ledger.OpenTo q.client.identity a :=
    fun e he => opened e (shed.committed.mem he)
  have answered := requestSwept_of_takesUp takes t.now (l.sweep t.now).ledger
  rw [grant_of_openTo swept still, pool] at answered
  have words := requestSwept_notes t.now q (l.sweep t.now).ledger
  rw [run_of_read read, ← sweep_writable_iff right]
  simp only [Operation.run, request, Ledger.swept, Outcome.written_answer, Outcome.map_notes,
    Outcome.map_answer, Outcome.andThen, List.all_append, Bool.and_eq_true]
  generalize (l.sweep t.now).ledger.requestSwept t.now q = o at answered words ⊢
  by_cases assigned : l.pool.Assigns a
  · rw [if_pos assigned] at answered
    have digits : o.notes.all Note.isWritable = Numeral.isWritable (t.now + l.pool.leaseTime) :=
      words ⟨q.client, a, t.now + l.pool.leaseTime, q.hostname⟩ answered
    rw [answered, digits]
    constructor
    · rintro ⟨granted, same⟩
      split at same
      · rename_i all
        exact ⟨all.1, assigned, all.2⟩
      · cases same
    · rintro ⟨clears, _, writable⟩
      exact ⟨_, if_pos ⟨clears, writable⟩⟩
  · rw [if_neg assigned] at answered
    rw [answered]
    constructor
    · rintro ⟨granted, same⟩
      split at same
      · cases same
      · cases same
    · rintro ⟨_, assigns, _⟩
      exact absurd assigns assigned

theorem granted_address (orderly : l.Orderly) (read : t.call.operation = .ok (.request q))
    (takes : q.TakesUp a) (granted : (t.run l).answer = .ok (.lease lease)) :
    lease.address = a := by
  rw [run_of_read read] at granted
  obtain ⟨same, _, _⟩ := Outcome.written_of_ok granted
  have swept := orderly_sweep orderly t.now
  have answered : ((l.sweep t.now).ledger.requestSwept t.now q).answer = .ok lease :=
    Answer.ofLease_eq_lease same
  rw [requestSwept_of_takesUp takes] at answered
  exact address_of_grant swept answered

/-- Behind a granted request its client has that lease and no other. -/
theorem sole_of_granted (orderly : l.Orderly) (read : t.call.operation = .ok (.request q))
    (granted : (t.run l).answer = .ok (.lease lease)) (e : Address × Lease) :
    e ∈ (t.run l).ledger.committed.entries ∧ e.2.client.identity = q.client.identity ↔
      e = (lease.address, lease) := by
  have after : (t.run l).ledger.Orderly := orderly_turn orderly t
  rw [run_of_read read] at granted after ⊢
  obtain ⟨m, _, shed, fits, left, _⟩ := request_granted orderly granted
  rw [left] at after ⊢
  have entry : (lease.address, lease) ∈ (m.commit lease).committed.entries :=
    (mem_commit (shed.orderly orderly)).mpr (.inl rfl)
  constructor
  · rintro ⟨he, its⟩
    have here := after.single e he _ entry (its.trans fits.client.symm)
    exact Roster.entry_unique after.distinct he entry here
  · rintro rfl
    exact ⟨entry, fits.client⟩

/-- A granted lease lasts one lease time at least, and can be put into words. -/
theorem granted_late (orderly : l.Orderly) (read : t.call.operation = .ok (.request q))
    (granted : (t.run l).answer = .ok (.lease lease)) :
    t.now + l.pool.leaseTime ≤ lease.expiration ∧
      Numeral.isWritable lease.expiration = true := by
  rw [run_of_read read] at granted
  obtain ⟨m, pool, _, fits, _, writable⟩ := request_granted orderly granted
  refine ⟨?_, writable⟩
  rw [← pool]
  rcases fits.time with ⟨_, time⟩ | ⟨old, _, _, time⟩
  · omega
  · omega

theorem clears_of_within (within : l.Within start last) (began : Numeral.isWritable start = true)
    (ends : Numeral.isWritable now = true) : l.Clears now :=
  fun e he past => Numeral.isWritable_between began ends (within e he).1 past

theorem assigned_after (orderly : l.Orderly) (assigned : l.Assigned)
    (keeps : ∀ t ∈ turns, t.pool? = none) : (l.after turns).Assigned :=
  after_induction (fun _ _ => assigned_turn) orderly assigned (forall_exchanges keeps)

theorem openTo_after (orderly : l.Orderly) (within : l.Within start last)
    (began : Numeral.isWritable start = true)
    (ends : Numeral.isWritable (last + l.pool.leaseTime) = true)
    (opened : l.OpenTo i a)
    (span : ∀ t ∈ turns, start ≤ t.now ∧ t.now ≤ last) (keeps : ∀ t ∈ turns, t.pool? = none)
    (others : ∀ x ∈ l.exchanges turns, ¬ x.Takes i a) : (l.after turns).OpenTo i a := by
  have during := forall_exchanges (l := l)
    (p := fun t => (start ≤ t.now ∧ t.now ≤ last) ∧ t.pool? = none)
    fun t ht => ⟨span t ht, keeps t ht⟩
  -- pool and bounds are carried along, for they rule out that a request is cut short
  refine (after_induction (P := fun m => m.pool = l.pool ∧ m.Within start last ∧ m.OpenTo i a)
    (Q := fun x => ((start ≤ x.turn.now ∧ x.turn.now ≤ last) ∧ x.turn.pool? = none) ∧
      ¬ x.Takes i a)
    (fun m t orderly kept here => ?_) orderly ⟨rfl, within, opened⟩
    fun x hx => ⟨during x hx, others x hx⟩).2.2
  obtain ⟨pool, within, opened⟩ := kept
  obtain ⟨⟨⟨early, late⟩, keeps⟩, others⟩ := here
  rw [← pool] at ends
  exact ⟨(pool_turn orderly keeps).trans pool, within_turn orderly within early late keeps,
    openTo_turn orderly within began ends opened early late others⟩

/-- What an offer says of its address stands until another client is granted the address. -/
theorem offer_stands (pool : Pool) {last : Int} (span : ∀ t ∈ turns, start ≤ t.now ∧ t.now ≤ last)
    (began : Numeral.isWritable start = true)
    (ends : Numeral.isWritable (last + pool.leaseTime) = true) (same : ∀ t ∈ turns, t.pool? = none)
    {before between : List Exchange} {first : Exchange}
    (history : (opening pool).ledger.exchanges turns = before ++ first :: between)
    (offered : first.Offers c lease)
    (others : ∀ x ∈ between, ¬ x.Takes c.identity lease.address) :
    pool.Assigns lease.address ∧
      ((opening pool).ledger.after turns).OpenTo c.identity lease.address := by
  obtain ⟨earlier, t, rest, rfl, rfl, after, rfl⟩ := exchanges_split history
  obtain ⟨spanBefore, spanLater⟩ := List.forall_mem_append.mp span
  obtain ⟨sameBefore, sameLater⟩ := List.forall_mem_append.mp same
  obtain ⟨spanHere, spanAfter⟩ := List.forall_mem_cons.mp spanLater
  obtain ⟨sameHere, sameAfter⟩ := List.forall_mem_cons.mp sameLater
  have fresh : (opening pool).ledger.Orderly := orderly_fresh pool
  have orderly := orderly_after fresh earlier
  have right := bounded_after fresh (bounded_fresh pool) earlier
  have served := served_after fresh (served_fresh pool) sameBefore
  have pool' : ((opening pool).ledger.after earlier).pool = pool := pool_after fresh sameBefore
  have offer := offered_of_offers orderly right served offered
  constructor
  · rw [← pool']
    rcases offer.assigned with new | ⟨e, entry, here, _⟩
    · exact new
    · rw [← here]
      exact assigned_after fresh nofun sameBefore e entry
  · rw [after]
    have within := within_after fresh (within_fresh start last pool) spanBefore sameBefore
    have within' := within_turn orderly within spanHere.1 spanHere.2 sameHere
    rw [← pool', ← offer.pool] at ends
    exact openTo_after (orderly_turn orderly t) within' began ends offer.opened spanAfter sameAfter
      others

/-- Under a pool that stays, an address that a client was offered is granted to it whenever it asks
for it, if its lease then ends at an instant that can be put into words, whatever is called
meanwhile, as long as no other client is granted the address. The client then has that lease and no
other, and none on another address until it is granted one or a request of it is cut short. -/
theorem offered_address_taken (pool : Pool) {turns : List Turn} {start now : Int}
    (span : ∀ t ∈ turns, start ≤ t.now ∧ t.now ≤ now)
    (began : Numeral.isWritable start = true) (same : ∀ t ∈ turns, t.pool? = none)
    {before between : List Exchange} {first : Exchange} {c : Client} {lease : Lease}
    (history : (opening pool).ledger.exchanges turns = before ++ first :: between)
    (offered : first.Offers c lease)
    (others : ∀ x ∈ between, ¬ x.Takes c.identity lease.address)
    {call : Call} {q : Demand} (read : call.operation = .ok (.request q))
    (its : q.client.identity = c.identity) (takes : q.TakesUp lease.address) :
    let o := Turn.run ⟨now, call⟩ ((opening pool).ledger.after turns)
    ((∃ granted, o.answer = .ok (.lease granted)) ↔
      Numeral.isWritable (now + pool.leaseTime) = true) ∧
    ∀ granted, o.answer = .ok (.lease granted) → granted.address = lease.address ∧
      (∀ e, e ∈ o.ledger.committed.entries ∧ e.2.client.identity = c.identity ↔
        e = (lease.address, granted)) ∧
      ∀ later, (∀ x ∈ o.ledger.exchanges later, ¬ x.Moves c.identity lease.address) →
        (o.ledger.after later).SettledOn c.identity lease.address := by
  intro o
  have fresh : (opening pool).ledger.Orderly := orderly_fresh pool
  have orderly : ((opening pool).ledger.after turns).Orderly := orderly_after fresh turns
  have within : ((opening pool).ledger.after turns).Within start now :=
    within_after fresh (within_fresh start now pool) span same
  have stays : ((opening pool).ledger.after turns).pool = pool := pool_after fresh same
  have right : ((opening pool).ledger.after turns).Bounded :=
    bounded_after fresh (bounded_fresh pool) turns
  have started : start ≤ now := by
    obtain ⟨_, t, _, rfl, _⟩ := exchanges_split history
    have := span t (List.mem_append_right _ List.mem_cons_self)
    omega
  have read' : (Turn.mk now call).call.operation = .ok (.request q) := read
  rw [← its]
  refine ⟨⟨fun ⟨granted, answered⟩ => ?_, fun ends => ?_⟩, fun granted answered => ?_⟩
  · obtain ⟨late, writable⟩ := granted_late orderly read' answered
    rw [stays] at late
    have early : start ≤ now + pool.leaseTime := by omega
    exact Numeral.isWritable_between began writable early late
  · obtain ⟨assigns, opened⟩ := offer_stands pool span began ends same history offered others
    have present := Numeral.isWritable_between began ends started (by omega)
    have clears := clears_of_within within began present
    rw [← its] at opened
    rw [← stays] at assigns ends
    exact (taken_iff orderly right read' takes opened).mpr ⟨clears, assigns, ends⟩
  · have here : granted.address = lease.address := granted_address orderly read' takes answered
    have sole := sole_of_granted orderly read' answered
    rw [here] at sole
    refine ⟨here, sole, fun later stays => ?_⟩
    have settled : o.ledger.SettledOn q.client.identity lease.address := by
      intro e he mine
      rw [(sole e).mp ⟨he, mine⟩]
    exact after_induction (fun _ _ => settledOn_turn) (orderly_turn orderly _) settled stays

theorem offer_taken_after_contest :
    let l := (opening (.home 1000)).ledger
    let first := Turn.discover 0 (.plain 1) (.home 10)
    let second := Turn.discover 400 (.plain 2) (.home 10)
    let third := Turn.select 500 (.plain 2) (.home 20)
    let last := Turn.select 1000 (.plain 1) (.home 10)
    ∃ lease granted, (first.exchange l).Offers (.plain 1) lease ∧
      (last.run (l.after [first, second, third])).answer = .ok (.lease granted) ∧
      granted.address = lease.address := by
  intro l first second third last
  have quoted : (first.exchange l).term? = some (.home 10, 1000) := by decide +kernel
  have taken : (third.exchange (l.after [first, second])).term? = some (.home 20, 1500) := by
    decide +kernel
  obtain ⟨lease, offered, its, _⟩ := Exchange.offers_of_term? rfl quoted
  have span : ∀ t ∈ [first, second, third], (0 : Int) ≤ t.now ∧ t.now ≤ 1000 := by
    simp [first, second, third, Turn.discover, Turn.select]
  have same : ∀ t ∈ [first, second, third], t.pool? = none :=
    List.forall_mem_cons.mpr ⟨rfl, List.forall_mem_cons.mpr ⟨rfl,
      List.forall_mem_cons.mpr ⟨rfl, List.forall_mem_nil _⟩⟩⟩
  have history : l.exchanges [first, second, third] = [] ++ first.exchange l ::
      [second.exchange (l.after [first]), third.exchange (l.after [first, second])] := rfl
  have others (x) (hx : x ∈ [second.exchange (l.after [first]),
      third.exchange (l.after [first, second])]) :
      ¬ x.Takes (Client.plain 1).identity lease.address := by
    rcases List.mem_cons.mp hx with rfl | hx
    · rintro ⟨_, _, ⟨_, read, _⟩, _⟩
      cases read
    · cases List.mem_singleton.mp hx
      rw [its]
      exact Exchange.not_takes_of_elsewhere taken (by decide)
  have read : last.call.operation =
      .ok (.request ⟨.plain 1, none, some (.home 10), true, .null⟩) := rfl
  obtain ⟨granted, lasting⟩ := offered_address_taken (.home 1000) span (by decide +kernel) same
    history offered others read rfl ⟨congrArg some its.symm, rfl⟩
  have digits : Numeral.isWritable (1000 + ((Pool.home 1000).leaseTime : Int)) = true := by
    decide +kernel
  obtain ⟨renewed, answered⟩ := granted.mpr digits
  exact ⟨lease, renewed, offered, answered, (lasting renewed answered).1⟩

/-- A request that fails takes the address that another client was offered. -/
theorem failed_selection_takes_offer :
    let l := (opening (.home (10 ^ 4300 - 1))).ledger
    let first := Turn.discover 0 (.plain 1) (.home 10)
    let second := Turn.select 1 (.plain 2) (.home 10)
    let last := Turn.select 1 (.plain 1) (.home 10)
    ∃ lease, (first.exchange l).Offers (.plain 1) lease ∧ lease.address = .home 10 ∧
      ¬ (second.exchange (l.after [first])).Takes (Client.plain 1).identity lease.address ∧
      (last.run (l.after [first, second])).answer = .ok (.refused .inUse) := by
  intro l first second last
  have quoted : (first.exchange l).term? = some (.home 10, 10 ^ 4300 - 1) := by decide +kernel
  have short : (second.exchange (l.after [first])).term? = none := by decide +kernel
  have refused : (last.exchange (l.after [first, second])).said? Answer.refusal? =
      some .inUse := by decide +kernel
  obtain ⟨lease, offered, its, _⟩ := Exchange.offers_of_term? rfl quoted
  exact ⟨lease, offered, its, Exchange.not_takes_of_term? short,
    Turn.answer_of_said? Answer.eq_of_refusal? refused⟩

end Ledger
end LeaseBook
