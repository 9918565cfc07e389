import LeaseBook.Proofs.History

/-!
A client can renew its lease as long as it stands, whatever other clients do. The lease is listed
as it was granted, and a client that renews it or verifies it after a restart has it for one lease
time from then on.
-/

namespace LeaseBook

/-- Whether a demand confirms an address: the client renews it, or verifies it after a restart. -/
def Demand.Confirms (q : Demand) (a : Address) : Prop :=
  (q.requested = none ∧ q.source = some a) ∨ (q.requested = some a ∧ q.serverChosen = false)

namespace Exchange

variable {x : Exchange} {q : Demand} {i : Identity}

/-- Whether a request of a client ends at a note that cannot be put into words. By then the lease of
the client may be another one. -/
def CutShort (x : Exchange) (i : Identity) : Prop :=
  ∃ q, x.turn.call.operation = .ok (.request q) ∧ q.client.identity = i ∧
    x.answer = .error .longNumber

theorem not_cutShort_of_foreign (read : x.turn.call.operation = .ok (.request q))
    (foreign : q.client.identity ≠ i) : ¬ x.CutShort i := by
  rintro ⟨other, read', its, _⟩
  cases read.symm.trans read'
  exact foreign its

theorem not_cutShort_of_term? {term : Address × Int} (h : x.term? = some term) :
    ¬ x.CutShort i := by
  rintro ⟨_, _, _, short⟩
  rw [term?, short] at h
  cases h

end Exchange

theorem Numeral.isWritable_between {i j k : Int} (hi : isWritable i = true)
    (hk : isWritable k = true) (above : i ≤ j) (below : j ≤ k) : isWritable j = true := by
  simp only [isWritable, decide_eq_true_eq] at hi hk ⊢
  omega

/-- After a first part that can be put into words, the second part decides the answer. -/
theorem Outcome.written_andThen {α β : Type} {first : Outcome Unit} {operation : Ledger → Outcome α}
    (all : first.notes.all Note.isWritable = true) (f : α → β) :
    ((first.andThen operation).map f).written.answer =
      ((operation first.ledger).map f).written.answer := by
  simp only [written_answer, map_notes, map_answer, andThen, List.all_append, all, Bool.true_and]
  rfl

namespace Ledger

variable {l m : Ledger} {start now : Int} {lease : Lease} {q : Demand}

/-- A lease that has not ended, and that can be put into words, stays where it is unless it is
taken away. -/
theorem Effect.keeps {op : Operation} {answer : Except Fault Answer}
    (effect : Effect now l op answer m) (orderly : l.Orderly) {e : Address × Lease}
    (held : e ∈ l.committed.entries) (alive : now < e.2.expiration)
    (writable : Numeral.isWritable e.2.expiration = true)
    (kept : ¬ op.Frees answer e.2.client.identity e.1)
    (whole : ∀ q, op = .request q → q.client.identity = e.2.client.identity →
      answer ≠ .error .longNumber) : e ∈ m.committed.entries := by
  have live : ¬ Ended now e := Int.not_le.mpr alive
  cases effect with
  | swept _ _ shed => exact shed.spared e held live
  | @committed q _ other m _ shed _ fits answered =>
    have apart : e.2.client.identity ≠ q.client.identity := by
      intro same
      rcases answered with granted | short
      · exact kept ⟨same.symm, other, granted⟩
      · exact whole q rfl same.symm short
    have stays := shed.spared e held fun gone => gone.elim live apart
    have elsewhere : e.1 ≠ other.address := fun here => apart ((fits.sole e stays).mp here)
    exact (mem_commit (shed.orderly orderly)).mpr (.inr ⟨stays, elsewhere⟩)
  | released filed its _ shed answered =>
    refine shed.spared e held fun here => ?_
    subst here
    cases Roster.record_unique orderly.distinct filed held
    rcases answered with found | ⟨_, long⟩
    · exact kept ⟨its.symm, rfl, found⟩
    · rw [long] at writable
      cases writable
  | declined =>
    rw [decline_committed]
    exact held
  | reconfigured _ shed _ => exact shed.spared e held kept

theorem keeps_turn (orderly : l.Orderly) {t : Turn} {e : Address × Lease}
    (held : e ∈ l.committed.entries) (alive : t.now < e.2.expiration)
    (writable : Numeral.isWritable e.2.expiration = true)
    (kept : ¬ (t.exchange l).Frees e.2.client.identity e.1)
    (whole : ¬ (t.exchange l).CutShort e.2.client.identity) :
    e ∈ (t.run l).ledger.committed.entries := by
  rcases turn_effect orderly t with ⟨_, _, same⟩ | ⟨op, read, effect⟩
  · rw [same]
    exact held
  · refine effect.keeps orderly held alive writable (fun frees => kept ⟨op, read, frees⟩) ?_
    rintro q rfl its short
    exact whole ⟨q, read, its, short⟩

/-- A sweep before an instant that can be put into words notes nothing that cannot be, if the clock
started at such an instant. -/
theorem sweep_writable {limit last : Int} (within : l.Within start last)
    (began : Numeral.isWritable start = true) (ends : Numeral.isWritable limit = true)
    (early : now < limit) : (l.sweep now).notes.all Note.isWritable = true := by
  unfold sweep
  split
  · rfl
  · simp only [purged, purgeNotes, List.all_append, List.all_map, Bool.and_eq_true,
      List.all_eq_true, Function.comp_apply]
    constructor
    · intro lease filed
      obtain ⟨a, entry⟩ := Roster.mem_records.mp filed
      obtain ⟨old, ended⟩ := Roster.mem_filter.mp entry
      have above := (within _ old).1
      have below : lease.expiration ≤ limit := by
        simp only [keepsLease, Lease.isExpired, Bool.not_not, decide_eq_true_eq] at ended
        omega
      have digits := Numeral.isWritable_between began ends above below
      exact (Note.isWritable_of_numbers rfl).trans digits
    · intro a _
      rfl

/-- A client that confirms the address of its lease is granted the lease renewed. -/
theorem requestSwept_of_holder (now : Int) (orderly : l.Orderly)
    (held : (lease.address, lease) ∈ l.committed.entries)
    (its : lease.client.identity = q.client.identity) (confirms : q.Confirms lease.address) :
    ∃ note m, note.isWritable = true ∧
      l.requestSwept now q =
        .plain (.ok (lease.renew (now + l.pool.leaseTime) q.hostname)) m
          [note, .leaseCommitted (lease.renew (now + l.pool.leaseTime) q.hostname)] := by
  have assigned : l.leaseOf q.client = some lease :=
    orderly.leaseOf_iff.mpr ⟨Roster.mem_records.mpr ⟨_, held⟩, its⟩
  have here : isElsewhere (some lease) lease.address = false := by simp [isElsewhere]
  have found : l.holder? lease.address none = some lease := by
    have filed := (Roster.find?_eq_some_iff orderly.distinct).mpr held
    simp [holder?, filed]
  have grants : l.grant now q.client lease.address q.hostname none =
      .ok (lease.renew (now + l.pool.leaseTime) q.hostname) := by
    have own := (Lease.isOf_iff_identity lease q.client).mpr its
    simp only [grant, found, own, if_true]
  unfold requestSwept confirm
  rw [assigned]
  rcases confirms with ⟨asked, speaks⟩ | ⟨asked, chosen⟩
  · rw [asked, speaks]
    simp only [here, grants]
    exact ⟨_, _, rfl, rfl⟩
  · rw [asked, chosen]
    simp only [here, grants]
    exact ⟨_, _, rfl, rfl⟩

/-- A lease that stands is listed as it is, and no other lease of its client is. -/
theorem listed_while_held (orderly : l.Orderly) {last : Int} (within : l.Within start last)
    (began : Numeral.isWritable start = true)
    (held : (lease.address, lease) ∈ l.committed.entries)
    (ends : Numeral.isWritable lease.expiration = true) (alive : now < lease.expiration) :
    ∃ leases, (Turn.run ⟨now, .committed⟩ l).answer = .ok (.leases leases) ∧ lease ∈ leases ∧
      ∀ other ∈ leases, other.client.identity = lease.client.identity → other = lease := by
  have shed := (sweep_leaves now l).1.2
  have all := sweep_writable within began ends alive
  have swept : (l.sweep now).ledger.Orderly := shed.orderly orderly
  have stays := Roster.mem_records.mpr ⟨_, shed.spared _ held (Int.not_le.mpr alive)⟩
  refine ⟨(l.sweep now).ledger.committed.records, ?_, stays, fun other filed same => ?_⟩
  · have read : (Turn.mk now .committed).call.operation = .ok .committed := rfl
    rw [run_of_read read]
    exact Outcome.written_andThen all Answer.leases
  · have mine := swept.leaseOf_iff.mpr ⟨stays, rfl⟩
    have its := swept.leaseOf_iff.mpr ⟨filed, same⟩
    exact Option.some.inj (its.symm.trans mine)

/-- A client that confirms the address of its lease while it stands has it for one lease time from
then on, if that is an instant that can be put into words. -/
theorem renewed_while_held (orderly : l.Orderly) (within : l.Within start now)
    (began : Numeral.isWritable start = true)
    (held : (lease.address, lease) ∈ l.committed.entries)
    (ends : Numeral.isWritable lease.expiration = true) (alive : now < lease.expiration)
    {call : Call} (read : call.operation = .ok (.request q))
    (its : q.client.identity = lease.client.identity) (confirms : q.Confirms lease.address) :
    ∃ renewed, renewed.address = lease.address ∧
      renewed.client.identity = lease.client.identity ∧
      renewed.expiration = now + l.pool.leaseTime ∧
      (Turn.run ⟨now, call⟩ l).answer =
        if Numeral.isWritable (now + l.pool.leaseTime) then .ok (.lease renewed)
        else .error .longNumber := by
  obtain ⟨pool, shed⟩ := (sweep_leaves now l).1
  have all := sweep_writable within began ends alive
  have stays := shed.spared _ held (Int.not_le.mpr alive)
  obtain ⟨note, m, writable, granted⟩ :=
    requestSwept_of_holder now (shed.orderly orderly) stays its.symm confirms
  have time : (lease.renew (now + l.pool.leaseTime) q.hostname).expiration =
      now + l.pool.leaseTime := by
    have below := (within _ held).2
    dsimp only at below
    rw [Lease.renew_expiration]
    omega
  refine ⟨lease.renew (now + l.pool.leaseTime) q.hostname, Lease.renew_address _ _ _, ?_, time, ?_⟩
  · rw [Lease.renew_client]
  · have read' : (Turn.mk now call).call.operation = .ok (.request q) := read
    rw [run_of_read read']
    have answered : ((Operation.request q).run now l).written.answer = _ :=
      Outcome.written_andThen all Answer.ofLease
    rw [answered, granted, pool]
    have digits {renewed : Lease} (ends : renewed.expiration = now + l.pool.leaseTime) :
        (Note.leaseCommitted renewed).isWritable =
          Numeral.isWritable (now + l.pool.leaseTime) :=
      Note.isWritable_of_numbers (congrArg (fun i => [i]) ends)
    simp only [Outcome.written_answer, Outcome.map_notes, Outcome.map_answer, Outcome.plain_notes,
      Outcome.plain_answer, List.all_cons, List.all_nil, writable, digits time, Bool.true_and,
      Bool.and_true]
    rfl

/-- Under a pool that stays, a lease once granted is listed as it is until it ends, and its client
may renew it or verify it after a restart, whatever else is called meanwhile, unless the client was
granted another lease or gave it up. A request of the client that was cut short may have taken it
away as well. -/
theorem renewal_guaranteed (pool : Pool) {turns : List Turn} {start now : Int}
    (span : ∀ t ∈ turns, start ≤ t.now ∧ t.now ≤ now)
    (began : Numeral.isWritable start = true) (same : ∀ t ∈ turns, t.pool? = none)
    {before between : List Exchange} {first : Exchange} {c : Client} {lease : Lease}
    (history : (opening pool).ledger.exchanges turns = before ++ first :: between)
    (granted : first.Grants c lease) (alive : now < lease.expiration)
    (kept : ∀ x ∈ between, ¬ x.Frees c.identity lease.address)
    (whole : ∀ x ∈ between, ¬ x.CutShort c.identity) :
    let l := (opening pool).ledger.after turns
    (∃ leases, (Turn.run ⟨now, .committed⟩ l).answer = .ok (.leases leases) ∧ lease ∈ leases ∧
      ∀ other ∈ leases, other.client.identity = c.identity → other = lease) ∧
    ∀ (call : Call) (q : Demand), call.operation = .ok (.request q) →
      q.client.identity = c.identity → q.Confirms lease.address →
      ∃ renewed, renewed.address = lease.address ∧ renewed.client.identity = c.identity ∧
        renewed.expiration = now + pool.leaseTime ∧
        (Turn.run ⟨now, call⟩ l).answer =
          if Numeral.isWritable (now + pool.leaseTime) then .ok (.lease renewed)
          else .error .longNumber := by
  intro l
  have fresh : (opening pool).ledger.Orderly := orderly_fresh pool
  have orderly : l.Orderly := orderly_after fresh turns
  have within : l.Within start now := within_after fresh (within_fresh start now pool) span same
  have stays : l.pool = pool := pool_after fresh same
  have early (x) (hx : x ∈ between) : x.turn.now < lease.expiration := by
    have there : x ∈ (opening pool).ledger.exchanges turns := by
      rw [history]
      exact List.mem_append_right _ (List.mem_cons_of_mem _ hx)
    exact Int.lt_of_le_of_lt (forall_exchanges span x there).2 alive
  obtain ⟨m, rest, begins, rfl, after, entered, its, ends⟩ :=
    entered_by_grant fresh history granted
  have held : (lease.address, lease) ∈ l.committed.entries := by
    -- here the entry itself is kept, from the grant to the end of the run
    change (lease.address, lease) ∈ ((opening pool).ledger.after turns).committed.entries
    rw [after]
    refine after_induction (P := fun m => (lease.address, lease) ∈ m.committed.entries)
      (Q := fun x => x.turn.now < lease.expiration ∧
        ¬ x.Frees c.identity lease.address ∧ ¬ x.CutShort c.identity)
      (fun _ _ orderly held now => ?_) begins entered
      (fun x hx => ⟨early x hx, kept x hx, whole x hx⟩)
    obtain ⟨alive, kept, whole⟩ := now
    rw [← its] at kept whole
    exact keeps_turn orderly held alive ends kept whole
  constructor
  · obtain ⟨leases, listed, filed, sole⟩ :=
      listed_while_held orderly within began held ends alive
    exact ⟨leases, listed, filed, fun other there mine => sole other there (mine.trans its.symm)⟩
  · intro call q read mine confirms
    obtain ⟨renewed, address, client, time, answered⟩ :=
      renewed_while_held orderly within began held ends alive read (mine.trans its.symm) confirms
    rw [stays] at time answered
    exact ⟨renewed, address, client.trans its, time, answered⟩

theorem renewed_after_contest :
    let l := (opening (.home 1000)).ledger
    let first := Turn.select 0 (.plain 1) (.home 10)
    let second := Turn.select 500 (.plain 2) (.home 10)
    let again := Turn.reboot 999 (.plain 1) (.home 10)
    ∃ lease renewed, (first.exchange l).Grants (.plain 1) lease ∧
      (again.run (l.after [first, second])).answer = .ok (.lease renewed) ∧
      renewed.address = lease.address ∧ renewed.expiration = 1999 := by
  intro l first second again
  have lent : (first.exchange l).term? = some (.home 10, 1000) := by decide +kernel
  obtain ⟨lease, granted, its, ends⟩ := Exchange.grants_of_term? rfl lent
  have span : ∀ t ∈ [first, second], (0 : Int) ≤ t.now ∧ t.now ≤ 999 := by
    simp [first, second, Turn.select]
  have same : ∀ t ∈ [first, second], t.pool? = none :=
    List.forall_mem_cons.mpr ⟨rfl, List.forall_mem_cons.mpr ⟨rfl, nofun⟩⟩
  have history : l.exchanges [first, second] =
      [] ++ first.exchange l :: [second.exchange (l.after [first])] := rfl
  have alive : 999 < lease.expiration := by
    rw [ends]
    decide
  have foreign : (Client.plain 2).identity ≠ (Client.plain 1).identity := by decide
  have kept (x) (hx : x ∈ [second.exchange (l.after [first])]) :
      ¬ x.Frees (Client.plain 1).identity lease.address := by
    cases List.mem_singleton.mp hx
    exact Exchange.not_frees_of_foreign rfl foreign
  have whole (x) (hx : x ∈ [second.exchange (l.after [first])]) :
      ¬ x.CutShort (Client.plain 1).identity := by
    cases List.mem_singleton.mp hx
    exact Exchange.not_cutShort_of_foreign rfl foreign
  obtain ⟨_, renews⟩ := renewal_guaranteed (.home 1000) span (by decide +kernel) same history
    granted alive kept whole
  obtain ⟨renewed, address, _, time, answered⟩ :=
    renews again.call _ rfl rfl (.inr ⟨congrArg some its.symm, rfl⟩)
  have digits : Numeral.isWritable (999 + ((Pool.home 1000).leaseTime : Int)) = true := by
    decide +kernel
  rw [digits] at answered
  exact ⟨lease, renewed, granted, answered, address, time⟩

/-- A request that is cut short leaves its client with another lease than the one it was granted. -/
theorem failed_selection_unrenewable :
    let l := (opening (.home (10 ^ 4300 - 1))).ledger
    let first := Turn.select 0 (.plain 1) (.home 10)
    let second := Turn.select 1 (.plain 1) (.home 20)
    let again := Turn.reboot 1 (.plain 1) (.home 10)
    ∃ lease, (first.exchange l).Grants (.plain 1) lease ∧ again.now < lease.expiration ∧
      ¬ (second.exchange (l.after [first])).Frees (Client.plain 1).identity lease.address ∧
      lease.address ∉ (l.after [first, second]).committed.addresses ∧
      ∀ renewed, (again.exchange (l.after [first, second])).answer ≠ .ok (.lease renewed) := by
  intro l first second again
  have lent : (first.exchange l).term? = some (.home 10, 10 ^ 4300 - 1) := by decide +kernel
  have short : (second.exchange (l.after [first])).term? = none := by decide +kernel
  have refused : (again.exchange (l.after [first, second])).term? = none := by decide +kernel
  obtain ⟨lease, granted, its, ends⟩ := Exchange.grants_of_term? rfl lent
  refine ⟨lease, granted, ?_, ?_, ?_, Exchange.not_leased_of_term? refused⟩
  · rw [ends]
    decide +kernel
  · exact Exchange.not_frees_of_term? rfl short
  · rw [its]
    decide +kernel

end Ledger
end LeaseBook
