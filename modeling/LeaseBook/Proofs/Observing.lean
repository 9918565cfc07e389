import LeaseBook.Proofs.Declining
import LeaseBook.Proofs.Repeating

/-!
What reads change. A read sweeps the ledger, so that of two runs which differ in reads one may hold
entries that have ended and that the other has struck out already. Everything that sweeps first
does the same on both. A decline does, unless it goes by unheard because of such an entry. Only a
release tells the two apart: it finds a lease that has ended as long as no sweep has come by.
-/

namespace LeaseBook

def Turn.release (now : Int) (c : Client) (a : Address) : Turn :=
  ⟨now, .release c.id (.identifier (.short c.hardware)) (.address (.v4 a))⟩

def Answer.found? : Answer → Option Bool
  | .released found => some found
  | _ => none

theorem Answer.eq_of_found? (r : Answer) (found : Bool) (h : r.found? = some found) :
    r = .released found := by
  cases r <;> cases h
  rfl

/-- A run with reads put in. -/
inductive Turn.Watched : List Turn → List Turn → Prop
  | nil : Watched [] []
  | call (t : Turn) {turns watched : List Turn} (rest : Watched turns watched) :
      Watched (t :: turns) (t :: watched)
  | read {t : Turn} {turns watched : List Turn}
      (reads : t.call = .committed ∨ t.call = .declined) (rest : Watched turns watched) :
      Watched turns (t :: watched)

namespace Ledger

/-- Whether no decline in a run goes by unheard because an earlier one has lapsed. -/
def Heard (l : Ledger) : List Turn → Prop
  | [] => True
  | t :: rest =>
    (∀ a, t.call.operation = .ok (.decline a) → ¬ l.Lapsed t.now a) ∧ (t.run l).ledger.Heard rest

variable {l m : Ledger} {now later : Int} {a : Address} {c : Client}

/-- Whether a ledger is another one without some of what has ended. -/
structure Trails (now : Int) (l m : Ledger) : Prop where
  pool : m.pool = l.pool
  committed : (m.committed.filter fun _ lease => keepsLease now lease) =
    l.committed.filter fun _ lease => keepsLease now lease
  declined : (m.declined.filter fun _ expiration => keepsDecline now expiration) =
    l.declined.filter fun _ expiration => keepsDecline now expiration
  leases : m.committed.entries.Sublist l.committed.entries
  declines : m.declined.entries.Sublist l.declined.entries

namespace Trails

theorem of_book (now : Int) (same : m.book = l.book) : Trails now l m := by
  have committed : m.committed = l.committed := congrArg Book.committed same
  have declined : m.declined = l.declined := congrArg Book.declined same
  refine ⟨congrArg Book.pool same, ?_, ?_, committed ▸ .refl _, declined ▸ .refl _⟩
  · rw [committed]
  · rw [declined]

theorem mono (trails : Trails now l m) (onward : now ≤ later) : Trails later l m where
  pool := trails.pool
  committed := by
    have weaker (_ : Address) (lease : Lease) (keeps : keepsLease later lease = true) :
        keepsLease now lease = true :=
      keepsLease_iff.mpr (Int.lt_of_le_of_lt onward (keepsLease_iff.mp keeps))
    rw [← Roster.filter_filter_of_imp weaker, trails.committed, Roster.filter_filter_of_imp weaker]
  declined := by
    have weaker (_ : Address) (expiration : Int) (keeps : keepsDecline later expiration = true) :
        keepsDecline now expiration = true :=
      decide_eq_true (Int.lt_of_le_of_lt onward (of_decide_eq_true keeps))
    rw [← Roster.filter_filter_of_imp weaker, trails.declined, Roster.filter_filter_of_imp weaker]
  leases := trails.leases
  declines := trails.declines

theorem worded (trails : Trails now l m) (worded : l.Worded) : m.Worded :=
  fun e he => worded e (trails.leases.mem he)

theorem swept (trails : Trails now l m) (right : m.Bounded) :
    Trails now l (m.sweep now).ledger := by
  have cleared := sweep_cleared right now
  have shed := (sweep_leaves now m).1.2
  refine ⟨cleared.pool.trans trails.pool, ?_, ?_, shed.committed.trans trails.leases,
    shed.declined.trans trails.declines⟩
  · rw [cleared.committed, Roster.filter_filter_of_imp fun _ _ => id, trails.committed]
  · rw [cleared.declined, Roster.filter_filter_of_imp fun _ _ => id, trails.declined]

theorem book_sweep (trails : Trails now l m) (right : l.Bounded) (right' : m.Bounded) :
    (m.sweep now).ledger.book = (l.sweep now).ledger.book := by
  have cleared := sweep_cleared right now
  have cleared' := sweep_cleared right' now
  simp only [book, cleared.pool, cleared.committed, cleared.declined, cleared'.pool,
    cleared'.committed, cleared'.declined, trails.pool, trails.committed, trails.declined]

/-- What runs on the swept ledger does the same on both. -/
theorem andThen {α β : Type} {operation : Ledger → Outcome α} (f : α → β)
    (blind : ∀ l m, l.book = m.book → (operation l).Alike (operation m))
    (trails : Trails now l m) (right : l.Bounded) (right' : m.Bounded) (worded : l.Worded) :
    let run l := (((sweep now l).andThen operation).map f).written
    (run m).answer = (run l).answer ∧ Trails now (run l).ledger (run m).ledger := by
  intro run
  -- neither sweep is cut short, so what is swept first has no say in the answer
  have all := (sweep_writable_iff right).mpr (worded.clears now)
  have all' := (sweep_writable_iff right').mpr ((trails.worded worded).clears now)
  have alike := ((blind _ _ (trails.book_sweep right right')).map f).written
  have answer (l : Ledger) (all : (l.sweep now).notes.all Note.isWritable = true) :
      (run l).answer = ((operation (l.sweep now).ledger).map f).written.answer :=
    Outcome.written_andThen all f
  have left (l : Ledger) (all : (l.sweep now).notes.all Note.isWritable = true) :
      (run l).ledger = ((operation (l.sweep now).ledger).map f).written.ledger :=
    Outcome.written_andThen_ledger all f
  rw [answer l all, answer m all', left l all, left m all']
  exact ⟨alike.answer, of_book now alike.ledger⟩

theorem mem_of_lives (trails : Trails now l m) {e : Address × Lease}
    (there : e ∈ l.committed.entries) (alive : now < e.2.expiration) :
    e ∈ m.committed.entries := by
  have kept : e ∈ (l.committed.filter fun _ lease => keepsLease now lease).entries :=
    Roster.mem_filter.mpr ⟨there, keepsLease_iff.mpr alive⟩
  rw [← trails.committed] at kept
  exact (Roster.mem_filter.mp kept).1

theorem erase (trails : Trails now l m) (a : Address) :
    Trails now { l with committed := l.committed.erase a }
      { m with committed := m.committed.erase a } where
  pool := trails.pool
  committed := Roster.filter_congr (p := fun b _ => b != a) trails.committed
  declined := trails.declined
  leases := trails.leases.filter _
  declines := trails.declines

/-- Of two declines, both are heard or neither, unless an earlier one has lapsed. -/
theorem decline (trails : Trails now l m) (heard : ¬ l.Lapsed now a) :
    (m.decline now a).notes = (l.decline now a).notes ∧
      Trails now (l.decline now a).ledger (m.decline now a).ledger := by
  -- an entry that only one of them still has is one that has lapsed
  have same : m.declined.contains a = l.declined.contains a := by
    rw [Bool.eq_iff_iff, Roster.contains_iff, Roster.contains_iff, Roster.mem_addresses,
      Roster.mem_addresses]
    constructor
    · rintro ⟨expiration, there⟩
      exact ⟨expiration, trails.declines.mem there⟩
    · rintro ⟨expiration, there⟩
      have holds : now < expiration := Int.not_le.mp fun past => heard ⟨expiration, there, past⟩
      have kept : (a, expiration) ∈
          (l.declined.filter fun _ expiration => keepsDecline now expiration).entries :=
        Roster.mem_filter.mpr ⟨there, decide_eq_true holds⟩
      rw [← trails.declined] at kept
      exact ⟨expiration, (Roster.mem_filter.mp kept).1⟩
  unfold Ledger.decline
  rw [same, trails.pool]
  split
  · exact ⟨rfl, trails⟩
  · rename_i fresh
    simp only [Bool.or_eq_true, not_or, Bool.not_eq_true] at fresh
    have missing := Roster.contains_eq_false_iff.mp fresh.1
    have missing' := Roster.contains_eq_false_iff.mp (same.trans fresh.1)
    refine ⟨rfl, rfl, trails.committed, ?_, trails.leases, ?_⟩
    · have standing := congrArg Roster.entries trails.declined
      simp only [Roster.filter] at standing
      simp only [Outcome.plain_ledger, Roster.put_of_not_mem missing,
        Roster.put_of_not_mem missing', Roster.filter, List.filter_append, standing]
    · simp only [Outcome.plain_ledger, Roster.put_of_not_mem missing,
        Roster.put_of_not_mem missing']
      exact trails.declines.append_right _

theorem reconfigure (trails : Trails now l m) (pool : Pool) :
    Trails now (l.reconfigure pool).ledger (m.reconfigure pool).ledger where
  pool := rfl
  committed := Roster.filter_congr trails.committed
  declined := Roster.filter_congr trails.declined
  leases := trails.leases.filter _
  declines := trails.declines.filter _

end Trails

/-- A release is answered by whether there is a lease of its client on the address. -/
theorem release_run (orderly : l.Orderly) (worded : l.Worded) (now : Int) (c : Client)
    (a : Address) :
    let o := ((Operation.release c a).run now l).written
    (∃ lease, (a, lease) ∈ l.committed.entries ∧ lease.client.identity = c.identity ∧
      o.answer = .ok (.released true) ∧
      o.ledger = { l with committed := l.committed.erase a }) ∨
    ((∀ lease, (a, lease) ∈ l.committed.entries → lease.client.identity ≠ c.identity) ∧
      o.answer = .ok (.released false) ∧ o.ledger = l) := by
  intro o
  have ran : o = ((l.release c a).map Answer.released).written := rfl
  rcases release_cases orderly c a with ⟨lease, there, its, released⟩ | ⟨foreign, ignored⟩
  · have words : (Note.leaseReleased lease).isWritable = true :=
      (Note.isWritable_of_numbers rfl).trans (worded _ there)
    have spelled : [Note.leaseReleased lease].all Note.isWritable = true := by
      rw [List.all_cons, words, List.all_nil, Bool.and_true]
    have whole : o = .plain (.ok (.released true)) { l with committed := l.committed.erase a }
        [.leaseReleased lease] := by
      rw [ran, released]
      exact if_pos spelled
    exact .inl ⟨lease, there, its, congrArg Outcome.answer whole, congrArg Outcome.ledger whole⟩
  · have whole : o = .plain (.ok (.released false)) l [.releaseIgnored a c.hardware] := by
      rw [ran, ignored]
      rfl
    exact .inr ⟨foreign, congrArg Outcome.answer whole, congrArg Outcome.ledger whole⟩

/-- A pool whose drops can all be put into words is taken on as a whole, and what is answered
depends on the pool alone. -/
theorem reconfigure_run {pool : Pool} (now : Int) (drops : l.Drops pool) :
    let o := ((Operation.reconfigure pool).run now l).written
    (o.answer = if (Note.parametersUpdated pool).isWritable then .ok (.serving pool)
      else .error .longNumber) ∧ o.ledger = (l.reconfigure pool).ledger := by
  intro o
  have words : ((Operation.reconfigure pool).run now l).notes.all Note.isWritable =
      (Note.parametersUpdated pool).isWritable := by
    change (l.reconfigure pool).notes.all Note.isWritable = _
    simp only [Ledger.reconfigure, List.all_append, drops_writable_iff.mpr drops, List.all_cons,
      List.all_nil, Bool.true_and, Bool.and_true]
  constructor
  · rw [Outcome.written_answer, words]
    rfl
  · rcases Outcome.written_cases ((Operation.reconfigure pool).run now l) with
      ⟨_, _, left⟩ | ⟨_, _, left⟩
    · exact left
    · exact left.trans (reconfigure_halted drops)

/-- Whether a call is a release of a lease that has ended, found where no sweep has come by and not
found where one has. -/
def Belated (t : Turn) (l m : Ledger) : Prop :=
  ∃ c a lease, t.call.operation = .ok (.release c a) ∧ (a, lease) ∈ l.committed.entries ∧
    lease.client.identity = c.identity ∧ lease.expiration ≤ t.now ∧
    (t.run l).answer = .ok (.released true) ∧ (t.run m).answer = .ok (.released false)

namespace Trails

theorem release {t : Turn} (trails : Trails t.now l m) (orderly : l.Orderly) (orderly' : m.Orderly)
    (worded : l.Worded) (read : t.call.operation = .ok (.release c a)) :
    ((t.run m).answer = (t.run l).answer ∨ Belated t l m) ∧
      Trails t.now (t.run l).ledger (t.run m).ledger := by
  have first := release_run orderly worded t.now c a
  have second := release_run orderly' (trails.worded worded) t.now c a
  unfold Belated
  rw [← run_of_read read] at first second
  rcases first with ⟨lease, there, its, answer, left⟩ | ⟨none, answer, left⟩
  · rcases second with ⟨_, _, _, answer', left'⟩ | ⟨none', answer', left'⟩
    · rw [answer, answer', left, left']
      exact ⟨.inl rfl, trails.erase a⟩
    · -- whatever the other one has on the address is this very lease
      have gone : a ∉ m.committed.addresses := by
        intro filed
        obtain ⟨other, there'⟩ := Roster.mem_addresses.mp filed
        cases Roster.record_unique orderly.distinct (trails.leases.mem there') there
        exact none' lease there' its
      have past : lease.expiration ≤ t.now := Int.not_lt.mp fun alive =>
        gone (Roster.address_mem (trails.mem_of_lives there alive))
      refine ⟨.inr ⟨c, a, lease, read, there, its, past, answer, answer'⟩, ?_⟩
      have erased := trails.erase a
      rw [Roster.erase_eq_self gone] at erased
      rw [left, left']
      exact erased
  · rcases second with ⟨lease, there, its, _, _⟩ | ⟨none', answer', left'⟩
    · exact absurd its (none lease (trails.leases.mem there))
    · rw [answer, answer', left, left']
      exact ⟨.inl rfl, trails⟩

/-- Both answer a call alike, but for a belated release, and one still trails the other. -/
theorem turn {t : Turn} (trails : Trails t.now l m) (orderly : l.Orderly) (orderly' : m.Orderly)
    (right : l.Bounded) (right' : m.Bounded) (worded : l.Worded)
    (heard : ∀ a, t.call.operation = .ok (.decline a) → ¬ l.Lapsed t.now a) :
    ((t.run m).answer = (t.run l).answer ∨ Belated t l m) ∧
      Trails t.now (t.run l).ledger (t.run m).ledger := by
  cases read : t.call.operation with
  | error fault =>
    rw [run_of_unread read, run_of_unread read]
    exact ⟨.inl rfl, trails⟩
  | ok op =>
    have alike (same : (op.run t.now m).written.answer = (op.run t.now l).written.answer ∧
          Trails t.now (op.run t.now l).written.ledger (op.run t.now m).written.ledger) :
        ((t.run m).answer = (t.run l).answer ∨ Belated t l m) ∧
          Trails t.now (t.run l).ledger (t.run m).ledger := by
      rw [run_of_read read l, run_of_read read m]
      exact ⟨.inl same.1, same.2⟩
    cases op with
    | offer q =>
      exact alike (trails.andThen Answer.ofLease (fun _ _ => offerSwept_blind t.now q) right right'
        worded)
    | request q =>
      exact alike (trails.andThen Answer.ofLease (fun _ _ => requestSwept_blind t.now q) right
        right' worded)
    | committed =>
      exact alike (trails.andThen Answer.leases (fun _ _ => listLeases_blind) right right' worded)
    | declined =>
      exact alike (trails.andThen (fun as => Answer.addresses (Address.sorted as))
        (fun _ _ => listDeclined_blind) right right' worded)
    | release c a => exact trails.release orderly orderly' worded read
    | decline a =>
      obtain ⟨notes, left⟩ := trails.decline (heard a read)
      refine alike ⟨?_, ?_⟩
      · have same : ((Operation.decline a).run t.now m).notes =
            ((Operation.decline a).run t.now l).notes := notes
        rw [Outcome.written_answer, Outcome.written_answer, same]
        rfl
      · rw [decline_written, decline_written]
        exact left
    | reconfigure pool =>
      obtain ⟨answer, left⟩ := reconfigure_run t.now fun e he _ => worded e he
      obtain ⟨answer', left'⟩ := reconfigure_run t.now fun e he _ => trails.worded worded e he
      refine alike ⟨answer'.trans answer.symm, ?_⟩
      rw [left, left']
      exact trails.reconfigure pool

end Trails

theorem heard_append (l : Ledger) (first second : List Turn) :
    l.Heard (first ++ second) ↔ l.Heard first ∧ (l.after first).Heard second := by
  induction first generalizing l with
  | nil => exact ⟨fun heard => ⟨trivial, heard⟩, And.right⟩
  | cons t rest ih => exact (and_congr_right fun _ => ih _).trans and_assoc.symm

theorem worded_after {turns : List Turn} (orderly : l.Orderly) (worded : l.Worded)
    (whole : ∀ x ∈ l.exchanges turns, ∀ i, ¬ x.CutShort i) : (l.after turns).Worded :=
  after_induction (fun _ _ orderly worded whole => worded_turn orderly worded
    fun q read failed => whole q.client.identity ⟨q, read, rfl, failed⟩) orderly worded whole

/-- With reads put in, a run goes on trailing itself. -/
theorem trails_after {turns watched : List Turn} (inserted : Turn.Watched turns watched)
    {last : Int} (ordered : Chronological watched)
    (span : ∀ t ∈ watched, now ≤ t.now ∧ t.now ≤ last) (onward : now ≤ last)
    (trails : Trails now l m) (orderly : l.Orderly) (orderly' : m.Orderly) (right : l.Bounded)
    (right' : m.Bounded) (worded : l.Worded) (heard : l.Heard turns)
    (whole : ∀ x ∈ l.exchanges turns, ∀ i, ¬ x.CutShort i) :
    Trails last (l.after turns) (m.after watched) := by
  induction inserted generalizing now l m with
  | nil => exact trails.mono onward
  | @call t turns watched rest ih =>
    obtain ⟨⟨early, late⟩, span⟩ := List.forall_mem_cons.mp span
    obtain ⟨before, ordered⟩ := List.pairwise_cons.mp ordered
    obtain ⟨first, whole⟩ := List.forall_mem_cons.mp whole
    obtain ⟨_, step⟩ := (trails.mono early).turn orderly orderly' right right' worded heard.1
    refine ih ordered (fun u hu => ⟨before u hu, (span u hu).2⟩) late step
      (orderly_turn orderly t) (orderly_turn orderly' t) (bounded_turn orderly right t)
      (bounded_turn orderly' right' t) ?_ heard.2 whole
    exact worded_turn orderly worded fun q read failed =>
      first q.client.identity ⟨q, read, rfl, failed⟩
  | @read t turns watched reads rest ih =>
    -- only the second ledger takes this step
    obtain ⟨⟨early, late⟩, span⟩ := List.forall_mem_cons.mp span
    obtain ⟨before, ordered⟩ := List.pairwise_cons.mp ordered
    have here := trails.mono early
    have all := (sweep_writable_iff right').mpr ((here.worded worded).clears t.now)
    have left : (t.run m).ledger = (m.sweep t.now).ledger := by
      rcases reads with committed | declined
      · exact ledger_of_read (.inl rfl) (congrArg Call.operation committed) all
      · exact ledger_of_read (.inr rfl) (congrArg Call.operation declined) all
    have step : Trails t.now l (t.run m).ledger := left ▸ here.swept right'
    exact ih ordered (fun u hu => ⟨before u hu, (span u hu).2⟩) late step orderly
      (orderly_turn orderly' t) right (bounded_turn orderly' right' t) worded heard whole

theorem exists_start {turns : List Turn} {t : Turn} (ordered : Chronological (turns ++ [t])) :
    ∃ start, start ≤ t.now ∧ ∀ u ∈ turns, start ≤ u.now := by
  cases turns with
  | nil => exact ⟨t.now, Int.le_refl _, List.forall_mem_nil _⟩
  | cons u rest =>
    have before := (List.pairwise_cons.mp ordered).1
    refine ⟨u.now, before t (List.mem_append_right _ List.mem_cons_self),
      List.forall_mem_cons.mpr ⟨Int.le_refl _, fun v hv => before v ?_⟩⟩
    exact List.mem_append_left _ hv

/-- Reads change nothing about the answers to other calls, except that a release of a lease which
has ended is answered as if the lease were there as long as nothing has swept the ledger since, and
as if it were not once a read has. Left out are runs in which a request is cut short or a decline
goes by unheard. -/
theorem reads_only_observe (pool : Pool) {turns watched : List Turn} {t : Turn}
    (inserted : Turn.Watched turns watched) (ordered : Chronological (watched ++ [t]))
    (heard : (opening pool).ledger.Heard (turns ++ [t]))
    (whole : ∀ x ∈ (opening pool).ledger.exchanges turns, ∀ i, ¬ x.CutShort i) :
    let l := (opening pool).ledger.after turns
    let m := (opening pool).ledger.after watched
    (t.run m).answer = (t.run l).answer ∨ Belated t l m := by
  intro l m
  have fresh : (opening pool).ledger.Orderly := orderly_fresh pool
  have right : (opening pool).ledger.Bounded := bounded_fresh pool
  have worded : (opening pool).ledger.Worded := nofun
  obtain ⟨heard, now⟩ := (heard_append _ _ _).mp heard
  obtain ⟨start, began, onward⟩ := exists_start ordered
  obtain ⟨ordered, _, late⟩ := List.pairwise_append.mp ordered
  have span (u) (hu : u ∈ watched) : start ≤ u.now ∧ u.now ≤ t.now :=
    ⟨onward u hu, late u hu t List.mem_cons_self⟩
  have trails : Trails t.now l m :=
    trails_after inserted ordered span began (.of_book start rfl) fresh fresh right right worded
      heard whole
  exact (trails.turn (orderly_after fresh turns) (orderly_after fresh watched)
    (bounded_after fresh right turns) (bounded_after fresh right watched)
    (worded_after fresh worded whole) now.1).1

theorem offer_same_when_watched :
    let start := (opening (.home 1000)).ledger
    let turns := [Turn.select 0 (.plain 1) (.home 10), Turn.decline 100 (.home 20)]
    let watched := [Turn.select 0 (.plain 1) (.home 10), ⟨50, .committed⟩,
      Turn.decline 100 (.home 20), ⟨1000, .declined⟩]
    let t := Turn.discover 1000 (.plain 2) (.home 10)
    (t.run (start.after watched)).answer = (t.run (start.after turns)).answer := by
  intro start turns watched t
  have lent : ((Turn.select 0 (.plain 1) (.home 10)).exchange start).term? =
      some (.home 10, 1000) := by decide +kernel
  have inserted : Turn.Watched turns watched :=
    .call _ (.read (.inl rfl) (.call _ (.read (.inr rfl) .nil)))
  have ordered : Chronological (watched ++ [t]) := by
    simp [Chronological, watched, t, Turn.select, Turn.decline, Turn.discover]
  have heard : start.Heard (turns ++ [t]) := by
    refine ⟨fun a read => ?_, fun a read => ?_, fun a read => ?_, trivial⟩
    · cases read
    · cases read
      decide +kernel
    · cases read
  have whole : ∀ x ∈ start.exchanges turns, ∀ i, ¬ x.CutShort i := by
    refine List.forall_mem_cons.mpr ⟨fun i => Exchange.not_cutShort_of_term? lent,
      List.forall_mem_cons.mpr ⟨fun i => ?_, List.forall_mem_nil _⟩⟩
    rintro ⟨_, read, _⟩
    cases read
  rcases reads_only_observe (.home 1000) inserted ordered heard whole with
    same | ⟨_, _, _, read, _⟩
  · exact same
  · cases read

/-- A release of a lease that has ended is not the same behind a read. -/
theorem read_ends_release :
    let start := (opening (.home 1000)).ledger
    let first := Turn.select 0 (.plain 1) (.home 10)
    let t := Turn.release 1000 (.plain 1) (.home 10)
    (t.run (start.after [first])).answer = .ok (.released true) ∧
      (t.run (start.after [first, ⟨1000, .committed⟩])).answer = .ok (.released false) := by
  intro start first t
  have found : (t.exchange (start.after [first])).said? Answer.found? = some true := by
    decide +kernel
  have missed : (t.exchange (start.after [first, ⟨1000, .committed⟩])).said? Answer.found? =
      some false := by decide +kernel
  exact ⟨Turn.answer_of_said? Answer.eq_of_found? found,
    Turn.answer_of_said? Answer.eq_of_found? missed⟩

end Ledger
end LeaseBook
