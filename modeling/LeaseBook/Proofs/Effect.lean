import LeaseBook.Ledger.Operation
import LeaseBook.Proofs.Granting
import LeaseBook.Proofs.Offering

/-!
What an operation does to a ledger. Whatever the operation and wherever it ends, entries are struck
out for one reason each, and at most one lease or one decline is added. All invariants are kept
because each of these effects keeps them.
-/

namespace LeaseBook

namespace Ledger

variable {l m : Ledger} {now : Int} {a : Address} {c : Client} {lease : Lease}

/- A lease that fits. -/

theorem mem_commit (orderly : l.Orderly) {e : Address × Lease} :
    e ∈ (l.commit lease).committed.entries ↔
      e = (lease.address, lease) ∨ e ∈ l.committed.entries ∧ e.1 ≠ lease.address :=
  Roster.mem_put orderly.distinct

theorem orderly_commit (orderly : l.Orderly) (fits : Fits now c lease l) :
    (l.commit lease).Orderly where
  distinct := Roster.nodup_put orderly.distinct
  keyed := by
    intro e he
    rcases (mem_commit orderly).mp he with rfl | ⟨he, _⟩
    · rfl
    · exact orderly.keyed e he
  single := by
    have alone (e : Address × Lease) (he : e ∈ l.committed.entries)
        (same : e.2.client.identity = lease.client.identity) : e.1 = lease.address :=
      (fits.sole e he).mpr (same.trans fits.client)
    intro e he f hf same
    rcases (mem_commit orderly).mp he with rfl | ⟨he, _⟩
    · rcases (mem_commit orderly).mp hf with rfl | ⟨hf, _⟩
      · rfl
      · exact (alone f hf same.symm).symm
    · rcases (mem_commit orderly).mp hf with rfl | ⟨hf, _⟩
      · exact alone e he same
      · exact orderly.single e he f hf same
  declinedDistinct := orderly.declinedDistinct

theorem bounded_commit (orderly : l.Orderly) (right : l.Bounded) (lease : Lease) :
    (l.commit lease).Bounded where
  never := Int.le_trans (Int.min_le_right _ _) right.never
  committed := by
    intro e he
    rcases (mem_commit orderly).mp he with rfl | ⟨he, _⟩
    · exact Int.min_le_left _ _
    · exact Int.le_trans (Int.min_le_right _ _) (right.committed e he)
  declined := fun e he => Int.le_trans (Int.min_le_right _ _) (right.declined e he)

theorem not_stranded (assigned : l.pool.Assigns a) : l.isStranded a = false := by
  simp [isStranded, assigned.1, assigned.2.2]

theorem served_commit (orderly : l.Orderly) (served : l.Served) (fits : Fits now c lease l) :
    (l.commit lease).Served where
  committed := by
    intro a ha
    obtain ⟨x, entry⟩ := Roster.mem_addresses.mp ha
    rcases (mem_commit orderly).mp entry with same | ⟨old, _⟩
    · cases same
      exact fits.assigned.elim not_stranded (served.committed _)
    · exact served.committed a (Roster.address_mem old)
  declined := served.declined

theorem Fits.within {first last : Int} (fits : Fits now c lease l) (within : l.Within first last)
    (early : first ≤ now) (late : now ≤ last) :
    first ≤ lease.expiration ∧ lease.expiration ≤ last + l.pool.leaseTime := by
  rcases fits.time with ⟨_, time⟩ | ⟨old, entry, _, time⟩
  · omega
  · have := within old entry
    omega

theorem within_commit {first last : Int} (orderly : l.Orderly) (within : l.Within first last)
    (fits : Fits now c lease l) (early : first ≤ now) (late : now ≤ last) :
    (l.commit lease).Within first last := by
  intro e he
  rcases (mem_commit orderly).mp he with rfl | ⟨he, _⟩
  · exact fits.within within early late
  · exact within e he

/- A decline. -/

theorem decline_pool (now : Int) (a : Address) (l : Ledger) :
    (l.decline now a).ledger.pool = l.pool := by
  unfold decline
  split <;> rfl

theorem decline_committed (now : Int) (a : Address) (l : Ledger) :
    (l.decline now a).ledger.committed = l.committed := by
  unfold decline
  split <;> rfl

theorem decline_written (now : Int) (a : Address) (l : Ledger) :
    ((Operation.decline a).run now l).written.ledger = (l.decline now a).ledger := by
  have plain : (l.decline now a).halted = (l.decline now a).ledger := by
    unfold decline
    split <;> rfl
  rcases Outcome.written_cases ((Operation.decline a).run now l) with ⟨_, _, left⟩ | ⟨_, _, left⟩
  · exact left
  · exact left.trans plain

theorem orderly_decline (orderly : l.Orderly) (now : Int) (a : Address) :
    (l.decline now a).ledger.Orderly := by
  unfold decline
  split
  · exact orderly
  · exact ⟨orderly.distinct, orderly.keyed, orderly.single,
      Roster.nodup_put orderly.declinedDistinct⟩

theorem bounded_decline (orderly : l.Orderly) (right : l.Bounded) (now : Int) (a : Address) :
    (l.decline now a).ledger.Bounded := by
  unfold decline
  split
  · exact right
  · refine ⟨Int.le_trans (Int.min_le_right _ _) right.never, fun e he =>
      Int.le_trans (Int.min_le_right _ _) (right.committed e he), fun e he => ?_⟩
    rcases (Roster.mem_put orderly.declinedDistinct).mp he with rfl | ⟨he, _⟩
    · exact Int.min_le_left _ _
    · exact Int.le_trans (Int.min_le_right _ _) (right.declined e he)

theorem served_decline (orderly : l.Orderly) (served : l.Served) (now : Int) (a : Address) :
    (l.decline now a).ledger.Served := by
  unfold decline
  split
  · exact served
  · rename_i fresh
    simp only [Bool.or_eq_true, not_or, Bool.not_eq_true, Bool.not_eq_false'] at fresh
    refine ⟨served.committed, fun b hb => ?_⟩
    obtain ⟨x, entry⟩ := Roster.mem_addresses.mp hb
    rcases (Roster.mem_put orderly.declinedDistinct).mp entry with same | ⟨old, _⟩
    · cases same
      exact fresh.2
    · exact served.declined b (Roster.address_mem old)

/- A release. -/

/-- A release finds a lease of its client on the address and strikes it out, or there is none and
everything stays. -/
theorem release_cases (orderly : l.Orderly) (c : Client) (a : Address) :
    (∃ lease, (a, lease) ∈ l.committed.entries ∧ lease.client.identity = c.identity ∧
      l.release c a =
        .plain true { l with committed := l.committed.erase a } [.leaseReleased lease]) ∨
    ((∀ lease, (a, lease) ∈ l.committed.entries → lease.client.identity ≠ c.identity) ∧
      l.release c a = .plain false l [.releaseIgnored a c.hardware]) := by
  unfold release
  split
  · rename_i missed
    refine .inr ⟨fun lease there its => ?_, rfl⟩
    rw [(Roster.find?_eq_some_iff orderly.distinct).mpr there, Option.filter_eq_none_iff] at missed
    exact missed _ rfl ((Lease.isOf_iff_identity _ _).mpr its)
  · rename_i current found
    obtain ⟨held, mine⟩ := Option.filter_eq_some_iff.mp found
    exact .inl ⟨current, Roster.mem_of_find? held, (Lease.isOf_iff_identity _ _).mp mine, rfl⟩

/- A new pool. -/

/-- Whether a pool does not serve an address. -/
def Outcast (pool : Pool) (a : Address) : Prop :=
  pool.contains a = false ∨ pool.isReserved a = true

theorem outcast_iff : l.isStranded a = true ↔ Outcast l.pool a := by
  simp [isStranded, Outcast]

theorem isStranded_eq_false_iff : l.isStranded a = false ↔ ¬ Outcast l.pool a := by
  rw [← outcast_iff, Bool.not_eq_true]

theorem reconfigure_sheds (pool : Pool) (l : Ledger) :
    Sheds (fun e => Outcast pool e.1) l (l.reconfigure pool).ledger where
  committed := Roster.filter_sublist
  declined := Roster.filter_sublist
  spared := by
    intro e he kept
    have stays := isStranded_eq_false_iff (l := { l with pool := pool }).mpr kept
    exact Roster.mem_filter.mpr ⟨he, by rw [stays]; rfl⟩
  bounded := fun right => right.of_sublist rfl Roster.filter_sublist Roster.filter_sublist

theorem reconfigure_leaves (pool : Pool) (l : Ledger) :
    (l.reconfigure pool).Leaves fun m =>
      m.pool = pool ∧ Sheds (fun e => Outcast pool e.1) l m := by
  have ends := reconfigure_sheds pool l
  refine ⟨⟨rfl, ends⟩, ?_⟩
  unfold reconfigure
  dsimp only
  split
  · exact ⟨rfl, ends⟩
  · have shed := (strikeLeases_sheds .leaseDropped
      (fun a _ => isStranded { l with pool := pool } a) { l with pool := pool }).mono
      fun e => outcast_iff.mp
    exact ⟨rfl, shed.committed, shed.declined, shed.spared, fun right =>
      shed.bounded (right.of_sublist rfl (.refl _) (.refl _))⟩

/-- A pool that was taken on without a halt serves the ledger, whatever it served before. -/
theorem served_reconfigure (pool : Pool) (l : Ledger) : (l.reconfigure pool).ledger.Served where
  committed := by
    intro a ha
    obtain ⟨x, entry⟩ := Roster.mem_addresses.mp ha
    have kept := (Roster.mem_filter.mp entry).2
    exact (Bool.not_eq_true' _).mp kept
  declined := by
    intro a ha
    obtain ⟨x, entry⟩ := Roster.mem_addresses.mp ha
    have kept : isStranded { l with pool := pool } a = false :=
      (Bool.not_eq_true' _).mp (Roster.mem_filter.mp entry).2
    have inside : pool.contains a = true := by
      simp only [isStranded, Bool.or_eq_false_iff, Bool.not_eq_false'] at kept
      exact kept.1
    exact inside

/-- Whether all leases that a new pool does not serve can be put into words, so that all of them
are dropped. -/
def Drops (pool : Pool) (l : Ledger) : Prop :=
  ∀ e ∈ l.committed.entries, Outcast pool e.1 → Numeral.isWritable e.2.expiration = true

theorem drops_writable_iff {pool : Pool} :
    ((l.committed.filter fun a _ => isStranded { l with pool := pool } a).records.map
      Note.leaseDropped).all Note.isWritable = true ↔ l.Drops pool := by
  have words (lease : Lease) :
      (Note.leaseDropped lease).isWritable = Numeral.isWritable lease.expiration :=
    Note.isWritable_of_numbers rfl
  simp only [List.all_map, List.all_eq_true, Function.comp_apply, words]
  constructor
  · intro all e he outcast
    exact all e.2 (Roster.mem_records.mpr
      ⟨e.1, Roster.mem_filter.mpr ⟨he, outcast_iff.mpr outcast⟩⟩)
  · intro drops lease filed
    obtain ⟨a, entry⟩ := Roster.mem_records.mp filed
    obtain ⟨old, stranded⟩ := Roster.mem_filter.mp entry
    exact drops (a, lease) old (outcast_iff.mp stranded)

theorem reconfigure_halted {pool : Pool} (drops : l.Drops pool) :
    (l.reconfigure pool).halted = (l.reconfigure pool).ledger :=
  if_pos (drops_writable_iff.mpr drops)

theorem served_reconfigure_halted {pool : Pool} (drops : l.Drops pool) :
    (l.reconfigure pool).halted.Served := by
  rw [reconfigure_halted drops]
  exact served_reconfigure pool l

/- A request as a whole. -/

/-- A request enters no lease and grants none, or it enters one that fits and answers with it if it
can be put into words. -/
inductive Entered (now : Int) (q : Demand) (l : Ledger) : Except Fault Answer → Ledger → Prop
  | nothing {answer : Except Fault Answer} {m : Ledger} (pool : m.pool = l.pool)
      (shed : Sheds (Ended now) l m) (denied : ∀ lease, answer ≠ .ok (.lease lease)) :
      Entered now q l answer m
  | lease {answer : Except Fault Answer} {lease : Lease} {m : Ledger} (pool : m.pool = l.pool)
      (shed : Sheds (fun e => Ended now e ∨ e.2.client.identity = q.client.identity) l m)
      (stays : ¬ q.Selects → Sheds (Ended now) l m) (fits : Fits now q.client lease m)
      (answered : answer = if Numeral.isWritable lease.expiration then .ok (.lease lease)
        else .error .longNumber) : Entered now q l answer (m.commit lease)

/-- Of the notes on a request, only the one on the lease that it enters holds a number. -/
theorem requestSwept_notes (now : Int) (q : Demand) (l : Ledger) (lease : Lease) :
    (l.requestSwept now q).answer = .ok lease →
      (l.requestSwept now q).notes.all Note.isWritable = Numeral.isWritable lease.expiration := by
  have confirmed (a : Address) (dropping : Option Lease) {note : Note}
      (plain : note.isWritable = true) : (l.confirm now q a dropping note).answer = .ok lease →
        (l.confirm now q a dropping note).notes.all Note.isWritable =
          Numeral.isWritable lease.expiration := by
    unfold confirm
    split
    · exact nofun
    · intro granted
      cases granted
      have digits := Note.isWritable_of_numbers (n := .leaseCommitted lease) rfl
      simp only [Outcome.plain_notes, List.all_cons, List.all_nil, plain, digits, Bool.true_and,
        Bool.and_true]
  unfold requestSwept
  dsimp only
  split
  · split
    · exact confirmed _ _ rfl
    · split
      · exact nofun
      · exact confirmed _ _ rfl
  · split
    · exact nofun
    · split
      · exact nofun
      · exact confirmed _ _ rfl

theorem request_entered (orderly : l.Orderly) (now : Int) (q : Demand) :
    Entered now q l ((Operation.request q).run now l).written.answer
      ((Operation.request q).run now l).written.ledger := by
  obtain ⟨⟨pool, shed⟩, haltPool, haltShed⟩ := sweep_leaves now l
  have requested := requestSwept_requested (shed.orderly orderly) now q
  have numbers := requestSwept_notes now q (l.sweep now).ledger
  simp only [Operation.run, Ledger.request, Ledger.swept, Outcome.written, Outcome.andThen,
    Outcome.map, List.all_append, Bool.and_eq_true]
  generalize (l.sweep now).ledger.requestSwept now q = second at requested numbers ⊢
  cases swept : (l.sweep now).notes.all Note.isWritable with
  | false =>
    -- the sweep itself is cut short, and the request never comes about
    simp only [Bool.false_eq_true, false_and, if_false]
    exact .nothing haltPool haltShed nofun
  | true =>
    simp only [true_and, if_true]
    cases requested with
    | refused refusal notes =>
      split
      · exact .nothing pool shed nofun
      · exact .nothing pool shed nofun
    | granted lease m note kept drop stays fits =>
      have digits := numbers lease rfl
      have sheds : ¬ q.Selects → Sheds (Ended now) l m := fun keeps => stays keeps ▸ shed
      simp only [digits]
      split
      · rename_i writable
        refine .lease (kept.trans pool) (shed.orElse drop) sheds fits ?_
        rw [if_pos writable]
        rfl
      · rename_i long
        refine .lease (kept.trans pool) (shed.orElse drop) sheds fits ?_
        rw [if_neg long]
        rfl

/-- What an operation can do to a ledger, and what it then answers. -/
inductive Effect (now : Int) (l : Ledger) : Operation → Except Fault Answer → Ledger → Prop
  | swept {op : Operation} {answer : Except Fault Answer} {m : Ledger}
      (same : ∀ pool, op ≠ .reconfigure pool) (pool : m.pool = l.pool)
      (shed : Sheds (Ended now) l m) : Effect now l op answer m
  | committed {q : Demand} {answer : Except Fault Answer} {lease : Lease} {m : Ledger}
      (pool : m.pool = l.pool)
      (shed : Sheds (fun e => Ended now e ∨ e.2.client.identity = q.client.identity) l m)
      (stays : ¬ q.Selects → Sheds (Ended now) l m) (fits : Fits now q.client lease m)
      (answered : answer = .ok (.lease lease) ∨ answer = .error .longNumber) :
      Effect now l (.request q) answer (m.commit lease)
  | released {c : Client} {a : Address} {answer : Except Fault Answer} {lease : Lease} {m : Ledger}
      (filed : (a, lease) ∈ l.committed.entries) (its : lease.client.identity = c.identity)
      (pool : m.pool = l.pool) (shed : Sheds (fun e => e.1 = a) l m)
      (answered : answer = .ok (.released true) ∨
        answer = .error .longNumber ∧ Numeral.isWritable lease.expiration = false) :
      Effect now l (.release c a) answer m
  | declined {a : Address} {answer : Except Fault Answer} :
      Effect now l (.decline a) answer (l.decline now a).ledger
  | reconfigured {pool : Pool} {answer : Except Fault Answer} {m : Ledger} (served : m.pool = pool)
      (shed : Sheds (fun e => Outcast pool e.1) l m)
      (whole : l.Drops pool → m.Served) : Effect now l (.reconfigure pool) answer m

namespace Effect

variable {op : Operation} {answer : Except Fault Answer}

theorem of_leaves {α : Type} {o : Outcome α} (same : ∀ pool, op ≠ .reconfigure pool)
    (h : o.Leaves fun m => m.pool = l.pool ∧ Sheds (Ended now) l m) :
    Effect now l op answer o.written.ledger :=
  .swept same h.written.1 h.written.2

/-- Whatever runs on the swept ledger and only strikes declines out has only swept leases out. -/
theorem leaves_swept {α : Type} {operation : Ledger → Outcome α}
    (h : ∀ m, (operation m).Leaves fun n => n.pool = m.pool ∧ Sheds (Ended now) m n) :
    (l.swept now operation).Leaves fun m => m.pool = l.pool ∧ Sheds (Ended now) l m := by
  obtain ⟨⟨pool, shed⟩, halt⟩ := sweep_leaves now l
  exact Outcome.leaves_andThen halt
    ((h _).mono fun n found => ⟨found.1.trans pool, shed.trans found.2⟩)

theorem offer (now : Int) (l : Ledger) (q : Discovery) :
    Effect now l (.offer q) answer ((Operation.offer q).run now l).written.ledger :=
  of_leaves nofun (leaves_swept fun m => offerSwept_leaves _ now q m).map

theorem request (orderly : l.Orderly) (now : Int) (q : Demand) :
    Effect now l (.request q) ((Operation.request q).run now l).written.answer
      ((Operation.request q).run now l).written.ledger := by
  have entered := request_entered orderly now q
  generalize ((Operation.request q).run now l).written = o at entered ⊢
  generalize o.answer = answer, o.ledger = m at entered ⊢
  cases entered with
  | nothing pool shed _ => exact .swept nofun pool shed
  | lease pool shed stays fits answered =>
    refine .committed pool shed stays fits ?_
    rw [answered]
    split
    · exact .inl rfl
    · exact .inr rfl

theorem release (now : Int) (l : Ledger) (c : Client) (a : Address) :
    Effect now l (.release c a) ((Operation.release c a).run now l).written.answer
      ((Operation.release c a).run now l).written.ledger := by
  have same : l.pool = l.pool ∧ Sheds (Ended now) l l := ⟨rfl, .refl _ l⟩
  simp only [Operation.run, Ledger.release]
  split
  · exact of_leaves nofun (Outcome.leaves_plain same).map
  · rename_i lease held
    simp only [Option.filter_eq_some_iff] at held
    have filed := Roster.mem_of_find? held.1
    have its := (Lease.isOf_iff_identity _ _).mp held.2
    have shed : Sheds (fun e => e.1 = a) l { l with committed := l.committed.erase a } :=
      ⟨Roster.erase_sublist, .refl _, fun e he apart => Roster.mem_erase.mpr ⟨he, apart⟩,
        fun right => right.of_sublist rfl Roster.erase_sublist (.refl _)⟩
    rcases Outcome.written_cases ((Outcome.plain true { l with committed := l.committed.erase a }
      [.leaseReleased lease]).map Answer.released) with ⟨_, ended, left⟩ | ⟨long, halted, left⟩
    · rw [ended, left]
      exact .released filed its rfl shed (.inl rfl)
    · rw [halted, left]
      refine .released filed its rfl shed (.inr ⟨rfl, ?_⟩)
      rw [← Note.isWritable_of_numbers (n := .leaseReleased lease) rfl]
      simpa using long

theorem reconfigure (now : Int) (l : Ledger) (pool : Pool) :
    Effect now l (.reconfigure pool) ((Operation.reconfigure pool).run now l).written.answer
      ((Operation.reconfigure pool).run now l).written.ledger := by
  have leaves := (reconfigure_leaves pool l).map (f := fun _ => Answer.serving pool)
  have serves (drops : l.Drops pool) :
      (((Operation.reconfigure pool).run now l)).Leaves Served :=
    ⟨served_reconfigure pool l, served_reconfigure_halted drops⟩
  exact .reconfigured leaves.written.1 leaves.written.2 fun drops => (serves drops).written

end Effect

/-- Every operation has one of the effects. -/
theorem run_effect (orderly : l.Orderly) (now : Int) (op : Operation) :
    Effect now l op (op.run now l).written.answer (op.run now l).written.ledger := by
  have listing {α : Type} (answer : Ledger → α) (m : Ledger) :
      (Outcome.plain (answer m) m []).Leaves fun n =>
        n.pool = m.pool ∧ Sheds (Ended now) m n :=
    Outcome.leaves_plain ⟨rfl, .refl _ m⟩
  cases op with
  | offer q => exact .offer now l q
  | request q => exact .request orderly now q
  | release c a => exact .release now l c a
  | decline a =>
    rw [decline_written]
    exact .declined
  | committed =>
    exact .of_leaves nofun
      (Effect.leaves_swept fun m => listing (fun m => m.committed.records) m).map
  | declined =>
    exact .of_leaves nofun
      (Effect.leaves_swept fun m => listing (fun m => m.declined.addresses) m).map
  | reconfigure pool => exact .reconfigure now l pool

namespace Effect

variable {op : Operation} {answer : Except Fault Answer}

/-- Only a request enters a lease. -/
theorem request_or_fewer (effect : Effect now l op answer m) :
    (∃ q, op = .request q) ∨ m.committed.entries.Sublist l.committed.entries := by
  cases effect with
  | swept _ _ shed => exact .inr shed.committed
  | committed _ _ _ _ _ => exact .inl ⟨_, rfl⟩
  | released _ _ _ shed _ => exact .inr shed.committed
  | declined =>
    rw [decline_committed]
    exact .inr (.refl _)
  | reconfigured _ shed _ => exact .inr shed.committed

theorem orderly (effect : Effect now l op answer m) (orderly : l.Orderly) : m.Orderly := by
  cases effect with
  | swept _ _ shed => exact shed.orderly orderly
  | committed _ shed _ fits _ => exact orderly_commit (shed.orderly orderly) fits
  | released _ _ _ shed _ => exact shed.orderly orderly
  | declined => exact orderly_decline orderly now _
  | reconfigured _ shed _ => exact shed.orderly orderly

theorem bounded (effect : Effect now l op answer m) (orderly : l.Orderly) (right : l.Bounded) :
    m.Bounded := by
  cases effect with
  | swept _ _ shed => exact shed.bounded right
  | committed _ shed _ fits _ => exact bounded_commit (shed.orderly orderly) (shed.bounded right) _
  | released _ _ _ shed _ => exact shed.bounded right
  | declined => exact bounded_decline orderly right now _
  | reconfigured _ shed _ => exact shed.bounded right

/-- A ledger stays served as long as no new pool is asked for. -/
theorem served (effect : Effect now l op answer m) (orderly : l.Orderly) (served : l.Served)
    (same : ∀ pool, op ≠ .reconfigure pool) : m.Served := by
  cases effect with
  | swept _ pool shed => exact shed.served pool served
  | committed pool shed _ fits _ =>
    exact served_commit (shed.orderly orderly) (shed.served pool served) fits
  | released _ _ pool shed _ => exact shed.served pool served
  | declined => exact served_decline orderly served now _
  | reconfigured _ _ _ => exact absurd rfl (same _)

theorem pool (effect : Effect now l op answer m) (same : ∀ pool, op ≠ .reconfigure pool) :
    m.pool = l.pool := by
  cases effect with
  | swept _ pool _ => exact pool
  | committed pool _ _ _ _ => exact pool
  | released _ _ pool _ _ => exact pool
  | declined => exact decline_pool now _ l
  | reconfigured _ _ _ => exact absurd rfl (same _)

theorem within {first last : Int} (effect : Effect now l op answer m) (orderly : l.Orderly)
    (within : l.Within first last) (early : first ≤ now) (late : now ≤ last)
    (same : ∀ pool, op ≠ .reconfigure pool) : m.Within first last := by
  cases effect with
  | swept _ pool shed => exact shed.within pool within
  | committed pool shed _ fits _ =>
    exact within_commit (shed.orderly orderly) (shed.within pool within) fits early late
  | released _ _ pool shed _ => exact shed.within pool within
  | declined =>
    unfold Within
    rw [decline_committed, decline_pool]
    exact within
  | reconfigured _ _ _ => exact absurd rfl (same _)

end Effect

end Ledger
end LeaseBook
