import LeaseBook.Config.Basic
import LeaseBook.Proofs.Echoing
import LeaseBook.Proofs.Expiring
import LeaseBook.Proofs.Lending
import LeaseBook.Proofs.Replaying
import LeaseBook.Proofs.Walking

/-!
Replays and the reserved addresses of the configuration. A replay takes the subnet and the lease
time that a scenario leaves out from the configuration, but reserves nothing. A server that reserves
addresses passes over them and does nothing else differently, so the replay shows what the
configured server would do for as long as it hands none of these addresses out.
-/

namespace LeaseBook

/- Searches that are content with less. -/

section
variable {p q : Address → Bool} {as : List Address} {r s : Roster Int} {a : Address}
  (narrower : ∀ b, q b = true → p b = true)
include narrower

theorem find?_narrowed (good : ∀ a, as.find? p = some a → q a = true) :
    as.find? q = as.find? p := by
  cases found : as.find? p with
  | some a =>
    obtain ⟨_, before, after, split, passed⟩ := List.find?_eq_some_iff_append.mp found
    refine List.find?_eq_some_iff_append.mpr ⟨good a found, before, after, split, fun b hb => ?_⟩
    have miss : p b ≠ true := by simpa using passed b hb
    exact Bool.not_eq_true' _ ▸ Bool.eq_false_iff.mpr (mt (narrower b) miss)
  | none =>
    rw [List.find?_eq_none] at found ⊢
    exact fun b hb => mt (narrower b) (found b hb)

theorem Roster.cut?_narrowed (good : ∀ a s, r.cut? p = some (a, s) → q a = true) :
    r.cut? q = r.cut? p := by
  cases found : r.cut? p with
  | some cut =>
    obtain ⟨a, s⟩ := cut
    obtain ⟨_, older, x, split, passed⟩ := cut?_eq_some_iff.mp found
    refine cut?_eq_some_iff.mpr ⟨good a s found, older, x, split, fun e he => ?_⟩
    exact Bool.eq_false_iff.mpr (mt (narrower e.1) (Bool.eq_false_iff.mp (passed e he)))
  | none =>
    refine Option.eq_none_iff_forall_not_mem.mpr fun ⟨a, s⟩ hit => ?_
    have miss := cut?_eq_none found a (cut?_mem hit)
    rw [narrower a (cut?_split hit).1] at miss
    cases miss

end

namespace Pool

variable {p : Pool} {rs : List Address}

/-- A pool with other reserved addresses. -/
def reserving (rs : List Address) (p : Pool) : Pool := { p with reserved := rs }

theorem walk_reserving (count : Nat) (a : Address) :
    (p.reserving rs).walk count a = p.walk count a := by
  induction count generalizing a with
  | zero => rfl
  | succ count ih => exact congrArg (a :: ·) (ih _)

theorem candidates_reserving (h : Hardware) : (p.reserving rs).candidates h = p.candidates h :=
  walk_reserving _ _

/-- Without reserved addresses the same parameters make the same pool. -/
theorem ofValues_bare {subnet reserved leaseTime : Value}
    (built : ofValues subnet reserved leaseTime = .ok p) :
    ofValues subnet (.list []) leaseTime = .ok (p.reserving []) := by
  obtain ⟨served, checked, _, timed⟩ := ofValues_eq_ok_iff.mp built
  exact ofValues_eq_ok_iff.mpr ⟨served, checked, ⟨[], [], rfl, rfl, rfl⟩, timed⟩

end Pool

/-- A ledger with other reserved addresses. -/
def Ledger.reserving (rs : List Address) (l : Ledger) : Ledger :=
  { l with pool := l.pool.reserving rs }

namespace Outcome

variable {α β : Type} {rs : List Address} {o : Outcome α}

/-- An outcome on a ledger with other reserved addresses. -/
def reserving (rs : List Address) (o : Outcome α) : Outcome α :=
  { o with ledger := o.ledger.reserving rs, halted := o.halted.reserving rs }

theorem andThen_reserving {first second : Outcome Unit} {operation : Ledger → Outcome α}
    (same : second = first.reserving rs)
    (follows : operation (first.ledger.reserving rs) = (operation first.ledger).reserving rs) :
    second.andThen operation = (first.andThen operation).reserving rs := by
  subst same
  unfold andThen
  simp only [reserving, follows]
  split
  · rfl
  · rfl

theorem written_reserving : (o.reserving rs).written = o.written.reserving rs := by
  unfold written
  by_cases words : o.notes.all Note.isWritable = true
  · rw [if_pos words]
    exact if_pos words
  · rw [if_neg words]
    exact if_neg words

end Outcome

namespace Ledger

variable {l : Ledger} {rs : List Address} {now : Int} {a : Address} {c : Client}

theorem isAvailable_reserving (bare : l.pool.reserved = []) (a : Address) :
    (l.reserving rs).isAvailable a = (!rs.contains a && l.isAvailable a) := by
  unfold isAvailable Pool.isReserved
  rw [bare]
  rfl

/-- Reserving more leaves fewer addresses to offer. -/
theorem isAvailable_of_reserving (bare : l.pool.reserved = [])
    (free : (l.reserving rs).isAvailable a = true) : l.isAvailable a = true := by
  rw [isAvailable_reserving bare, Bool.and_eq_true] at free
  exact free.2

theorem isAvailable_reserving_of_not_mem (bare : l.pool.reserved = []) (spared : a ∉ rs) :
    (l.reserving rs).isAvailable a = l.isAvailable a := by
  rw [isAvailable_reserving bare, List.contains_eq_mem, decide_eq_false spared, Bool.not_false,
    Bool.true_and]

/- Offers. -/

theorem isOfferable_reserving (bare : l.pool.reserved = [])
    (avoids : l.isOfferable a = true → a ∉ rs) :
    (l.reserving rs).isOfferable a = l.isOfferable a := by
  have same : (l.reserving rs).isOfferable a =
      (l.pool.contains a && l.pool.isValid a && (l.reserving rs).isAvailable a) := rfl
  rw [same]
  cases free : l.isOfferable a with
  | true => rw [isAvailable_reserving_of_not_mem bare (avoids free), ← free, isOfferable]
  | false =>
    rw [isAvailable_reserving bare, Bool.and_left_comm]
    exact (congrArg _ free).trans (Bool.and_false _)

theorem freeAddress?_reserving (bare : l.pool.reserved = []) {h : Hardware}
    (avoids : ∀ a, l.freeAddress? h = some a → a ∉ rs) :
    (l.reserving rs).freeAddress? h = l.freeAddress? h := by
  have same : (l.reserving rs).freeAddress? h = (l.pool.candidates h).find? fun a =>
      (l.reserving rs).isAvailable a && !l.declined.contains a :=
    (Pool.findCandidate_eq_find? _ _ _).trans
      (congrArg (List.find? _) (Pool.candidates_reserving h))
  have free : l.freeAddress? h = (l.pool.candidates h).find? fun a =>
      l.isAvailable a && !l.declined.contains a := Pool.findCandidate_eq_find? _ _ _
  have narrower (b : Address) (good : ((l.reserving rs).isAvailable b &&
      !l.declined.contains b) = true) : (l.isAvailable b && !l.declined.contains b) = true := by
    rw [Bool.and_eq_true] at good ⊢
    exact ⟨isAvailable_of_reserving bare good.1, good.2⟩
  rw [same]
  rw [free] at avoids ⊢
  refine find?_narrowed narrower fun a found => ?_
  have good : (l.isAvailable a && !l.declined.contains a) = true :=
    (List.find?_eq_some_iff_append.mp found).1
  rw [isAvailable_reserving_of_not_mem bare (avoids a found), good]

theorem cut?_reserving (bare : l.pool.reserved = [])
    (avoids : ∀ a rest, (l.declined.cut? fun a => l.pool.isValid a && l.isAvailable a) =
      some (a, rest) → a ∉ rs) :
    (l.declined.cut? fun a => l.pool.isValid a && (l.reserving rs).isAvailable a) =
      l.declined.cut? fun a => l.pool.isValid a && l.isAvailable a := by
  refine Roster.cut?_narrowed (fun b good => ?_) fun a rest found => ?_
  · rw [Bool.and_eq_true] at good ⊢
    exact ⟨good.1, isAvailable_of_reserving bare good.2⟩
  · rw [isAvailable_reserving_of_not_mem bare (avoids a rest found)]
    exact (Roster.cut?_split found).1

theorem offerNew_reserving (bare : l.pool.reserved = []) {expiration : Int} {q : Discovery}
    (avoids : ∀ lease, (l.offerNew expiration q).answer = .ok lease → lease.address ∉ rs) :
    (l.reserving rs).offerNew expiration q = (l.offerNew expiration q).reserving rs := by
  have free : (l.reserving rs).freeAddress? q.client.hardware =
      l.freeAddress? q.client.hardware := by
    refine freeAddress?_reserving bare fun a found => ?_
    simp only [offerNew, found] at avoids
    exact avoids _ rfl
  unfold offerNew at avoids ⊢
  rw [free]
  cases found : l.freeAddress? q.client.hardware with
  | some a => rfl
  | none =>
    rw [found] at avoids
    dsimp only at avoids ⊢
    have cut : ((l.reserving rs).declined.cut? fun a =>
        (l.reserving rs).pool.isValid a && (l.reserving rs).isAvailable a) =
        l.declined.cut? fun a => l.pool.isValid a && l.isAvailable a := by
      refine cut?_reserving bare fun a rest first => ?_
      rw [first] at avoids
      exact avoids _ rfl
    rw [cut]
    cases l.declined.cut? fun a => l.pool.isValid a && l.isAvailable a with
    | some cut => rfl
    | none => rfl

theorem offerSwept_reserving (bare : l.pool.reserved = []) {q : Discovery}
    (avoids : ∀ lease, (l.offerSwept now q).answer = .ok lease → lease.address ∉ rs) :
    (l.reserving rs).offerSwept now q = (l.offerSwept now q).reserving rs := by
  have own : (l.reserving rs).leaseOf q.client = l.leaseOf q.client := rfl
  have outside (given : Option Address) :
      (l.reserving rs).isOutside given = l.isOutside given := rfl
  unfold offerSwept at avoids ⊢
  dsimp only at avoids ⊢
  rw [own]
  cases current : l.leaseOf q.client with
  | some lease => rfl
  | none =>
    rw [current] at avoids
    dsimp only at avoids ⊢
    have wish : q.requested.filter (l.reserving rs).isOfferable =
        q.requested.filter l.isOfferable := by
      cases wished : q.requested with
      | none => rfl
      | some a =>
        have same : (l.reserving rs).isOfferable a = l.isOfferable a := by
          refine isOfferable_reserving bare fun free => ?_
          rw [wished, Option.filter_some, if_pos free] at avoids
          exact avoids _ rfl
        rw [Option.filter_some, Option.filter_some, same]
    rw [wish]
    cases granted : q.requested.filter l.isOfferable with
    | some a => rfl
    | none =>
      rw [granted] at avoids
      dsimp only at avoids ⊢
      rw [outside, outside]
      split
      · rfl
      · split
        · rfl
        · rename_i source relay
          rw [if_neg source, if_neg relay] at avoids
          exact offerNew_reserving bare avoids

/- Requests. -/

theorem grant_reserving (bare : l.pool.reserved = []) {hostname : Value} {dropping : Option Lease}
    (avoids : ∀ lease, l.grant now c a hostname dropping = .ok lease → lease.address ∉ rs) :
    (l.reserving rs).grant now c a hostname dropping = l.grant now c a hostname dropping := by
  have holder : (l.reserving rs).holder? a dropping = l.holder? a dropping := rfl
  have reserved : l.pool.isReserved a = false := by
    rw [Pool.isReserved, bare]
    rfl
  unfold grant at avoids ⊢
  dsimp only at avoids ⊢
  rw [holder]
  cases held : l.holder? a dropping with
  | some current => rfl
  | none =>
    rw [held, reserved] at avoids
    dsimp only at avoids ⊢
    have pool : (l.reserving rs).pool.contains a = l.pool.contains a ∧
        (l.reserving rs).pool.isValid a = l.pool.isValid a := ⟨rfl, rfl⟩
    rw [reserved, pool.1, pool.2]
    cases fits : l.pool.contains a && l.pool.isValid a with
    | false => rfl
    | true =>
      have spared : (l.reserving rs).pool.isReserved a = false := by
        rw [fits] at avoids
        exact (List.contains_eq_mem a rs).trans (decide_eq_false (avoids _ rfl))
      rw [spared]
      rfl

theorem confirm_reserving (bare : l.pool.reserved = []) {q : Demand} {dropping : Option Lease}
    {note : Note}
    (avoids : ∀ lease, (l.confirm now q a dropping note).answer = .ok lease →
      lease.address ∉ rs) :
    (l.reserving rs).confirm now q a dropping note =
      (l.confirm now q a dropping note).reserving rs := by
  have dropped (lease : Lease) : ((l.reserving rs).dropLease dropping).commit lease =
      ((l.dropLease dropping).commit lease).reserving rs := by
    cases dropping with
    | none => rfl
    | some old => rfl
  rw [confirm_answer] at avoids
  unfold confirm
  rw [grant_reserving bare avoids]
  cases l.grant now q.client a q.hostname dropping with
  | error refusal => rfl
  | ok lease =>
    dsimp only
    rw [dropped]
    rfl

theorem requestSwept_reserving (bare : l.pool.reserved = []) {q : Demand}
    (avoids : ∀ lease, (l.requestSwept now q).answer = .ok lease → lease.address ∉ rs) :
    (l.reserving rs).requestSwept now q = (l.requestSwept now q).reserving rs := by
  have own : (l.reserving rs).leaseOf q.client = l.leaseOf q.client := rfl
  unfold requestSwept at avoids ⊢
  dsimp only at avoids ⊢
  rw [own]
  split
  · rename_i a asked
    rw [asked] at avoids
    split
    · rename_i chosen
      simp only [chosen, if_true] at avoids
      exact confirm_reserving bare avoids
    · rename_i chosen
      simp only [chosen] at avoids
      split
      · rfl
      · rename_i elsewhere
        simp only [elsewhere] at avoids
        exact confirm_reserving bare avoids
  · rename_i unasked
    rw [unasked] at avoids
    split
    · rfl
    · rename_i a source
      rw [source] at avoids
      dsimp only at avoids
      split
      · rfl
      · rename_i elsewhere
        simp only [elsewhere] at avoids
        exact confirm_reserving bare avoids

/- Operations. -/

theorem sweep_reserving (now : Int) : (l.reserving rs).sweep now = (l.sweep now).reserving rs := by
  have bound : (l.reserving rs).nextCheck = l.nextCheck := rfl
  unfold sweep
  rw [bound]
  split
  · rfl
  · rfl

theorem release_reserving : (l.reserving rs).release c a = (l.release c a).reserving rs := by
  have committed : (l.reserving rs).committed = l.committed := rfl
  unfold release
  rw [committed]
  split
  · rfl
  · rfl

theorem decline_reserving : (l.reserving rs).decline now a = (l.decline now a).reserving rs := by
  have same : ((l.reserving rs).declined.contains a || !(l.reserving rs).pool.contains a) =
      (l.declined.contains a || !l.pool.contains a) := rfl
  unfold decline
  rw [same]
  split
  · rfl
  · rfl

/-- An operation that answers with none of the reserved addresses does the same on a ledger that
reserves them. -/
theorem run_reserving (bare : l.pool.reserved = []) {op : Operation}
    (same : ∀ pool, op ≠ .reconfigure pool)
    (avoids : ∀ lease, (op.run now l).answer = .lease lease → lease.address ∉ rs) :
    op.run now (l.reserving rs) = (op.run now l).reserving rs := by
  have swept : (l.sweep now).ledger.pool.reserved = [] :=
    (congrArg Pool.reserved (sweep_leaves now l).1.1).trans bare
  cases op with
  | offer q =>
    refine congrArg (Outcome.map Answer.ofLease)
      (Outcome.andThen_reserving (sweep_reserving now) ?_)
    refine offerSwept_reserving swept fun lease offered => avoids lease ?_
    exact congrArg Answer.ofLease offered
  | request q =>
    refine congrArg (Outcome.map Answer.ofLease)
      (Outcome.andThen_reserving (sweep_reserving now) ?_)
    refine requestSwept_reserving swept fun lease granted => avoids lease ?_
    exact congrArg Answer.ofLease granted
  | release c a => exact congrArg (Outcome.map Answer.released) release_reserving
  | decline a => exact congrArg (Outcome.map fun _ => Answer.noted) decline_reserving
  | committed =>
    exact congrArg (Outcome.map Answer.leases)
      (Outcome.andThen_reserving (sweep_reserving now) rfl)
  | declined =>
    exact congrArg (Outcome.map fun as => Answer.addresses (Address.sorted as))
      (Outcome.andThen_reserving (sweep_reserving now) rfl)
  | reconfigure pool => exact absurd rfl (same pool)

end Ledger

/-- That a reply does not hand out an address of a list. -/
def Reply.Avoids (rs : List Address) (reply : Option Reply) : Prop :=
  ∀ r ∈ reply, ∀ lease ∈ r.lease, lease.address ∉ rs

theorem ClientMessage.avoids_of_reply? {m : ClientMessage} {rs : List Address} {lease : Lease}
    (avoids : Reply.Avoids rs (m.reply? (.lease lease))) : lease.address ∉ rs := by
  unfold reply? at avoids
  refine avoids _ rfl lease ?_
  split
  · rfl
  · rfl

theorem Delivery.handle_reserving {d : Delivery} {l : Ledger} {rs : List Address}
    {reply : Option Reply} (bare : l.pool.reserved = [])
    (handled : (d.handle l).answer = .ok reply) (avoids : Reply.Avoids rs reply) :
    (d.handle (l.reserving rs)).answer = .ok reply ∧
      (d.handle (l.reserving rs)).ledger = (d.handle l).ledger.reserving rs := by
  cases asks : d.message.operation? with
  | none =>
    obtain ⟨answer, left⟩ := handle_of_nothing asks l
    obtain ⟨answer', left'⟩ := handle_of_nothing asks (l.reserving rs)
    rw [left, left']
    exact ⟨answer'.trans (answer.symm.trans handled), rfl⟩
  | some op =>
    obtain ⟨answer, left⟩ := handle_of_operation asks l
    obtain ⟨answer', left'⟩ := handle_of_operation asks (l.reserving rs)
    obtain ⟨said, answered, replied⟩ := answer_of_reply asks handled
    have same : op.run d.now (l.reserving rs) = (op.run d.now l).reserving rs := by
      refine Ledger.run_reserving bare (ClientMessage.operation?_ne_reconfigure asks)
        fun lease given => ?_
      have spoken : said = .lease lease := (Outcome.written_of_ok answered).1.symm.trans given
      rw [spoken] at replied
      exact ClientMessage.avoids_of_reply? (replied ▸ avoids)
    rw [answer', left', left, same, Outcome.written_reserving]
    exact ⟨answer.symm.trans handled, rfl⟩

/- Soundness of one message. -/

namespace Ledger

/-- What every ledger keeps to that serves one pool from the start. -/
structure Sound (l : Ledger) : Prop where
  orderly : l.Orderly
  bounded : l.Bounded
  served : l.Served
  assigned : l.Assigned

theorem sound_opening (pool : Pool) : (opening pool).ledger.Sound :=
  ⟨orderly_fresh pool, bounded_fresh pool, served_fresh pool, nofun⟩

variable {l : Ledger}

theorem Sound.handle (sound : l.Sound) (d : Delivery) :
    (d.handle l).ledger.Sound ∧ (d.handle l).ledger.pool = l.pool := by
  obtain ⟨orderly, right, served, assigned⟩ := sound
  rcases d.idle_or_calls with ⟨_, idle⟩ | ⟨op, t, calls⟩
  · rw [(idle l).2]
    exact ⟨⟨orderly, right, served, assigned⟩, rfl⟩
  · rw [calls.ledger]
    exact ⟨⟨orderly_turn orderly t, bounded_turn orderly right t,
      served_turn orderly served calls.keeps, assigned_turn orderly assigned calls.keeps⟩,
      pool_turn orderly calls.keeps⟩

end Ledger

namespace Play

variable {clock : Clock} {l : Ledger} {items : List Value} {rs : List Address} {p q : Play}

/-- That no reply in a play hands out an address of a list. -/
def Avoids (rs : List Address) (p : Play) : Prop := ∀ row ∈ p.rows, Reply.Avoids rs row.reply

/-- That one play is the other one on a ledger that reserves other addresses. -/
structure Mirrors (rs : List Address) (p q : Play) : Prop where
  rows : q.rows = p.rows
  clock : q.clock = p.clock
  fault : q.fault = p.fault
  ledger : q.ledger = p.ledger.reserving rs

/-- What is handed out in a play is assignable, and so is what is leased behind it. -/
theorem sound_events (sound : l.Sound) :
    (∀ row ∈ (events clock l items).rows, ∀ reply ∈ row.reply, ∀ lease ∈ reply.lease,
      l.pool.Assigns lease.address) ∧
    (events clock l items).ledger.Sound ∧ (events clock l items).ledger.pool = l.pool := by
  induction items generalizing clock l with
  | nil => exact ⟨List.forall_mem_nil _, sound, rfl⟩
  | cons item rest ih =>
    cases read : readEvent clock item with
    | error fault =>
      rw [events_of_unread read]
      exact ⟨List.forall_mem_nil _, sound, rfl⟩
    | ok event =>
      obtain ⟨later, m⟩ := event
      obtain ⟨kept, pool⟩ := sound.handle ⟨later.now, m⟩
      cases handled : (Delivery.handle ⟨later.now, m⟩ l).answer with
      | error fault =>
        rw [events_of_unhandled read handled]
        exact ⟨List.forall_mem_nil _, kept, pool⟩
      | ok reply =>
        rw [events_of_handled read handled]
        obtain ⟨rows, left, stays⟩ := @ih later _ kept
        refine ⟨List.forall_mem_cons.mpr ⟨fun r replied lease carries => ?_, ?_⟩, left,
          stays.trans pool⟩
        · subst replied
          exact Ledger.assigns_of_carried sound.orderly sound.bounded sound.served sound.assigned
            handled carries
        · rw [pool] at rows
          exact rows

/-- As long as a play hands out none of some addresses, the play on a ledger that reserves them is
the same. -/
theorem events_reserving (sound : l.Sound) (bare : l.pool.reserved = [])
    (avoids : (events clock l items).Avoids rs) :
    (events clock l items).rows <+: (events clock (l.reserving rs) items).rows ∧
      ((events clock l items).fault ≠ some .longNumber →
        Mirrors rs (events clock l items) (events clock (l.reserving rs) items)) := by
  induction items generalizing clock l with
  | nil => exact ⟨List.nil_prefix, fun _ => ⟨rfl, rfl, rfl, rfl⟩⟩
  | cons item rest ih =>
    cases read : readEvent clock item with
    | error fault =>
      rw [events_of_unread read, events_of_unread read]
      exact ⟨List.nil_prefix, fun _ => ⟨rfl, rfl, rfl, rfl⟩⟩
    | ok event =>
      obtain ⟨later, m⟩ := event
      cases handled : (Delivery.handle ⟨later.now, m⟩ l).answer with
      | error fault =>
        -- A number in a note is too long. The other ledger notes something else, maybe, and goes on.
        rw [events_of_unhandled read handled]
        refine ⟨List.nil_prefix, fun ended => absurd ?_ ended⟩
        exact congrArg some (Delivery.fault_of_handle handled)
      | ok reply =>
        rw [events_of_handled read handled] at avoids ⊢
        obtain ⟨first, others⟩ := List.forall_mem_cons.mp avoids
        obtain ⟨answer, left⟩ := Delivery.handle_reserving bare handled first
        rw [events_of_handled read answer, left]
        obtain ⟨kept, pool⟩ := sound.handle ⟨later.now, m⟩
        obtain ⟨front, whole⟩ := ih kept ((congrArg Pool.reserved pool).trans bare) others
        refine ⟨(List.prefix_cons_inj _).mpr front, fun ended => ?_⟩
        obtain ⟨rows, clock, fault, ledger⟩ := whole ended
        exact ⟨congrArg (List.cons _) rows, clock, fault, ledger⟩

theorem eventsOf_of_fault {v : Value} {fault : Fault} (unlisted : v.toItems = .error fault) :
    eventsOf clock l (some v) = ⟨[], clock, l, [], some fault⟩ := by
  simp only [eventsOf, unlisted]

theorem eventsOf_of_items {v : Value} (listed : v.toItems = .ok items) :
    eventsOf clock l (some v) = events clock l items := by
  simp only [eventsOf, listed]

theorem sound_eventsOf (sound : l.Sound) (v : Option Value) :
    (∀ row ∈ (eventsOf clock l v).rows, ∀ reply ∈ row.reply, ∀ lease ∈ reply.lease,
      l.pool.Assigns lease.address) ∧
    (eventsOf clock l v).ledger.Sound ∧ (eventsOf clock l v).ledger.pool = l.pool := by
  cases v with
  | none => exact ⟨List.forall_mem_nil _, sound, rfl⟩
  | some v =>
    cases listed : v.toItems with
    | error fault =>
      rw [eventsOf_of_fault listed]
      exact ⟨List.forall_mem_nil _, sound, rfl⟩
    | ok items =>
      rw [eventsOf_of_items listed]
      exact sound_events sound

theorem eventsOf_reserving (sound : l.Sound) (bare : l.pool.reserved = []) {v : Option Value}
    (avoids : (eventsOf clock l v).Avoids rs) :
    (eventsOf clock l v).rows <+: (eventsOf clock (l.reserving rs) v).rows ∧
      ((eventsOf clock l v).fault ≠ some .longNumber →
        Mirrors rs (eventsOf clock l v) (eventsOf clock (l.reserving rs) v)) := by
  cases v with
  | none => exact ⟨List.nil_prefix, fun _ => ⟨rfl, rfl, rfl, rfl⟩⟩
  | some v =>
    cases listed : v.toItems with
    | error fault =>
      rw [eventsOf_of_fault listed, eventsOf_of_fault listed]
      exact ⟨List.nil_prefix, fun _ => ⟨rfl, rfl, rfl, rfl⟩⟩
    | ok items =>
      rw [eventsOf_of_items listed] at avoids
      rw [eventsOf_of_items listed, eventsOf_of_items listed]
      exact events_reserving sound bare avoids

/- Plays on pools. -/

theorem sound_onPool {pool : Pool} {v : Option Value} (played : onPool pool v = .ok p) :
    (∀ row ∈ p.rows, ∀ reply ∈ row.reply, ∀ lease ∈ reply.lease, pool.Assigns lease.address) ∧
    p.ledger.Sound ∧ p.ledger.pool = pool := by
  rw [onPool_eq] at played
  split at played
  · obtain rfl := Except.ok.inj played
    exact sound_eventsOf (Ledger.sound_opening pool) v
  · cases played

/-- Reserved addresses do not keep a pool from being played on. -/
theorem onPool_reserving (pool : Pool) (bare : pool.reserved = []) {v : Option Value}
    (played : onPool pool v = .ok p) :
    ∃ q, onPool (pool.reserving rs) v = .ok q ∧
      (p.Avoids rs → p.rows <+: q.rows ∧ (p.fault ≠ some .longNumber → Mirrors rs p q)) := by
  rw [onPool_eq] at played
  split at played
  · rename_i lasts
    obtain rfl := Except.ok.inj played
    have other := onPool_eq (pool.reserving rs) v
    rw [if_pos (show Numeral.isWritable (pool.reserving rs).leaseTime = true from lasts)] at other
    refine ⟨_, other, fun avoids => ?_⟩
    obtain ⟨front, whole⟩ := eventsOf_reserving (Ledger.sound_opening pool) bare avoids
    exact ⟨front, fun ended => ⟨(whole ended).rows, (whole ended).clock, (whole ended).fault,
      (whole ended).ledger⟩⟩
  · cases played

/- Reports. -/

theorem Mirrors.report (mirrors : Mirrors rs p q) : q.report.1 = p.report.1 := by
  unfold Play.report
  rw [mirrors.fault]
  cases p.fault with
  | some fault => rfl
  | none =>
    have listed : q.ledger.committedLeases q.clock.now =
        (p.ledger.committedLeases p.clock.now).reserving rs := by
      rw [mirrors.ledger, mirrors.clock]
      exact Outcome.andThen_reserving (Ledger.sweep_reserving _) rfl
    have declined (l : Ledger) : (l.reserving rs).declinedAddresses p.clock.now =
        (l.declinedAddresses p.clock.now).reserving rs :=
      Outcome.andThen_reserving (Ledger.sweep_reserving _) rfl
    have left : ((p.ledger.committedLeases p.clock.now).reserving rs).ledger =
        (p.ledger.committedLeases p.clock.now).ledger.reserving rs := rfl
    dsimp only
    rw [listed, mirrors.rows, mirrors.clock, left, declined]
    rfl

theorem assigns_of_report (sound : p.ledger.Sound) {report : Report}
    (reported : p.report.1 = .ok report) :
    report.rows = p.rows ∧ ∀ lease ∈ report.committed, p.ledger.pool.Assigns lease.address := by
  unfold Play.report at reported
  cases ended : p.fault with
  | some fault =>
    rw [ended] at reported
    cases reported
  | none =>
    rw [ended] at reported
    cases reported
    refine ⟨rfl, fun lease listed => ?_⟩
    obtain ⟨a, entry⟩ := Roster.mem_records.mp listed
    have old := (Ledger.sweep_leaves p.clock.now p.ledger).1.2.committed.mem entry
    have key : lease.address = a := sound.orderly.keyed _ old
    exact key ▸ sound.assigned _ old

/- A client that wishes for an address. -/

/-- A client discovers servers, wishes for an address, and says nothing else. -/
def wish (a : Address) : List (RawText × Value) :=
  [("type", .text "discover"), ("mac", .text "00:00:00:00:00:01"), ("requested", .text a.text)]

theorem ofFields_wish (a : Address) : ClientMessage.ofFields (wish a) =
    .ok ⟨.discover, .plain 1, none, none, some a, false, .null⟩ := by
  have kind : MessageKind.ofValue (.text "discover") = .ok .discover := rfl
  have typed : ClientMessage.required "type" (wish a) = .ok (.text "discover") := rfl
  have mac : ClientMessage.required "mac" (wish a) = .ok (.text "00:00:00:00:00:01") := rfl
  have hardware : (Value.text "00:00:00:00:00:01").toHardware = .ok (Client.plain 1).hardware := rfl
  have id : ClientMessage.optional Value.toBytes "client_id" (wish a) = .ok none := rfl
  have source : ClientMessage.optional Value.toAddress "src" (wish a) = .ok none := rfl
  have relay : ClientMessage.optional Value.toAddress "relay" (wish a) = .ok none := rfl
  have requested : ClientMessage.optional Value.toAddress "requested" (wish a) = .ok (some a) :=
    ClientMessage.optional_of_field rfl (congrArg Bool.not a.text_isEmpty) (Value.toAddress_text a)
  unfold ClientMessage.ofFields
  rw [typed, mac, id, requested, source, relay]
  simp only [bind, Except.bind, kind, hardware]
  rfl

theorem readEvent_wish (a : Address) : readEvent ⟨0⟩ (.object (wish a)) =
    .ok (⟨0⟩, ⟨.discover, .plain 1, none, none, some a, false, .null⟩) := by
  have time : ((Value.field? "at" (wish a)).getD (.int 0)).toWhole = .ok 0 := rfl
  have clock : Clock.set ⟨0⟩ 0 = .ok ⟨0⟩ := rfl
  simp only [readEvent, time, clock, ofFields_wish, bind, Except.bind]
  rfl

/-- A wish for an assignable address that is not reserved is granted. -/
theorem wish_granted {p : Pool} {a : Address} (bare : p.reserved = [])
    (valid : p.isValid a = true) (lasts : Numeral.isWritable p.leaseTime = true) :
    ∃ played, onPool p (some (.list [.object (wish a)])) = .ok played ∧
      ∃ row ∈ played.rows, ∃ lease, row.reply = some (.offer lease) ∧ lease.address = a := by
  let l := (Ledger.opening p).ledger
  let d : Delivery := ⟨0, ⟨.discover, .plain 1, none, none, some a, false, .null⟩⟩
  let lease : Lease := ⟨.plain 1, a, 0 + p.leaseTime, .null⟩
  have free : l.isAvailable a = true := by
    change (!p.reserved.contains a && true) = true
    rw [bare]
    rfl
  have offerable : l.isOfferable a = true := by
    change (p.contains a && p.isValid a && l.isAvailable a) = true
    rw [Pool.contains_of_isValid valid, valid, free]
    rfl
  have swept : l.sweep 0 = .plain () l [] := if_pos (show (0 : Int) < Lease.never by decide)
  have own : l.leaseOf d.message.discovery.client = none := rfl
  have wished : d.message.discovery.requested = some a := rfl
  have offered : l.offer 0 d.message.discovery =
      .plain (.ok lease) l [.offeringRequested lease] := by
    simp only [Ledger.offer, Ledger.swept, swept, Outcome.andThen, Ledger.offerSwept,
      Outcome.plain_ledger, own, wished, Option.filter_some, offerable, if_true]
    rfl
  have words : (Note.offeringRequested lease).isWritable = true := by
    rw [Note.isWritable_of_numbers rfl, ← lasts]
    exact congrArg Numeral.isWritable (Int.zero_add _)
  have handled : (d.handle l).answer = .ok (some (.offer lease)) := by
    change (d.message.discover 0 l).written.answer = _
    rw [ClientMessage.discover, offered, Outcome.written_answer, if_pos]
    · rfl
    · exact List.all_eq_true.mpr (List.forall_mem_singleton.mpr words)
  have listed : (Value.list [.object (wish a)]).toItems = .ok [.object (wish a)] := rfl
  rw [onPool_eq, if_pos lasts]
  refine ⟨_, rfl, ?_⟩
  rw [eventsOf_of_items listed, events_of_handled (readEvent_wish a) handled]
  exact ⟨_, List.mem_cons_self, lease, rfl, rfl⟩

end Play

/-- The replay of events without parameters of their own. -/
def Config.replay (c : Config) (events : Option Value) : Except Fault Play :=
  Scenario.play c.subnet c.leaseTime ⟨none, none, none, events⟩

theorem Config.replay_eq {c : Config} {p : Pool} (accepted : c.pool = .ok p)
    (events : Option Value) : c.replay events = Play.onPool (p.reserving []) events := by
  have bare : Pool.ofValues c.subnet (.list []) c.leaseTime = .ok (p.reserving []) :=
    Pool.ofValues_bare accepted
  unfold replay Scenario.play
  simp only [Option.getD_none, bare, bind, Except.bind]

/-- A replay of events without parameters of their own shows what the configured pool would do, up
to the first reserved address that it hands out; if it hands out none, and does not end at a number
that cannot be written, then it is the replay of the configured pool, which never does. All replays
hand out none if and only if no reserved address is assignable. With a lease time that cannot be
written there is no replay at all, and none of the configured pool. -/
theorem Config.replay_obeys (c : Config) {p : Pool} (accepted : c.pool = .ok p) :
    (Numeral.isWritable p.leaseTime = false → ∀ events,
      c.replay events = .error .longNumber ∧ Play.onPool p events = .error .longNumber) ∧
    (Numeral.isWritable p.leaseTime = true →
      (∀ events, ∃ played want, c.replay events = .ok played ∧ Play.onPool p events = .ok want ∧
        want.Avoids p.reserved ∧
        (∀ report, want.report.1 = .ok report →
          ∀ lease ∈ report.committed, lease.address ∉ p.reserved) ∧
        (played.Avoids p.reserved ↔ played.rows <+: want.rows) ∧
        (played.Avoids p.reserved → played.fault ≠ some .longNumber →
          played.rows = want.rows ∧ played.fault = want.fault ∧
            played.report.1 = want.report.1)) ∧
      ((∀ events played, c.replay events = .ok played → played.Avoids p.reserved) ↔
        ∀ a ∈ p.reserved, p.isValid a = false)) := by
  constructor
  · intro long events
    have short : ¬ Numeral.isWritable p.leaseTime = true := Bool.eq_false_iff.mp long
    rw [replay_eq accepted, Play.onPool_eq, Play.onPool_eq]
    exact ⟨if_neg short, if_neg short⟩
  intro lasts
  constructor
  · intro events
    obtain ⟨played, replayed⟩ : ∃ played, c.replay events = .ok played := by
      rw [replay_eq accepted, Play.onPool_eq]
      exact ⟨_, if_pos lasts⟩
    obtain ⟨want, wanted, follows⟩ : ∃ want, Play.onPool p events = .ok want ∧
        (played.Avoids p.reserved → played.rows <+: want.rows ∧
          (played.fault ≠ some .longNumber → Play.Mirrors p.reserved played want)) :=
      Play.onPool_reserving (p.reserving []) rfl ((replay_eq accepted events).symm.trans replayed)
    have spare {a : Address} (assigns : p.Assigns a) : a ∉ p.reserved :=
      of_decide_eq_false ((List.contains_eq_mem a p.reserved).symm.trans assigns.2.2)
    obtain ⟨rows, sound, pool⟩ := Play.sound_onPool wanted
    have avoids : want.Avoids p.reserved := fun row there reply replied lease carries =>
      spare (rows row there reply replied lease carries)
    refine ⟨played, want, replayed, wanted, avoids, fun report reported lease listed => ?_,
      ⟨fun clean => (follows clean).1, fun front row there => avoids row (front.subset there)⟩,
      fun clean ended => ?_⟩
    · have assigns := (Play.assigns_of_report sound reported).2 lease listed
      exact spare (pool ▸ assigns)
    · have mirrors := (follows clean).2 ended
      exact ⟨mirrors.rows.symm, mirrors.fault.symm, mirrors.report.symm⟩
  · constructor
    · intro all a reserved
      refine Bool.eq_false_iff.mpr fun valid => ?_
      obtain ⟨played, replayed, row, there, lease, replied, here⟩ :=
        @Play.wish_granted (p.reserving []) a rfl valid lasts
      have asked := (replay_eq accepted _).trans replayed
      exact all _ _ asked row there _ replied lease rfl (here ▸ reserved)
    · intro none events played replayed row there reply replied lease carries reserved
      have assigns := (Play.sound_onPool ((replay_eq accepted events).symm.trans replayed)).1
        row there reply replied lease carries
      exact absurd assigns.2.1 (Bool.eq_false_iff.mp (none _ reserved))

/-- A client that selects an address which is not reserved is answered as by the configured pool. -/
theorem Config.replay_of_unreserved :
    let c : Config :=
      ⟨.text "192.168.1.0/24", .list [.text "192.168.1.10"], .int 1000, .text "INFO"⟩
    let p : Pool := ⟨⟨.home 0, 24, by decide, by decide⟩, [.home 10], 1000, by decide⟩
    let events : Value := .list [.object [("type", .text "request"),
      ("mac", .text "02:00:00:00:00:01"), ("requested", .text "192.168.1.20"),
      ("server_id", .bool true)]]
    c.pool = .ok p ∧ ∃ played want, c.replay (some events) = .ok played ∧
      Play.onPool p (some events) = .ok want ∧
      played.rows.map (fun row => row.reply.bind fun r => r.lease.map Lease.address) =
        [some (.home 20)] ∧
      played.report.1 = want.report.1 := by
  intro c p events
  have accepted : c.pool = .ok p := rfl
  have lasts : Numeral.isWritable p.leaseTime = true := by decide +kernel
  obtain ⟨played, want, replayed, wanted, _, _, _, same⟩ :=
    ((replay_obeys c accepted).2 lasts).1 (some events)
  have seen : (c.replay (some events)).toOption.map (fun played =>
      (played.fault.isNone, played.rows.map fun row =>
        row.reply.bind fun r => r.lease.map Lease.address)) =
      some (true, [some (.home 20)]) := by
    decide +kernel
  rw [replayed] at seen
  obtain ⟨ended, rows⟩ : played.fault.isNone = true ∧
      played.rows.map (fun row => row.reply.bind fun r => r.lease.map Lease.address) =
        [some (.home 20)] := Prod.ext_iff.mp (Option.some.inj seen)
  refine ⟨accepted, played, want, replayed, wanted, rows, (same ?_ ?_).2.2⟩
  · intro row there reply replied lease carries reserved
    have listed : some lease.address ∈ [some (Address.home 20)] := by
      rw [← rows]
      refine List.mem_map.mpr ⟨row, there, ?_⟩
      rw [show row.reply = some reply from replied, Option.bind_some,
        show reply.lease = some lease from carries, Option.map_some]
    have here : lease.address = .home 20 := Option.some.inj (List.mem_singleton.mp listed)
    exact absurd (here.symm.trans (List.mem_singleton.mp reserved)) (by decide)
  · rw [Option.isNone_iff_eq_none.mp ended]
    exact nofun

/-- A client that selects a reserved address is confirmed it. -/
theorem Config.reserved_address_confirmed :
    let c : Config :=
      ⟨.text "192.168.1.0/24", .list [.text "192.168.1.10"], .int 1000, .text "INFO"⟩
    let events : Value := .list [.object [("type", .text "request"),
      ("mac", .text "02:00:00:00:00:01"), ("requested", .text "192.168.1.10"),
      ("server_id", .bool true)]]
    c.pool.toOption.map Pool.reserved = some [.home 10] ∧
      (c.replay (some events)).toOption.map (fun played => played.rows.map fun row =>
        row.reply.map fun r => (r.kind, r.lease.map Lease.address)) =
        some [some (.ack, some (.home 10))] ∧
      ((c.replay (some events)).toOption.bind fun played =>
        played.report.1.toOption.map fun report => report.committed.map Lease.address) =
        some [.home 10] := by
  decide +kernel

end LeaseBook
