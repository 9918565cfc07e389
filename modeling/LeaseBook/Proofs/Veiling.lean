import LeaseBook.Proofs.Dispatch
import LeaseBook.Proofs.Shifting

/-!
A client identifier hides the hardware address. What is veiled shows of each client what it is known
by and nothing else: the hardware address of a client with an identifier is blanked out. Requests,
releases and declines read no more than that, so that on a veiled ledger a veiled message does the
same, veiled. Only the search for an address to offer starts at the hardware address itself.
-/

namespace LeaseBook

/-- A client without the hardware address it speaks from, if it is known by an identifier. -/
def Client.veiled (c : Client) : Client :=
  match c.id with
  | some id => ⟨some id, ⟨0, by decide⟩⟩
  | none => c

namespace Client

theorem identity_veiled (c : Client) : c.veiled.identity = c.identity := by
  obtain ⟨id, hardware⟩ := c
  cases id with
  | none => rfl
  | some id => rfl

end Client

def Lease.veiled (l : Lease) : Lease := { l with client := l.client.veiled }

namespace Lease

theorem isOf_veiled (l : Lease) (c : Client) : l.veiled.isOf c.veiled = l.isOf c := by
  have own : l.veiled.client.identity = l.client.identity := l.client.identity_veiled
  rw [Bool.eq_iff_iff, isOf_iff_identity, isOf_iff_identity, c.identity_veiled, own]

theorem renew_veiled (l : Lease) (expiration : Int) (hostname : Value) :
    l.veiled.renew expiration hostname = (l.renew expiration hostname).veiled := by
  by_cases late : expiration ≤ l.expiration
  · simp [renew, extended?, veiled, late]
  · simp [renew, extended?, veiled, late]

end Lease

def Demand.veiled (q : Demand) : Demand := { q with client := q.client.veiled }

def Operation.veiled : Operation → Operation
  | offer q => offer { q with client := q.client.veiled }
  | request q => request q.veiled
  | release c a => release c.veiled a
  | op => op

def Answer.veiled : Answer → Answer
  | lease l => lease l.veiled
  | leases ls => leases (ls.map Lease.veiled)
  | answer => answer

def Ledger.veiled (l : Ledger) : Ledger := { l with committed := l.committed.map Lease.veiled }

/-- Whether events can be put into words depends on the numbers in them. -/
theorem Note.all_writable_of_numbers {notes others : List Note}
    (same : others.map numbers = notes.map numbers) :
    others.all isWritable = notes.all isWritable := by
  have read (ns : List Note) : ns.all isWritable =
      (ns.map numbers).all fun numbers => numbers.all Numeral.isWritable := by
    rw [List.all_map]
    rfl
  rw [read, read, same]

namespace Outcome

variable {α β : Type}

/-- That one outcome is the other one veiled, as far as its notes are put into words in the same
cases. -/
structure Veils (f : α → α) (o p : Outcome α) : Prop where
  answer : p.answer = f o.answer
  notes : p.notes.map Note.numbers = o.notes.map Note.numbers
  ledger : p.ledger = o.ledger.veiled
  halted : p.halted = o.halted.veiled

namespace Veils

variable {f : α → α} {o p : Outcome α}

theorem plain (answer : α) {notes others : List Note}
    (numbers : others.map Note.numbers = notes.map Note.numbers)
    {l m : Ledger} (same : m = l.veiled) :
    Veils f (Outcome.plain answer l notes) (Outcome.plain (f answer) m others) :=
  ⟨rfl, numbers, same, same⟩

theorem map (veils : Veils f o p) {g : α → β} {h : β → β} (square : ∀ a, g (f a) = h (g a)) :
    Veils h (o.map g) (p.map g) := by
  refine ⟨?_, veils.notes, veils.ledger, veils.halted⟩
  rw [map_answer, map_answer, veils.answer, square]

theorem andThen {first second : Outcome Unit} {operation other : Ledger → Outcome α}
    (veils : Veils id first second) (follows : ∀ l, Veils f (operation l) (other l.veiled)) :
    Veils f (first.andThen operation) (second.andThen other) := by
  have next := follows first.ledger
  rw [← veils.ledger] at next
  refine ⟨next.answer, ?_, next.ledger, ?_⟩
  · simp only [Outcome.andThen, List.map_append, veils.notes, next.notes]
  · simp only [Outcome.andThen, Note.all_writable_of_numbers veils.notes]
    split
    · exact next.halted
    · exact veils.halted

theorem written (veils : Veils f o p) :
    p.written.answer = o.written.answer.map f ∧
      p.written.ledger = o.written.ledger.veiled := by
  unfold Outcome.written
  rw [Note.all_writable_of_numbers veils.notes]
  split
  · exact ⟨congrArg Except.ok veils.answer, veils.ledger⟩
  · exact ⟨rfl, veils.halted⟩

end Veils
end Outcome

namespace Ledger

open Outcome (Veils)

variable {l : Ledger} {a : Address} {c : Client}

theorem leaseOf_veiled : l.veiled.leaseOf c.veiled = (l.leaseOf c).map Lease.veiled := by
  simp only [leaseOf, veiled, Roster.records_map, List.find?_map, Function.comp_def,
    Lease.isOf_veiled]

theorem holder?_veiled (dropping : Option Lease) :
    l.veiled.holder? a (dropping.map Lease.veiled) = (l.holder? a dropping).map Lease.veiled := by
  simp only [holder?, veiled, Roster.find?_map, Option.map_map, Option.filter_map]
  rfl

theorem grant_veiled (now : Int) (hostname : Value) (dropping : Option Lease) :
    l.veiled.grant now c.veiled a hostname (dropping.map Lease.veiled) =
      (l.grant now c a hostname dropping).map Lease.veiled := by
  have pool : l.veiled.pool = l.pool := rfl
  unfold grant
  dsimp only
  rw [holder?_veiled, pool]
  cases l.holder? a dropping with
  | some current =>
    simp only [Option.map_some, Lease.isOf_veiled, Lease.renew_veiled]
    split
    · rfl
    · rfl
  | none =>
    simp only [Option.map_none]
    split
    · rfl
    · rfl

theorem commit_veiled (lease : Lease) :
    l.veiled.commit lease.veiled = (l.commit lease).veiled := by
  simp only [commit, veiled, mk.injEq, true_and]
  exact ⟨Roster.put_map, rfl⟩

theorem dropLease_veiled (old : Option Lease) :
    l.veiled.dropLease (old.map Lease.veiled) = (l.dropLease old).veiled := by
  cases old with
  | none => rfl
  | some old =>
    simp only [dropLease, veiled, Option.map_some, mk.injEq, true_and, and_true]
    exact Roster.erase_map

theorem confirm_veiled (now : Int) (q : Demand) (a : Address) (dropping : Option Lease)
    (note : Note) :
    Veils (Except.map Lease.veiled) (l.confirm now q a dropping note)
      (l.veiled.confirm now q.veiled a (dropping.map Lease.veiled) note) := by
  have granted := grant_veiled (l := l) (a := a) (c := q.client) now q.hostname dropping
  unfold confirm
  simp only [Demand.veiled, granted]
  cases l.grant now q.client a q.hostname dropping with
  | error refusal => exact .plain (Except.error refusal) rfl rfl
  | ok lease =>
    refine .plain (Except.ok lease) ?_ ?_
    · rfl
    · rw [dropLease_veiled, commit_veiled]

theorem requestSwept_veiled (now : Int) (q : Demand) :
    Veils (Except.map Lease.veiled) (l.requestSwept now q)
      (l.veiled.requestSwept now q.veiled) := by
  have assigned : l.veiled.leaseOf q.veiled.client = (l.leaseOf q.client).map Lease.veiled :=
    leaseOf_veiled
  have requested : q.veiled.requested = q.requested := rfl
  have source : q.veiled.source = q.source := rfl
  have chosen : q.veiled.serverChosen = q.serverChosen := rfl
  unfold requestSwept
  dsimp only
  rw [assigned, requested, source, chosen]
  cases q.requested with
  | some a =>
    dsimp only
    rw [isElsewhere_map (f := Lease.veiled) fun _ => rfl]
    split
    · exact confirm_veiled now q a _ _
    · split
      · exact .plain _ rfl rfl
      · exact confirm_veiled now q a none _
  | none =>
    cases q.source with
    | none => exact .plain _ rfl rfl
    | some a =>
      dsimp only
      rw [isElsewhere_map (f := Lease.veiled) fun _ => rfl]
      split
      · exact .plain _ rfl rfl
      · exact confirm_veiled now q a none _

theorem release_veiled (c : Client) (a : Address) :
    Veils id (l.release c a) (l.veiled.release c.veiled a) := by
  have found : (l.veiled.committed.find? a).filter (fun current => current.isOf c.veiled) =
      ((l.committed.find? a).filter fun current => current.isOf c).map Lease.veiled := by
    simp only [veiled, Roster.find?_map, Option.filter_map, Function.comp_def, Lease.isOf_veiled]
  unfold release
  rw [found]
  cases (l.committed.find? a).filter fun current => current.isOf c with
  | none =>
    refine .plain false ?_ rfl
    rfl
  | some current =>
    refine .plain true ?_ ?_
    · rfl
    · simp only [veiled, Roster.erase_map]

theorem decline_veiled (now : Int) (a : Address) :
    Veils id (l.decline now a) (l.veiled.decline now a) := by
  have declined : l.veiled.declined = l.declined := rfl
  have pool : l.veiled.pool = l.pool := rfl
  unfold decline
  dsimp only
  rw [declined, pool]
  split
  · exact .plain _ rfl rfl
  · exact .plain _ rfl rfl

theorem purged_veiled (now : Int) : Veils id (l.purged now) (l.veiled.purged now) where
  answer := rfl
  notes := by
    simp only [purged, purgeNotes, veiled, Roster.filter_map, Roster.records_map,
      List.map_append, List.map_map]
    rfl
  ledger := by
    simp only [purged, purge, veiled, Roster.filter_map, Roster.records_map, List.map_map]
    rfl
  halted := by
    simp only [purged, strikeLeases, veiled, Roster.strike_map]
    rfl

theorem sweep_veiled (now : Int) : Veils id (l.sweep now) (l.veiled.sweep now) := by
  have bound : l.veiled.nextCheck = l.nextCheck := rfl
  unfold sweep
  rw [bound]
  split
  · exact .plain _ rfl rfl
  · exact purged_veiled now

theorem request_veiled (now : Int) (q : Demand) :
    Veils (Except.map Lease.veiled) (l.request now q) (l.veiled.request now q.veiled) :=
  (sweep_veiled now).andThen fun _ => requestSwept_veiled now q

/-- What a message can ask for other than an offer. -/
inductive Veilable : Operation → Prop
  | request (q : Demand) : Veilable (.request q)
  | release (c : Client) (a : Address) : Veilable (.release c a)
  | decline (a : Address) : Veilable (.decline a)

theorem run_veiled {op : Operation} (veilable : Veilable op) (now : Int) :
    Veils Answer.veiled (op.run now l) (op.veiled.run now l.veiled) := by
  cases veilable with
  | request q =>
    refine (request_veiled now q).map fun answer => ?_
    cases answer with
    | error refusal => rfl
    | ok lease => rfl
  | release c a => exact (release_veiled c a).map fun _ => rfl
  | decline a => exact (decline_veiled now a).map (g := fun _ => Answer.noted) fun _ => rfl

end Ledger

/- Messages. -/

def ClientMessage.veiled (m : ClientMessage) : ClientMessage := { m with client := m.client.veiled }

def Delivery.veiled (d : Delivery) : Delivery := { d with message := d.message.veiled }

def Reply.veiled (r : Reply) : Reply := { r with lease := r.lease.map Lease.veiled }

namespace ClientMessage

variable {m : ClientMessage} {op : Operation}

theorem operation?_veiled (m : ClientMessage) :
    m.veiled.operation? = m.operation?.map Operation.veiled := by
  obtain ⟨kind, client, source, relay, requested, chosen, hostname⟩ := m
  cases kind with
  | discover => rfl
  | request => rfl
  | release => cases source <;> rfl
  | decline => cases requested <;> rfl
  | offer => rfl
  | ack => rfl
  | nak => rfl
  | inform => rfl

theorem reply?_veiled (m : ClientMessage) (answer : Answer) :
    m.veiled.reply? answer.veiled = (m.reply? answer).map Reply.veiled := by
  cases answer with
  | lease lease =>
    by_cases kind : m.kind = .discover
    · simp [reply?, Answer.veiled, veiled, kind, Reply.veiled, Reply.offer]
    · simp [reply?, Answer.veiled, veiled, kind, Reply.veiled, Reply.ack]
  | refused refusal =>
    by_cases told : m.kind = .request ∧ m.requested.isSome = true
    · simp [reply?, Answer.veiled, veiled, told, Reply.veiled, Reply.nak]
    · simp [reply?, Answer.veiled, veiled, told]
  | released found => rfl
  | noted => rfl
  | leases ls => rfl
  | addresses as => rfl
  | serving pool => rfl

theorem veilable_of_asks (asks : m.operation? = some op) (other : m.kind ≠ .discover) :
    Ledger.Veilable op := by
  have asking := m.asking
  rw [asks] at asking
  cases asking with
  | discover kind => exact absurd kind other
  | request kind => exact .request _
  | release kind source => exact .release _ _
  | decline kind requested => exact .decline _

end ClientMessage

theorem Delivery.handle_veiled {d : Delivery} (other : d.message.kind ≠ .discover) (l : Ledger) :
    (d.veiled.handle l.veiled).answer = (d.handle l).answer.map (Option.map Reply.veiled) ∧
      (d.veiled.handle l.veiled).ledger = (d.handle l).ledger.veiled := by
  have veiled : d.veiled.message.operation? = d.message.operation?.map Operation.veiled :=
    d.message.operation?_veiled
  cases asks : d.message.operation? with
  | none =>
    rw [asks] at veiled
    obtain ⟨answer, left⟩ := handle_of_nothing asks l
    obtain ⟨answer', left'⟩ := handle_of_nothing veiled l.veiled
    rw [answer, left, answer', left']
    exact ⟨rfl, rfl⟩
  | some op =>
    rw [asks] at veiled
    obtain ⟨answer, left⟩ := handle_of_operation asks l
    obtain ⟨answer', left'⟩ := handle_of_operation veiled l.veiled
    have veils := Ledger.run_veiled (l := l) (ClientMessage.veilable_of_asks asks other) d.now
    obtain ⟨said, behind⟩ := veils.written
    have now : d.veiled.now = d.now := rfl
    rw [answer, left, answer', left', now, said, behind]
    refine ⟨?_, rfl⟩
    cases (op.run d.now l).written.answer with
    | error fault => rfl
    | ok answer => exact congrArg Except.ok (d.message.reply?_veiled answer)

namespace Ledger

/-- What is sent back to messages one after the other. -/
def replies (l : Ledger) : List Delivery → List (Except Fault (Option Reply))
  | [] => []
  | d :: rest => (d.handle l).answer :: (d.handle l).ledger.replies rest

theorem handling_veiled (l : Ledger) {ds : List Delivery}
    (others : ∀ d ∈ ds, d.message.kind ≠ .discover) :
    l.veiled.replies (ds.map Delivery.veiled) =
        (l.replies ds).map (Except.map (Option.map Reply.veiled)) ∧
      l.veiled.handling (ds.map Delivery.veiled) = (l.handling ds).veiled := by
  induction ds generalizing l with
  | nil => exact ⟨rfl, rfl⟩
  | cons d rest ih =>
    obtain ⟨first, others⟩ := List.forall_mem_cons.mp others
    obtain ⟨answer, left⟩ := Delivery.handle_veiled first l
    obtain ⟨later, behind⟩ := ih (d.handle l).ledger others
    simp only [List.map_cons, replies, handling]
    rw [answer, left, later, behind]
    exact ⟨rfl, rfl⟩

/-- If two runs of messages other than discoveries differ only in the hardware addresses of clients
that give an identifier, then the replies differ only in these addresses, and so do the ledgers
behind them. -/
theorem identifier_hides_hardware (pool : Pool) {ds es : List Delivery}
    (same : ds.map Delivery.veiled = es.map Delivery.veiled)
    (others : ∀ d ∈ ds, d.message.kind ≠ .discover) :
    let l := (opening pool).ledger
    (l.replies ds).map (Except.map (Option.map Reply.veiled)) =
        (l.replies es).map (Except.map (Option.map Reply.veiled)) ∧
      (l.handling ds).veiled = (l.handling es).veiled := by
  intro l
  have others' : ∀ e ∈ es, e.message.kind ≠ .discover := by
    intro e member
    have kinds : es.map (fun e => e.message.kind) = ds.map fun d => d.message.kind := by
      have read := congrArg (List.map fun d : Delivery => d.message.kind) same
      rw [List.map_map, List.map_map] at read
      exact read.symm
    obtain ⟨d, there, kind⟩ := List.mem_map.mp (kinds ▸ List.mem_map_of_mem member)
    rw [← kind]
    exact others d there
  obtain ⟨first, left⟩ := l.handling_veiled others
  obtain ⟨second, right⟩ := l.handling_veiled others'
  rw [same] at first left
  exact ⟨first.symm.trans second, left.symm.trans right⟩

/-- A client with an identifier speaks from other hardware addresses in the second run than in the
first, where another client without an identifier speaks from the same one. -/
theorem replies_from_elsewhere :
    let named (i : Fin 256) : Client := ⟨some [7], (Client.plain i).hardware⟩
    let sends (now : Int) (kind : MessageKind) (c : Client) : Delivery :=
      ⟨now, kind, c, some (.home 10), none, some (.home 10), false, .null⟩
    let ds := [sends 0 .request (named 1), sends 1 .request (.plain 1), sends 2 .request (named 1),
      sends 3 .release (.plain 1), sends 4 .decline (named 1), sends 5 .release (named 1)]
    let es := [sends 0 .request (named 2), sends 1 .request (.plain 1), sends 2 .request (named 3),
      sends 3 .release (.plain 1), sends 4 .decline (named 1), sends 5 .release (named 4)]
    let l := (opening (.home 1000)).ledger
    (l.replies ds).map (fun r => r.toOption.join.map Reply.kind) =
      [some .ack, some .nak, some .ack, none, none, none] ∧
    (l.replies ds).map (Except.map (Option.map Reply.veiled)) =
        (l.replies es).map (Except.map (Option.map Reply.veiled)) ∧
      (l.handling ds).veiled = (l.handling es).veiled := by
  intro named sends ds es l
  have others : ∀ d ∈ ds, d.message.kind ≠ .discover := by
    simp [ds, sends]
  have same : ds.map Delivery.veiled = es.map Delivery.veiled := rfl
  exact ⟨by decide +kernel, identifier_hides_hardware (.home 1000) same others⟩

end Ledger
end LeaseBook
