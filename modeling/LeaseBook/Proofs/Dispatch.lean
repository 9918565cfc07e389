import LeaseBook.Message.Handling
import LeaseBook.Proofs.Run

/-!
Messages as operations. What a message asks of the ledger, if it asks for anything, is one
operation, and the reply to the message is read off what the operation answers. So a run of
messages is a run of calls in which no pool is asked for.
-/

namespace LeaseBook

/-- An outcome that does what another one does, and says it in other terms, does so still when its
notes are put into words. -/
theorem Outcome.written_as {α β : Type} {o : Outcome α} {p : Outcome β} (f : α → β)
    (answer : p.answer = f o.answer)
    (notes : p.notes.all Note.isWritable = o.notes.all Note.isWritable)
    (ledger : p.ledger = o.ledger) (halted : p.halted = o.halted) :
    p.written.answer = o.written.answer.map f ∧ p.written.ledger = o.written.ledger := by
  unfold written
  rw [answer, notes, ledger, halted]
  split
  · exact ⟨rfl, rfl⟩
  · exact ⟨rfl, rfl⟩

theorem Outcome.noting_writable {α : Type} (o : Outcome α) {note : Note}
    (words : note.isWritable = true) :
    (o.noting note).notes.all Note.isWritable = o.notes.all Note.isWritable := by
  simp only [noting, List.all_append, List.all_cons, List.all_nil, words, Bool.and_true]

namespace ClientMessage

variable {m : ClientMessage} {op : Operation}

/-- What a message asks of the ledger, if it asks for anything. -/
def operation? (m : ClientMessage) : Option Operation :=
  match m.kind with
  | .discover => some (.offer m.discovery)
  | .request => some (.request m.demand)
  | .release => m.source.map (.release m.client)
  | .decline => m.requested.map .decline
  | _ => none

/-- What kind of message asks for what. -/
inductive Asking (m : ClientMessage) : Option Operation → Prop
  | discover (kind : m.kind = .discover) : Asking m (some (.offer m.discovery))
  | request (kind : m.kind = .request) : Asking m (some (.request m.demand))
  | release {a : Address} (kind : m.kind = .release) (source : m.source = some a) :
      Asking m (some (.release m.client a))
  | decline {a : Address} (kind : m.kind = .decline) (requested : m.requested = some a) :
      Asking m (some (.decline a))
  | nothing (unaddressed : m.kind = .release → m.source = none) : Asking m none

theorem asking (m : ClientMessage) : m.Asking m.operation? := by
  unfold operation?
  split
  · rename_i kind
    exact .discover kind
  · rename_i kind
    exact .request kind
  · rename_i kind
    cases source : m.source with
    | none => exact .nothing fun _ => source
    | some a => exact .release kind source
  · rename_i kind
    cases requested : m.requested with
    | none => exact .nothing fun other => nomatch kind.symm.trans other
    | some a => exact .decline kind requested
  · rename_i other _
    exact .nothing fun kind => absurd kind other

/-- The reply to a message whose operation is answered in some way. -/
def reply? (m : ClientMessage) : Answer → Option Reply
  | .lease lease => some (if m.kind = .discover then .offer lease else .ack lease)
  | .refused refusal =>
    if m.kind = .request ∧ m.requested.isSome = true then some (.nak refusal) else none
  | _ => none

theorem reply?_cases {answer : Answer} {reply : Reply} (replied : m.reply? answer = some reply) :
    (∃ lease, answer = .lease lease ∧ (reply = .offer lease ∨ reply = .ack lease)) ∨
      ∃ refusal, reply = .nak refusal := by
  cases answer with
  | lease lease =>
    simp only [reply?, Option.some.injEq] at replied
    split at replied
    · exact .inl ⟨lease, rfl, .inl replied.symm⟩
    · exact .inl ⟨lease, rfl, .inr replied.symm⟩
  | refused refusal =>
    simp only [reply?] at replied
    split at replied
    · exact .inr ⟨refusal, (Option.some.inj replied).symm⟩
    · cases replied
  | released found => cases replied
  | noted => cases replied
  | leases ls => cases replied
  | addresses as => cases replied
  | serving pool => cases replied

/-- An offer and a confirmation carry the lease that is answered. -/
theorem leased_of_reply? {answer : Answer} {reply : Reply} (replied : m.reply? answer = some reply)
    (kind : reply.kind = .offer ∨ reply.kind = .ack) :
    ∃ lease, answer = .lease lease ∧ reply.lease = some lease := by
  rcases reply?_cases replied with ⟨lease, rfl, rfl | rfl⟩ | ⟨refusal, rfl⟩
  · exact ⟨lease, rfl, rfl⟩
  · exact ⟨lease, rfl, rfl⟩
  · rcases kind with kind | kind
    · cases kind
    · cases kind

/-- A reply that carries a lease carries the one that is answered. -/
theorem answer_of_carried {answer : Answer} {reply : Reply} {lease : Lease}
    (replied : m.reply? answer = some reply) (carries : reply.lease = some lease) :
    answer = .lease lease := by
  rcases reply?_cases replied with ⟨other, rfl, rfl | rfl⟩ | ⟨refusal, rfl⟩
  · exact congrArg Answer.lease (Option.some.inj carries)
  · exact congrArg Answer.lease (Option.some.inj carries)
  · cases carries

/-- A client is confirmed a lease if its message is answered with it and is not a discovery. -/
theorem reply?_eq_ack {answer : Answer} {lease : Lease} :
    m.reply? answer = some (.ack lease) ↔ m.kind ≠ .discover ∧ answer = .lease lease := by
  cases answer with
  | lease other =>
    simp only [reply?, Option.some.injEq, Answer.lease.injEq]
    split
    · rename_i kind
      exact iff_of_false (fun same => nomatch congrArg Reply.kind same) (fun other => other.1 kind)
    · rename_i kind
      simp only [Reply.ack, Reply.mk.injEq, Option.some.injEq, true_and, and_true, ne_eq, kind,
        not_false_eq_true]
  | refused refusal =>
    refine iff_of_false (fun replied => ?_) (fun other => nomatch other.2)
    simp only [reply?] at replied
    split at replied
    · cases replied
    · cases replied
  | released found => exact iff_of_false nofun (fun other => nomatch other.2)
  | noted => exact iff_of_false nofun (fun other => nomatch other.2)
  | leases ls => exact iff_of_false nofun (fun other => nomatch other.2)
  | addresses as => exact iff_of_false nofun (fun other => nomatch other.2)
  | serving pool => exact iff_of_false nofun (fun other => nomatch other.2)

theorem handle_of_nothing (asks : m.operation? = none) (now : Int) (l : Ledger) :
    (m.handle now l).written.answer = .ok none ∧ (m.handle now l).written.ledger = l := by
  unfold operation? at asks
  unfold handle
  split
  · rename_i kind
    simp [kind] at asks
  · rename_i kind
    simp [kind] at asks
  · rename_i kind
    simp only [kind, Option.map_eq_none_iff] at asks
    simp only [release, asks]
    exact ⟨rfl, rfl⟩
  · rename_i kind
    simp only [kind, Option.map_eq_none_iff] at asks
    simp only [decline, asks]
    exact ⟨rfl, rfl⟩
  · exact ⟨rfl, rfl⟩

theorem discover_as (kind : m.kind = .discover) (now : Int) (l : Ledger) :
    (m.discover now l).written.answer =
        ((Operation.offer m.discovery).run now l).written.answer.map m.reply? ∧
      (m.discover now l).written.ledger =
        ((Operation.offer m.discovery).run now l).written.ledger := by
  unfold discover
  dsimp only
  cases answered : (l.offer now m.discovery).answer with
  | ok lease =>
    refine Outcome.written_as m.reply? ?_ rfl rfl rfl
    simp [Operation.run, answered, Answer.ofLease, reply?, kind]
  | error refusal =>
    refine Outcome.written_as m.reply? ?_ (Outcome.noting_writable _ rfl) rfl rfl
    simp [Operation.run, answered, Answer.ofLease, reply?, kind, Outcome.noting]

theorem request_as (kind : m.kind = .request) (now : Int) (l : Ledger) :
    (m.request now l).written.answer =
        ((Operation.request m.demand).run now l).written.answer.map m.reply? ∧
      (m.request now l).written.ledger =
        ((Operation.request m.demand).run now l).written.ledger := by
  unfold request
  dsimp only
  cases answered : (l.request now m.demand).answer with
  | ok lease =>
    refine Outcome.written_as m.reply? ?_ rfl rfl rfl
    simp [Operation.run, answered, Answer.ofLease, reply?, kind]
  | error refusal =>
    dsimp only
    split
    · rename_i asked
      refine Outcome.written_as m.reply? ?_ (Outcome.noting_writable _ rfl) rfl rfl
      simp [Operation.run, answered, Answer.ofLease, reply?, kind, asked, Outcome.noting]
    · rename_i unasked
      refine Outcome.written_as m.reply? ?_ (Outcome.noting_writable _ rfl) rfl rfl
      simp [Operation.run, answered, Answer.ofLease, reply?, kind, unasked, Outcome.noting]

theorem handle_of_operation (asks : m.operation? = some op) (now : Int) (l : Ledger) :
    (m.handle now l).written.answer = (op.run now l).written.answer.map m.reply? ∧
      (m.handle now l).written.ledger = (op.run now l).written.ledger := by
  have asking := m.asking
  rw [asks] at asking
  unfold handle
  cases asking with
  | discover kind =>
    rw [kind]
    exact discover_as kind now l
  | request kind =>
    rw [kind]
    exact request_as kind now l
  | release kind source =>
    simp only [kind, release, source]
    exact Outcome.written_as m.reply? rfl rfl rfl rfl
  | decline kind requested =>
    simp only [kind, decline, requested]
    exact Outcome.written_as m.reply? rfl rfl rfl rfl

theorem operation?_ne_reconfigure (asks : m.operation? = some op) (pool : Pool) :
    op ≠ .reconfigure pool := by
  rintro rfl
  have asking := m.asking
  rw [asks] at asking
  cases asking

end ClientMessage

def Value.ofAddress? : Option Address → Value
  | none => .null
  | some a => .address (.v4 a)

theorem Value.toAddress?_ofAddress? (a : Option Address) : (ofAddress? a).toAddress? = .ok a := by
  cases a with
  | none => rfl
  | some a => rfl

/-- Whatever asks for no pool can be asked for by a call. -/
theorem Operation.exists_call {op : Operation} (same : ∀ pool, op ≠ .reconfigure pool) :
    ∃ call : Call, call.operation = .ok op := by
  have hardware (h : Hardware) : (Value.identifier (.short h)).toHardware = .ok h := rfl
  cases op with
  | offer q =>
    refine ⟨.offer q.client.id (.identifier (.short q.client.hardware)) (.ofAddress? q.source)
      (.ofAddress? q.relay) (.ofAddress? q.requested) q.hostname, ?_⟩
    simp only [Call.operation, hardware, Value.toAddress?_ofAddress?]
    rfl
  | request q =>
    refine ⟨.request q.client.id (.identifier (.short q.client.hardware)) (.ofAddress? q.source)
      (.ofAddress? q.requested) q.serverChosen q.hostname, ?_⟩
    simp only [Call.operation, hardware, Value.toAddress?_ofAddress?]
    rfl
  | release c a => exact ⟨.release c.id (.identifier (.short c.hardware)) (.address (.v4 a)), rfl⟩
  | decline a => exact ⟨.decline (.address (.v4 a)), rfl⟩
  | committed => exact ⟨.committed, rfl⟩
  | declined => exact ⟨.declined, rfl⟩
  | reconfigure pool => exact absurd rfl (same pool)

/-- A message and the instant at which it arrives. -/
structure Delivery where
  now : Int
  message : ClientMessage

namespace Delivery

variable {d : Delivery} {op : Operation} {t : Turn}

def handle (d : Delivery) (l : Ledger) : Outcome (Except Fault (Option Reply)) :=
  (d.message.handle d.now l).written

theorem handle_of_nothing (asks : d.message.operation? = none) (l : Ledger) :
    (d.handle l).answer = .ok none ∧ (d.handle l).ledger = l :=
  ClientMessage.handle_of_nothing asks d.now l

theorem handle_of_operation (asks : d.message.operation? = some op) (l : Ledger) :
    (d.handle l).answer = (op.run d.now l).written.answer.map d.message.reply? ∧
      (d.handle l).ledger = (op.run d.now l).written.ledger :=
  ClientMessage.handle_of_operation asks d.now l

theorem answer_of_reply {l : Ledger} {reply : Option Reply}
    (asks : d.message.operation? = some op) (handled : (d.handle l).answer = .ok reply) :
    ∃ answer, (op.run d.now l).written.answer = .ok answer ∧
      d.message.reply? answer = reply := by
  rw [(handle_of_operation asks l).1] at handled
  cases answered : (op.run d.now l).written.answer with
  | error fault =>
    rw [answered] at handled
    cases handled
  | ok answer =>
    rw [answered] at handled
    exact ⟨answer, rfl, Except.ok.inj handled⟩

theorem fault_of_handle {l : Ledger} {fault : Fault}
    (failed : (d.handle l).answer = .error fault) : fault = .longNumber := by
  rcases Outcome.written_cases (d.message.handle d.now l) with ⟨_, ended, _⟩ | ⟨_, ended, _⟩
  · cases ended.symm.trans failed
  · exact (Except.error.inj (ended.symm.trans failed)).symm

/-- A message that asks for an operation, and a call that asks for it at the same instant. -/
structure Calls (d : Delivery) (op : Operation) (t : Turn) : Prop where
  asks : d.message.operation? = some op
  now : t.now = d.now
  read : t.call.operation = .ok op
  keeps : t.pool? = none
  answer : ∀ l, (d.handle l).answer = (t.run l).answer.map d.message.reply?
  ledger : ∀ l, (d.handle l).ledger = (t.run l).ledger

/-- A message changes nothing and is not replied to, or it does what a call does. -/
theorem idle_or_calls (d : Delivery) :
    (d.message.operation? = none ∧
      ∀ l, (d.handle l).answer = .ok none ∧ (d.handle l).ledger = l) ∨
    ∃ op t, d.Calls op t := by
  cases asks : d.message.operation? with
  | none => exact .inl ⟨rfl, handle_of_nothing asks⟩
  | some op =>
    have other := ClientMessage.operation?_ne_reconfigure asks
    obtain ⟨call, read⟩ := Operation.exists_call other
    have run (l : Ledger) : Turn.run ⟨d.now, call⟩ l = (op.run d.now l).written :=
      Ledger.run_of_read read l
    refine .inr ⟨op, ⟨d.now, call⟩, asks, rfl, read, ?_, fun l => ?_, fun l => ?_⟩
    · cases keeps : Turn.pool? ⟨d.now, call⟩ with
      | none => rfl
      | some pool =>
        have read' := read.symm.trans (Turn.pool?_eq_some.mp keeps)
        exact absurd (Except.ok.inj read') (other pool)
    · rw [run]
      exact (handle_of_operation asks l).1
    · rw [run]
      exact (handle_of_operation asks l).2

/-- Behind every reply there is a call that asks for no pool. -/
theorem turn_of_reply {l : Ledger} {reply : Reply}
    (replied : (d.handle l).answer = .ok (some reply)) :
    ∃ (t : Turn) (answer : Answer), t.pool? = none ∧ (t.run l).answer = .ok answer ∧
      d.message.reply? answer = some reply := by
  rcases d.idle_or_calls with ⟨_, idle⟩ | ⟨op, t, calls⟩
  · rw [(idle l).1] at replied
    cases replied
  · rw [calls.answer] at replied
    cases answered : (t.run l).answer with
    | error fault =>
      rw [answered] at replied
      cases replied
    | ok answer =>
      rw [answered] at replied
      exact ⟨t, answer, calls.keeps, answered, Except.ok.inj replied⟩

end Delivery

namespace Ledger

def handling (l : Ledger) : List Delivery → Ledger
  | [] => l
  | d :: rest => (d.handle l).ledger.handling rest

/-- Messages leave what calls leave that ask for no pool and are made at the same instants. -/
theorem handling_eq_after (l : Ledger) (ds : List Delivery) :
    ∃ turns : List Turn, (∀ t ∈ turns, t.pool? = none ∧ ∃ d ∈ ds, d.now = t.now) ∧
      l.handling ds = l.after turns := by
  induction ds generalizing l with
  | nil => exact ⟨[], nofun, rfl⟩
  | cons d rest ih =>
    obtain ⟨turns, made, later⟩ := ih (d.handle l).ledger
    have made' (t : Turn) (ht : t ∈ turns) :
        t.pool? = none ∧ ∃ e ∈ d :: rest, e.now = t.now :=
      (made t ht).imp_right fun ⟨e, he, same⟩ => ⟨e, List.mem_cons_of_mem d he, same⟩
    rcases d.idle_or_calls with ⟨_, idle⟩ | ⟨op, t, calls⟩
    · rw [(idle l).2] at later
      exact ⟨turns, made', by rw [handling, (idle l).2, later]⟩
    · rw [calls.ledger] at later
      have here : t.pool? = none ∧ ∃ e ∈ d :: rest, e.now = t.now :=
        ⟨calls.keeps, d, List.mem_cons_self, calls.now.symm⟩
      refine ⟨t :: turns, List.forall_mem_cons.mpr ⟨here, made'⟩, ?_⟩
      rw [handling, calls.ledger, later]
      rfl

end Ledger
end LeaseBook
