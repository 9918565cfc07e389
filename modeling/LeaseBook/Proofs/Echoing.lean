import LeaseBook.Proofs.Lending
import LeaseBook.Proofs.Recognizing
import LeaseBook.Proofs.Replaying

/-!
What is written of a lease, sent in as a request. The hardware address, the address and the
identifier come back as they were, and whoever asks in this way is confirmed the lease, since the
server takes it for a client that verifies what it had before. Only an identifier of no bytes is
taken for none, for its spelling is the empty text; and there are such identifiers, as blanks alone
spell one too.
-/

namespace LeaseBook

/-- The value of a field, or null. -/
def Value.part (name : String) : Value → Value
  | .object fields => (field? name fields).getD .null
  | _ => .null

theorem Lease.part_id (l : Lease) : l.toValue.part "client_id" =
    l.client.id.elim .null fun bytes => .text (Text.writeHex bytes) := by
  obtain ⟨⟨id, hardware⟩, address, expiration, hostname⟩ := l
  cases id with
  | none => rfl
  | some bytes => rfl

/-- The request for a lease that is made of what is written of it. -/
def Lease.echo (l : Lease) : Value :=
  .object [
    ("type", .text "request"),
    ("mac", l.toValue.part "hw_addr"),
    ("client_id", l.toValue.part "client_id"),
    ("requested", l.toValue.part "address")]

/-- The same message as it is read. -/
def Lease.asked (l : Lease) : ClientMessage where
  kind := .request
  client := ⟨l.client.id.filter fun bytes => !bytes.isEmpty, l.client.hardware⟩
  source := none
  relay := none
  requested := some l.address
  serverChosen := false
  hostname := .null

namespace ClientMessage

theorem optional_of_field {α : Type} {read : Value → Except Fault α} {name : String}
    {fields : List (RawText × Value)} {v : Value} {x : α}
    (there : Value.field? name fields = some v) (given : v.isTrue = true) (reads : read v = .ok x) :
    optional read name fields = .ok (some x) := by
  simp only [optional, there, given, if_true, reads]
  rfl

theorem ofValue_echo (l : Lease) : ofValue l.echo = .ok l.asked := by
  let written : Value := l.toValue.part "client_id"
  let fields : List (RawText × Value) := [("type", .text "request"),
    ("mac", .text l.client.hardware.text), ("client_id", written),
    ("requested", .text l.address.text)]
  have kind : MessageKind.ofValue (.text "request") = .ok .request := rfl
  have id : optional Value.toBytes "client_id" fields =
      .ok (l.client.id.filter fun bytes => !bytes.isEmpty) := by
    have there : Value.field? "client_id" fields = some written := rfl
    simp only [optional, there, written, l.part_id]
    cases l.client.id with
    | none => rfl
    | some bytes =>
      have given : (Value.text (Text.writeHex bytes)).isTrue = !bytes.isEmpty :=
        congrArg Bool.not (Text.writeHex_isEmpty bytes)
      simp only [Option.elim_some, given, Value.toBytes_text, Option.filter_some]
      split
      · rfl
      · rfl
  have requested : optional Value.toAddress "requested" fields = .ok (some l.address) :=
    optional_of_field rfl (congrArg Bool.not l.address.text_isEmpty) (Value.toAddress_text _)
  have source : optional Value.toAddress "src" fields = .ok none := rfl
  have relay : optional Value.toAddress "relay" fields = .ok none := rfl
  have typed : required "type" fields = .ok (.text "request") := rfl
  have mac : required "mac" fields = .ok (.text l.client.hardware.text) := rfl
  change ofFields fields = .ok l.asked
  unfold ofFields
  rw [typed, mac, id, requested, source, relay]
  simp only [bind, Except.bind, kind, Value.toHardware_text]
  rfl

theorem asked_client_iff (l : Lease) : l.asked.client = l.client ↔ l.client.id ≠ some [] := by
  obtain ⟨⟨id, hardware⟩, address, expiration, hostname⟩ := l
  cases id with
  | none => simp [Lease.asked]
  | some bytes =>
    cases bytes with
    | nil => simp [Lease.asked]
    | cons b rest => simp [Lease.asked]

end ClientMessage

namespace Ledger

variable {l : Ledger} {now : Int} {lease : Lease} {q : Demand} {e : Address × Lease}

/-- A client that confirms the address of its lease is granted it renewed, as far as what is swept
out and the new end can be put into words. -/
theorem request_of_holder (orderly : l.Orderly) (right : l.Bounded)
    (held : (lease.address, lease) ∈ l.committed.entries) (alive : now < lease.expiration)
    (its : lease.client.identity = q.client.identity) (confirms : q.Confirms lease.address) :
    ((Operation.request q).run now l).written.answer =
      if l.Clears now ∧
          Numeral.isWritable (max lease.expiration (now + l.pool.leaseTime)) = true then
        .ok (.lease (lease.renew (now + l.pool.leaseTime) q.hostname))
      else .error .longNumber := by
  obtain ⟨pool, shed⟩ := (sweep_leaves now l).1
  have stays := shed.spared _ held (Int.not_le.mpr alive)
  obtain ⟨note, m, plain, granted⟩ :=
    requestSwept_of_holder now (shed.orderly orderly) stays its confirms
  rw [pool] at granted
  have digits := Note.isWritable_of_numbers
    (n := .leaseCommitted (lease.renew (now + l.pool.leaseTime) q.hostname)) rfl
  rw [Lease.renew_expiration] at digits
  have words : ((Operation.request q).run now l).notes.all Note.isWritable = true ↔
      l.Clears now ∧
        Numeral.isWritable (max lease.expiration (now + l.pool.leaseTime)) = true := by
    rw [← sweep_writable_iff right]
    simp only [Operation.run, request, Ledger.swept, Outcome.map_notes, Outcome.andThen, granted,
      Outcome.plain_notes, List.all_append, List.all_cons, List.all_nil, plain, digits,
      Bool.true_and, Bool.and_true, Bool.and_eq_true]
  have answer : ((Operation.request q).run now l).answer =
      .lease (lease.renew (now + l.pool.leaseTime) q.hostname) := by
    simp only [Operation.run, request, Ledger.swept, Outcome.map_answer, Outcome.andThen, granted,
      Outcome.plain_answer]
    rfl
  rw [Outcome.written_answer, answer]
  exact if_congr words rfl rfl

/-- A request made of what is written of a lease is confirmed the lease while it stands, provided
that its identifier is not of no bytes, that the leases which have ended can be put into words, and
the new end too. -/
theorem echo_acknowledged_iff (orderly : l.Orderly) (right : l.Bounded)
    (entry : e ∈ l.committed.entries) (alive : now < e.2.expiration) :
    (∃ lease, (Delivery.handle ⟨now, e.2.asked⟩ l).answer = .ok (some (.ack lease)) ∧
        lease.address = e.2.address ∧ lease.client = e.2.client) ↔
      e.2.client.id ≠ some [] ∧ l.Clears now ∧
        Numeral.isWritable (max e.2.expiration (now + l.pool.leaseTime)) = true := by
  have held : (e.2.address, e.2) ∈ l.committed.entries := by
    rw [orderly.keyed e entry]
    exact entry
  have asks : (Delivery.mk now e.2.asked).message.operation? =
      some (.request e.2.asked.demand) := rfl
  have handled := (Delivery.handle_of_operation asks l).1
  by_cases own : e.2.asked.client = e.2.client
  · have its : e.2.client.identity = e.2.asked.demand.client.identity :=
      congrArg Client.identity own.symm
    have granted := request_of_holder orderly right held alive its (.inr ⟨rfl, rfl⟩)
    rw [handled, granted]
    rw [ClientMessage.asked_client_iff] at own
    constructor
    · rintro ⟨lease, answered, _, _⟩
      split at answered
      · rename_i words
        exact ⟨own, words⟩
      · cases answered
    · rintro ⟨_, words⟩
      rw [if_pos words]
      exact ⟨_, rfl, Lease.renew_address _ _ _, Lease.renew_client _ _ _⟩
  · -- whoever has lost its identifier is another client
    refine iff_of_false ?_ fun all => own ((ClientMessage.asked_client_iff _).mpr all.1)
    rintro ⟨lease, answered, _, same⟩
    have asker := client_of_ack orderly answered
    rw [same] at asker
    have empty : e.2.client.id = some [] := by
      rw [ClientMessage.asked_client_iff] at own
      exact Decidable.not_not.mp own
    simp [Client.identity, Lease.asked, empty, Option.filter] at asker

/-- What is written of a lease that stands can always be read as a request, for the hardware address
and the address of the lease and for its identifier, unless that is of no bytes. The request is
confirmed the lease unless so, or unless what has ended or the new end cannot be put into words. -/
theorem written_lease_confirmed (pool : Pool) (ds : List Delivery) {now : Int}
    {e : Address × Lease} (entry : e ∈ ((opening pool).ledger.handling ds).committed.entries)
    (alive : now < e.2.expiration) :
    let l := (opening pool).ledger.handling ds
    ∃ m, ClientMessage.ofValue e.2.echo = .ok m ∧ m.kind = .request ∧
      m.client.hardware = e.2.client.hardware ∧ m.requested = some e.2.address ∧
      (m.client.id = e.2.client.id ↔ e.2.client.id ≠ some []) ∧
      ((∃ lease, (Delivery.handle ⟨now, m⟩ l).answer = .ok (some (.ack lease)) ∧
          lease.address = e.2.address ∧ lease.client = e.2.client) ↔
        e.2.client.id ≠ some [] ∧ l.Clears now ∧
          Numeral.isWritable (max e.2.expiration (now + pool.leaseTime)) = true) := by
  intro l
  obtain ⟨orderly, right, _, _, stays⟩ := sound_handling pool ds
  have confirmed := echo_acknowledged_iff orderly right entry alive
  rw [stays] at confirmed
  have named : e.2.asked.client.id = e.2.client.id ↔ e.2.client.id ≠ some [] := by
    rw [← ClientMessage.asked_client_iff]
    constructor
    · intro same
      exact congrArg (Client.mk · e.2.client.hardware) same
    · intro same
      exact congrArg Client.id same
  exact ⟨e.2.asked, ClientMessage.ofValue_echo e.2, rfl, rfl, rfl, named, confirmed⟩

/-- The lease behind a request that is read from loose spellings. -/
theorem loose_lease_confirmed :
    let sent : Value := .object [("type", .int 3), ("mac", .text "2-0-0-0-0-A"),
      ("client_id", .text " 01 Ff"), ("requested", .int 0xC0A8010A), ("server_id", .bool true)]
    let c : Client := ⟨some [0x01, 0xFF], ⟨0x02000000000A, by decide⟩⟩
    let m : ClientMessage := ⟨.request, c, none, none, some (.home 10), true, .null⟩
    let l := (opening (.home 1000)).ledger.handling [⟨0, m⟩]
    ClientMessage.ofValue sent = .ok m ∧ ∃ e ∈ l.committed.entries, e.2.client = c ∧
      ∃ read lease, ClientMessage.ofValue e.2.echo = .ok read ∧ read.client.id = c.id ∧
        (Delivery.handle ⟨500, read⟩ l).answer = .ok (some (.ack lease)) ∧
        lease.address = e.2.address ∧ lease.client = c := by
  intro sent c m l
  have kept : l.committed.entries.map (fun e => (e.2.client, e.2.expiration)) = [(c, 1000)] := by
    decide +kernel
  obtain ⟨e, only, same⟩ := List.map_eq_singleton_iff.mp kept
  obtain ⟨its, ends⟩ := Prod.mk.inj same
  have entry : e ∈ l.committed.entries := only ▸ List.mem_singleton_self e
  have alive : 500 < e.2.expiration := by omega
  have named : e.2.client.id ≠ some [] := by
    rw [its]
    decide
  have words : Numeral.isWritable (max e.2.expiration (500 + Pool.leaseTime (.home 1000))) =
      true := by
    rw [ends]
    decide +kernel
  obtain ⟨read, reads, _, _, _, back, confirmed⟩ :=
    written_lease_confirmed (.home 1000) [⟨0, m⟩] entry alive
  obtain ⟨lease, answered, here, whose⟩ := confirmed.mpr ⟨named, by decide +kernel, words⟩
  exact ⟨rfl, e, entry, its, read, lease, reads, its ▸ back.mpr named, answered, here,
    its ▸ whose⟩

/-- Blanks alone spell an identifier of no bytes. The lease of such a client is refused to whoever
asks for it by what is written of it. -/
theorem blank_identifier_refused :
    let sent : Value := .object [("type", .text "request"), ("mac", .text "02:00:00:00:00:0a"),
      ("client_id", .text " "), ("requested", .text "192.168.1.10"), ("server_id", .bool true)]
    let c : Client := ⟨some [], ⟨0x02000000000A, by decide⟩⟩
    let m : ClientMessage := ⟨.request, c, none, none, some (.home 10), true, .null⟩
    let l := (opening (.home 1000)).ledger.handling [⟨0, m⟩]
    ClientMessage.ofValue sent = .ok m ∧ ∃ e ∈ l.committed.entries, e.2.client = c ∧
      0 < e.2.expiration ∧ ∃ read, ClientMessage.ofValue e.2.echo = .ok read ∧
        read.client.id = none ∧
        (Delivery.handle ⟨0, read⟩ l).answer.toOption.join.map (fun r => (r.kind, r.reason)) =
          some (.nak, some Refusal.inUse.message) := by
  intro sent c m l
  have kept : l.committed.entries.map (fun e => (e.2.client, e.2.address, e.2.expiration)) =
      [(c, .home 10, 1000)] := by
    decide +kernel
  obtain ⟨e, only, same⟩ := List.map_eq_singleton_iff.mp kept
  obtain ⟨its, same⟩ := Prod.mk.inj same
  obtain ⟨here, ends⟩ := Prod.mk.inj same
  have entry : e ∈ l.committed.entries := only ▸ List.mem_singleton_self e
  have asked : e.2.asked =
      ⟨.request, ⟨none, c.hardware⟩, none, none, some (.home 10), false, .null⟩ := by
    simp only [Lease.asked, its, here]
    rfl
  refine ⟨rfl, e, entry, its, by omega, e.2.asked, ClientMessage.ofValue_echo e.2, ?_, ?_⟩
  · rw [asked]
  · rw [asked]
    decide +kernel

end Ledger
end LeaseBook
