import LeaseBook.Proofs.Deciding
import LeaseBook.Proofs.Lending

/-!
The address 0.0.0.0 stands for no address. It makes no difference whether a message comes from there
or does not say where it comes from, nor whether it was passed on from there or not passed on at all,
not even where the subnet has that address. Offers leave it out of account. Requests and releases do
not, but nobody ever has it, since it ends in an octet that is passed over: so both find nothing, and
a client that asks for no other address is not told why.
-/

namespace LeaseBook

/-- An address that is given, where 0.0.0.0 counts as none. -/
def Address.specified? (given : Option Address) : Option Address :=
  given.filter fun a => a != .unspecified

theorem Address.specified?_cases (given : Option Address) :
    specified? given = given ∨ given = some .unspecified ∧ specified? given = none := by
  cases given with
  | none => exact .inl rfl
  | some a =>
    by_cases unspecified : a = .unspecified
    · subst unspecified
      exact .inr ⟨rfl, rfl⟩
    · exact .inl (Option.filter_some_pos (bne_iff_ne.mpr unspecified))

def Discovery.specified (q : Discovery) : Discovery :=
  { q with source := Address.specified? q.source, relay := Address.specified? q.relay }

/-- A message that says where it comes from only if that is not 0.0.0.0. -/
def ClientMessage.specified (m : ClientMessage) : ClientMessage :=
  { m with source := Address.specified? m.source, relay := Address.specified? m.relay }

def Delivery.specified (d : Delivery) : Delivery := { d with message := d.message.specified }

theorem Pool.not_assigns_unspecified (p : Pool) : ¬ p.Assigns .unspecified :=
  fun assigns => assigns.lends.notZero rfl

namespace Ledger

variable {l : Ledger} {now : Int} {q : Demand} {t : Turn}

/-- Whether nobody has 0.0.0.0. -/
def Specified (l : Ledger) : Prop := ∀ e ∈ l.committed.entries, e.1 ≠ .unspecified

theorem specified_turn (orderly : l.Orderly) (specified : l.Specified) :
    (t.run l).ledger.Specified := by
  refine every_turn orderly specified fun q lease m enters here => ?_
  have nowhere : lease.address = .unspecified := here
  rcases enters.fits.assigned with new | old
  · rw [nowhere] at new
    exact m.pool.not_assigns_unspecified new
  · obtain ⟨before, entry⟩ := Roster.mem_addresses.mp old
    exact specified _ (enters.fewer.mem entry) here

theorem specified_after (orderly : l.Orderly) (specified : l.Specified) (turns : List Turn) :
    (l.after turns).Specified :=
  after_induction (Q := fun _ => True)
    (fun _ _ orderly specified _ => specified_turn orderly specified) orderly specified
    fun _ _ => trivial

/- Discoveries. -/

theorem isOutside_specified (l : Ledger) (given : Option Address) :
    l.isOutside (Address.specified? given) = l.isOutside given := by
  rcases Address.specified?_cases given with same | ⟨rfl, none⟩
  · rw [same]
  · rfl

theorem offer_specified (now : Int) (q : Discovery) (l : Ledger) :
    l.offer now q.specified = l.offer now q := by
  have swept (m : Ledger) : m.offerSwept now q.specified = m.offerSwept now q := by
    simp only [offerSwept, offerNew, Discovery.specified, isOutside_specified]
  unfold offer Ledger.swept
  simp only [Outcome.andThen, swept]

/- Requests and releases. -/

/-- A client that asks for an address is answered the same wherever it comes from. -/
theorem request_of_asked {a : Address} (asked : q.requested = some a) (source : Option Address)
    (now : Int) (l : Ledger) : l.request now { q with source := source } = l.request now q := by
  have swept (m : Ledger) :
      m.requestSwept now { q with source := source } = m.requestSwept now q := by
    simp only [requestSwept, confirm, asked]
  unfold request Ledger.swept
  simp only [Outcome.andThen, swept]

/-- A client that asks for no address and does not say where it comes from is refused, and so is one
that says 0.0.0.0. -/
theorem refused_of_unspecified (orderly : l.Orderly) (specified : l.Specified)
    (silent : q.requested = none) (unsaid : Address.specified? q.source = none) :
    ∃ refusal, (l.requestSwept now q).answer = .error refusal := by
  have nowhere {a : Address} (confirms : q.Confirms a) : a = .unspecified := by
    rcases confirms with ⟨_, speaks⟩ | ⟨asked, _⟩
    · rw [speaks, Address.specified?, Option.filter_some] at unsaid
      split at unsaid
      · cases unsaid
      · rename_i unspecified
        exact Decidable.not_not.mp (mt bne_iff_ne.mpr unspecified)
    · cases silent.symm.trans asked
  cases answered : (l.requestSwept now q).answer with
  | error refusal => exact ⟨refusal, rfl⟩
  | ok lease =>
    have due := (requestSwept_granted_iff orderly).mp answered
    cases due with
    | selected takes free => cases silent.symm.trans takes.1
    | renewed confirms entry its => exact absurd (nowhere confirms) (specified _ entry)
    | made confirms assigns free =>
      rw [nowhere confirms] at assigns
      exact absurd assigns l.pool.not_assigns_unspecified

/-- A request that is refused does what a sweep does, and fails where that fails. -/
theorem request_as_sweep (orderly : l.Orderly) {refusal : Refusal}
    (refused : ((l.sweep now).ledger.requestSwept now q).answer = .error refusal) :
    let o := ((Operation.request q).run now l).written
    (o.answer = (l.sweep now).written.answer.map fun _ => .refused refusal) ∧
      o.ledger = (l.sweep now).written.ledger := by
  intro o
  have swept : (l.sweep now).ledger.Orderly := orderly_sweep orderly now
  have left := requestSwept_refused swept refused
  -- what a refusal says can always be written, so the request fails just where the sweep does
  have notes : ((Operation.request q).run now l).notes.all Note.isWritable =
      (l.sweep now).notes.all Note.isWritable := by
    simp only [Operation.run, request, Ledger.swept, Outcome.map_notes, Outcome.andThen,
      List.all_append, requestSwept_refused_notes refused, Bool.and_true]
  have halted : ((Operation.request q).run now l).halted =
      if (l.sweep now).notes.all Note.isWritable then (requestSwept now q _).halted
      else (l.sweep now).halted := rfl
  rcases Outcome.written_cases ((Operation.request q).run now l) with
    ⟨all, answered, ends⟩ | ⟨short, failed, ends⟩
  · rw [notes] at all
    have through : (l.sweep now).written = .plain (.ok ()) (l.sweep now).ledger _ := if_pos all
    rw [through]
    refine ⟨answered.trans ?_, ends.trans left⟩
    exact congrArg Except.ok (congrArg Answer.ofLease refused)
  · rw [notes] at short
    have cut : (l.sweep now).written = .plain (.error .longNumber) (l.sweep now).halted _ :=
      if_neg (Bool.eq_false_iff.mp short)
    rw [halted, if_neg (Bool.eq_false_iff.mp short)] at ends
    rw [cut]
    exact ⟨failed, ends⟩

end Ledger

namespace Delivery

variable {d : Delivery} {l : Ledger}

/-- A request that asks for no address and comes from nowhere is not replied to, and does what a
sweep does. -/
theorem handle_of_unspecified (orderly : l.Orderly) (specified : l.Specified)
    (kind : d.message.kind = .request) (silent : d.message.requested = none)
    (unsaid : Address.specified? d.message.source = none) :
    (d.handle l).answer = (l.sweep d.now).written.answer.map (fun _ => none) ∧
      (d.handle l).ledger = (l.sweep d.now).written.ledger := by
  have asks : d.message.operation? = some (.request d.message.demand) := by
    simp only [ClientMessage.operation?, kind]
  have shed := (Ledger.sweep_leaves d.now l).1.2
  have still : (l.sweep d.now).ledger.Specified :=
    fun e he => specified e (shed.committed.mem he)
  obtain ⟨refusal, refused⟩ : ∃ refusal,
      ((l.sweep d.now).ledger.requestSwept d.now d.message.demand).answer = .error refusal :=
    Ledger.refused_of_unspecified (shed.orderly orderly) still silent unsaid
  obtain ⟨answered, left⟩ := Ledger.request_as_sweep orderly refused
  obtain ⟨replied, behind⟩ := handle_of_operation asks l
  rw [replied, behind, answered, left]
  refine ⟨?_, rfl⟩
  cases (l.sweep d.now).written.answer with
  | error fault => rfl
  | ok _ =>
    have unheard : d.message.reply? (.refused refusal) = none := by
      simp only [ClientMessage.reply?, silent, Option.isSome_none, Bool.false_eq_true, and_false,
        if_false]
    exact congrArg Except.ok unheard

theorem release_of_unspecified (orderly : l.Orderly) (specified : l.Specified)
    (kind : d.message.kind = .release) (unsaid : Address.specified? d.message.source = none) :
    (d.handle l).answer = .ok none ∧ (d.handle l).ledger = l := by
  rcases Address.specified?_cases d.message.source with same | ⟨source, _⟩
  · have absent : d.message.source = none := same.symm.trans unsaid
    have asks : d.message.operation? = none := by
      simp only [ClientMessage.operation?, kind, absent, Option.map_none]
    exact handle_of_nothing asks l
  · have asks : d.message.operation? = some (.release d.message.client .unspecified) := by
      simp only [ClientMessage.operation?, kind, source, Option.map_some]
    obtain ⟨replied, behind⟩ := handle_of_operation asks l
    rw [replied, behind]
    rcases Ledger.release_cases orderly d.message.client .unspecified with
      ⟨lease, entry, _, _⟩ | ⟨_, ignored⟩
    · exact absurd rfl (specified _ entry)
    · rw [Operation.run, ignored]
      exact ⟨rfl, rfl⟩

end Delivery

namespace ClientMessage

variable {m : ClientMessage} {l : Ledger}

theorem discover_specified (m : ClientMessage) (now : Int) (l : Ledger) :
    m.specified.discover now l = m.discover now l := by
  have asked : l.offer now m.specified.discovery = l.offer now m.discovery :=
    Ledger.offer_specified now m.discovery l
  unfold discover
  rw [asked]
  rfl

theorem request_specified (heard : m.requested.isSome = true ∨
    Address.specified? m.source = m.source) (now : Int) (l : Ledger) :
    m.specified.request now l = m.request now l := by
  have asked : l.request now m.specified.demand = l.request now m.demand := by
    rcases heard with asks | same
    · obtain ⟨a, asks⟩ := Option.isSome_iff_exists.mp asks
      exact Ledger.request_of_asked (q := m.demand) asks _ now l
    · simp only [demand, specified, same]
  unfold request
  rw [asked]
  rfl

/-- A message says enough if it needs no address to come from or does not come from 0.0.0.0. -/
theorem handle_specified (enough : Address.specified? m.source = m.source ∨
      m.kind ≠ .release ∧ (m.kind = .request → m.requested.isSome = true)) (now : Int)
    (l : Ledger) : m.specified.handle now l = m.handle now l := by
  have same : m.specified.kind = m.kind := rfl
  unfold handle
  rw [same]
  cases kind : m.kind with
  | discover => exact discover_specified m now l
  | request => exact request_specified (enough.symm.imp_left fun both => both.2 kind) now l
  | release =>
    rcases enough with same | ⟨other, _⟩
    · simp only [release, specified, same]
    · exact absurd kind other
  | decline => rfl
  | offer => rfl
  | ack => rfl
  | nak => rfl
  | inform => rfl

end ClientMessage

namespace Delivery

variable {d : Delivery} {l : Ledger}

/-- It makes no difference to a message whether it says that it comes from 0.0.0.0, or was passed on
from there. -/
theorem handle_specified (orderly : l.Orderly) (specified : l.Specified) (d : Delivery) :
    (d.specified.handle l).answer = (d.handle l).answer ∧
      (d.specified.handle l).ledger = (d.handle l).ledger := by
  rcases Address.specified?_cases d.message.source with same | ⟨source, unsaid⟩
  · have handled : d.specified.handle l = d.handle l :=
      congrArg Outcome.written (ClientMessage.handle_specified (.inl same) d.now l)
    rw [handled]
    exact ⟨rfl, rfl⟩
  have unsaid' : Address.specified? d.specified.message.source = none := by
    change Address.specified? (Address.specified? d.message.source) = none
    rw [unsaid]
    rfl
  by_cases release : d.message.kind = .release
  · obtain ⟨answered, left⟩ := release_of_unspecified orderly specified release unsaid
    obtain ⟨answered', left'⟩ :=
      release_of_unspecified (d := d.specified) orderly specified release unsaid'
    rw [answered, left, answered', left']
    exact ⟨rfl, rfl⟩
  by_cases silent : d.message.kind = .request ∧ d.message.requested = none
  · obtain ⟨request, silent⟩ := silent
    obtain ⟨answered, left⟩ := handle_of_unspecified orderly specified request silent unsaid
    obtain ⟨answered', left'⟩ :=
      handle_of_unspecified (d := d.specified) orderly specified request silent unsaid'
    rw [answered, left, answered', left']
    exact ⟨rfl, rfl⟩
  · have enough : d.message.kind ≠ .release ∧
        (d.message.kind = .request → d.message.requested.isSome = true) :=
      ⟨release, fun request =>
        Option.isSome_iff_ne_none.mpr fun none => silent ⟨request, none⟩⟩
    have handled : d.specified.handle l = d.handle l :=
      congrArg Outcome.written (ClientMessage.handle_specified (.inr enough) d.now l)
    rw [handled]
    exact ⟨rfl, rfl⟩

/-- Messages that differ only in that are handled alike. -/
theorem handle_alike (orderly : l.Orderly) (specified : l.Specified) {d e : Delivery}
    (same : d.specified = e.specified) :
    (d.handle l).answer = (e.handle l).answer ∧ (d.handle l).ledger = (e.handle l).ledger := by
  obtain ⟨answer, ledger⟩ := handle_specified orderly specified d
  obtain ⟨answer', ledger'⟩ := handle_specified orderly specified e
  rw [← answer, ← ledger, same]
  exact ⟨answer', ledger'⟩

end Delivery

namespace Ledger

/-- Whatever calls have been made, a message that comes from 0.0.0.0 is replied to as one that does
not say where it comes from, and leaves the same behind; and so is one that was passed on from
0.0.0.0 as one that was not passed on. -/
theorem unspecified_as_absent (pool : Pool) (turns : List Turn) (now : Int) (m : ClientMessage) :
    let l := (opening pool).ledger.after turns
    let here : Delivery := ⟨now, { m with source := some .unspecified }⟩
    let absent : Delivery := ⟨now, { m with source := none }⟩
    let relayed : Delivery := ⟨now, { m with relay := some .unspecified }⟩
    let direct : Delivery := ⟨now, { m with relay := none }⟩
    ((here.handle l).answer = (absent.handle l).answer ∧
      (here.handle l).ledger = (absent.handle l).ledger) ∧
    (relayed.handle l).answer = (direct.handle l).answer ∧
      (relayed.handle l).ledger = (direct.handle l).ledger := by
  intro l here absent relayed direct
  have orderly : l.Orderly := orderly_after (orderly_fresh pool) turns
  have specified : l.Specified := specified_after (orderly_fresh pool) nofun turns
  exact ⟨Delivery.handle_alike orderly specified rfl,
    Delivery.handle_alike orderly specified rfl⟩

end Ledger
end LeaseBook
