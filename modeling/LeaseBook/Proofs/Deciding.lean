import LeaseBook.Proofs.Commuting

/-!
When a request is granted, and what it leaves. A client that takes up an offer needs an address that
the pool has to give and that no other client has. One that confirms an address needs its own lease
there; if it has none anywhere, it needs an address that the pool has to give and that nobody has.
All that counts are the leases that have not ended. A granted request leaves them with the new lease
in the place of its client's old one, and a refused request leaves them as they are.
-/

namespace LeaseBook

/-- The lease until an instant, or as it is if it lasts longer anyway. A host name that comes with it
is taken over only along with a later end. -/
def Lease.prolonged (l : Lease) (due : Int) (hostname : Value) : Lease :=
  { l with
    expiration := max l.expiration due
    hostname :=
      if l.expiration < due ∧ hostname.isNull = false then hostname else l.hostname }

theorem Lease.renew_eq_prolonged (l : Lease) (due : Int) (hostname : Value) :
    l.renew due hostname = l.prolonged due hostname := by
  unfold renew extended? prolonged
  split
  · rename_i late
    rw [if_neg fun later => Int.not_lt.mpr late later.1, Int.max_eq_left late]
    rfl
  · rename_i early
    have later : l.expiration < due := Int.not_le.mp early
    rw [Int.max_eq_right (Int.le_of_lt later)]
    cases given : hostname.isNull with
    | true => simp
    | false => simp [later]

namespace Pool

/-- Whether a client can take up an offer of an address next to the leases in force. -/
def Selectable (p : Pool) (held : Roster Lease) (i : Identity) (a : Address) : Prop :=
  p.Assigns a ∧ ∀ e ∈ held.entries, e.1 = a → e.2.client.identity = i

/-- Whether a client can have an address confirmed next to the leases in force: it has it, or it has
none and the address is free. -/
def Confirmable (p : Pool) (held : Roster Lease) (i : Identity) (a : Address) : Prop :=
  (∃ e ∈ held.entries, e.1 = a ∧ e.2.client.identity = i) ∨
    p.Assigns a ∧ ∀ e ∈ held.entries, e.1 ≠ a ∧ e.2.client.identity ≠ i

instance (p : Pool) (held : Roster Lease) (i : Identity) (a : Address) :
    Decidable (p.Selectable held i a) :=
  inferInstanceAs (Decidable (_ ∧ ∀ e ∈ held.entries, _ → _))

end Pool

namespace Demand

variable {q : Demand} {a b : Address} {p : Pool} {held : Roster Lease} {now : Int}

/-- The lease that a request is to be answered with next to the leases in force. -/
inductive Due (q : Demand) (now : Int) (p : Pool) (held : Roster Lease) : Lease → Prop
  | selected {a : Address} (takes : q.TakesUp a)
      (free : p.Selectable held q.client.identity a) :
      Due q now p held ⟨q.client, a, now + p.leaseTime, q.hostname⟩
  | renewed {e : Address × Lease} (confirms : q.Confirms e.1) (entry : e ∈ held.entries)
      (its : e.2.client.identity = q.client.identity) :
      Due q now p held (e.2.prolonged (now + p.leaseTime) q.hostname)
  | made {a : Address} (confirms : q.Confirms a) (assigns : p.Assigns a)
      (free : ∀ e ∈ held.entries, e.1 ≠ a ∧ e.2.client.identity ≠ q.client.identity) :
      Due q now p held ⟨q.client, a, now + p.leaseTime, q.hostname⟩

/-- A request takes an offer up, or it confirms an address, or it does not say which address. -/
theorem takesUp_or_confirms (q : Demand) :
    (∃ a, q.TakesUp a) ∨ (∃ a, q.Confirms a) ∨ q.requested = none ∧ q.source = none := by
  cases asked : q.requested with
  | some a =>
    cases chosen : q.serverChosen with
    | true => exact .inl ⟨a, asked, chosen⟩
    | false => exact .inr (.inl ⟨a, .inr ⟨asked, chosen⟩⟩)
  | none =>
    cases speaks : q.source with
    | some a => exact .inr (.inl ⟨a, .inl ⟨asked, speaks⟩⟩)
    | none => exact .inr (.inr ⟨rfl, rfl⟩)

theorem TakesUp.unique (first : q.TakesUp a) (second : q.TakesUp b) : a = b :=
  Option.some.inj (first.1.symm.trans second.1)

theorem Confirms.unique (first : q.Confirms a) (second : q.Confirms b) : a = b := by
  rcases first with ⟨silent, speaks⟩ | ⟨asked, _⟩
  · rcases second with ⟨_, same⟩ | ⟨asked, _⟩
    · exact Option.some.inj (speaks.symm.trans same)
    · cases silent.symm.trans asked
  · rcases second with ⟨silent, _⟩ | ⟨same, _⟩
    · cases silent.symm.trans asked
    · exact Option.some.inj (asked.symm.trans same)

theorem TakesUp.not_confirms (takes : q.TakesUp a) : ¬ q.Confirms b := by
  rintro (⟨silent, _⟩ | ⟨_, unchosen⟩)
  · cases silent.symm.trans takes.1
  · cases unchosen.symm.trans takes.2

theorem due_iff_selectable (takes : q.TakesUp a) :
    (∃ lease, q.Due now p held lease) ↔ p.Selectable held q.client.identity a := by
  constructor
  · rintro ⟨lease, due⟩
    cases due with
    | selected takes' free => exact takes.unique takes' ▸ free
    | renewed confirms _ _ => exact absurd confirms takes.not_confirms
    | made confirms _ _ => exact absurd confirms takes.not_confirms
  · intro free
    exact ⟨_, .selected takes free⟩

theorem due_iff_confirmable (confirms : q.Confirms a) :
    (∃ lease, q.Due now p held lease) ↔ p.Confirmable held q.client.identity a := by
  constructor
  · rintro ⟨lease, due⟩
    cases due with
    | selected takes _ => exact absurd confirms takes.not_confirms
    | renewed confirms' entry its => exact .inl ⟨_, entry, confirms'.unique confirms, its⟩
    | made confirms' assigns free => exact confirms.unique confirms' ▸ .inr ⟨assigns, free⟩
  · rintro (⟨e, entry, rfl, its⟩ | ⟨assigns, free⟩)
    · exact ⟨_, .renewed confirms entry its⟩
    · exact ⟨_, .made confirms assigns free⟩

theorem not_due_of_silent (silent : q.requested = none) (speechless : q.source = none)
    (lease : Lease) : ¬ q.Due now p held lease := by
  have never (b : Address) : ¬ q.Confirms b := by
    rintro (⟨_, speaks⟩ | ⟨asked, _⟩)
    · cases speechless.symm.trans speaks
    · cases silent.symm.trans asked
  intro due
  cases due with
  | selected takes _ => cases silent.symm.trans takes.1
  | renewed confirms _ _ => exact never _ confirms
  | made confirms _ _ => exact never _ confirms

theorem note_of_plan {own dropping : Option Lease} {note : Note}
    (h : q.plan own = .ok (a, dropping, note)) : note.isWritable = true := by
  unfold plan at h
  split at h
  · split at h
    · cases h
      rfl
    · split at h
      · cases h
      · cases h
        rfl
  · split at h
    · cases h
    · split at h
      · cases h
      · cases h
        rfl

theorem plan_refused {own : Option Lease} {refusal : Refusal} (h : q.plan own = .error refusal) :
    refusal ≠ .exhausted := by
  unfold plan at h
  split at h
  · split at h
    · cases h
    · split at h
      · cases h
        decide
      · cases h
  · split at h
    · cases h
      decide
    · split at h
      · cases h
        decide
      · cases h

end Demand

namespace Ledger

variable {l m : Ledger} {now : Int} {a : Address} {c : Client} {lease : Lease} {q : Demand}
  {refusal : Refusal} {t : Turn}

/-- The leases that have not ended. -/
def live (now : Int) (l : Ledger) : Roster Lease :=
  l.committed.filter fun _ lease => now < lease.expiration

theorem Cleared.committed_eq_live (cleared : Cleared now l m) : m.committed = l.live now := by
  rw [cleared.committed, live]
  congr 1
  funext _ lease
  exact Bool.eq_iff_iff.mpr (keepsLease_iff.trans decide_eq_true_iff.symm)

/- The answer from a swept ledger. -/

theorem grant_refused {dropping : Option Lease} {hostname : Value}
    (h : l.grant now c a hostname dropping = .error refusal) : refusal ≠ .exhausted := by
  simp only [grant] at h
  split at h
  · split at h
    · cases h
    · cases h
      decide
  · split at h
    · cases h
    · cases h
      decide

/-- Only an offer is refused for want of an address. -/
theorem requestSwept_refusal_ne (h : (l.requestSwept now q).answer = .error refusal) :
    refusal ≠ .exhausted := by
  rw [requestSwept_eq] at h
  split at h
  · rename_i planned
    cases h
    exact Demand.plan_refused planned
  · exact grant_refused ((confirm_answer ..).symm.trans h)

theorem grant_of_not_openTo (orderly : l.Orderly) (taken : ¬ l.OpenTo c.identity a) (now : Int)
    (hostname : Value) : l.grant now c a hostname (l.leaseOf c) = .error .inUse := by
  unfold OpenTo at taken
  push Not at taken
  obtain ⟨⟨b, current⟩, entry, rfl, foreign⟩ := taken
  have found := (Roster.find?_eq_some_iff orderly.distinct).mpr entry
  -- the lease that is dropped is another one, for it stands elsewhere
  have apart : (l.leaseOf c).map Lease.address ≠ some current.address := by
    intro same
    obtain ⟨own, has, here⟩ := Option.map_eq_some_iff.mp same
    obtain ⟨mine, its⟩ := orderly.mem_of_leaseOf has
    cases Roster.entry_unique orderly.distinct mine entry (here.trans (orderly.keyed _ entry))
    exact foreign its
  have held : l.holder? b (l.leaseOf c) = some current := by
    simp only [holder?, found, Option.filter_some, bne_iff_ne, ne_eq, apart, not_false_eq_true,
      if_true]
  have others : current.isOf c = false :=
    Bool.eq_false_iff.mpr (mt (current.isOf_iff_identity c).mp foreign)
  simp only [grant, held, others, Bool.false_eq_true, if_false]

theorem requestSwept_of_confirms (confirms : q.Confirms a) (now : Int)
    (here : isElsewhere (l.leaseOf q.client) a = false) :
    (l.requestSwept now q).answer = l.grant now q.client a q.hostname none := by
  unfold requestSwept
  rcases confirms with ⟨silent, speaks⟩ | ⟨asked, unchosen⟩
  · simp only [silent, speaks, here, Bool.false_eq_true, if_false, confirm_answer]
  · simp only [asked, unchosen, here, Bool.false_eq_true, if_false, confirm_answer]

theorem here_of_confirmed (confirms : q.Confirms a)
    (granted : (l.requestSwept now q).answer = .ok lease) :
    isElsewhere (l.leaseOf q.client) a = false := by
  refine Bool.eq_false_iff.mpr fun away => ?_
  unfold requestSwept at granted
  rcases confirms with ⟨silent, speaks⟩ | ⟨asked, unchosen⟩
  · simp only [silent, speaks, away, if_true] at granted
    cases granted
  · simp only [asked, unchosen, away, Bool.false_eq_true, if_false, if_true] at granted
    cases granted

theorem due_of_confirmed (orderly : l.Orderly) (confirms : q.Confirms a)
    (granted : (l.requestSwept now q).answer = .ok lease) :
    q.Due now l.pool l.committed lease := by
  have here := here_of_confirmed confirms granted
  rw [requestSwept_of_confirms confirms now here] at granted
  have fits : Fits now q.client lease l := fits_of_grant orderly here granted
  have stands : lease.address = a := address_of_grant orderly granted
  -- somebody has the address, and then it is the client itself, or nobody has it
  simp only [grant] at granted
  split at granted
  · rename_i current held
    have entry := (holder?_eq_some held).1
    split at granted
    · rename_i mine
      cases granted
      rw [Lease.renew_eq_prolonged]
      exact .renewed (e := (a, current)) confirms entry ((current.isOf_iff_identity _).mp mine)
    · cases granted
  · rename_i free
    split at granted
    · rename_i good
      cases granted
      refine .made confirms (Pool.assigns_iff.mpr good) fun e he => ?_
      have elsewhere : e.1 ≠ a := fun filed => by cases holder?_eq_none orderly free he filed
      exact ⟨elsewhere, fun its => elsewhere ((fits.sole e he).mpr its)⟩
    · cases granted

theorem granted_of_made (orderly : l.Orderly) (confirms : q.Confirms a)
    (assigns : l.pool.Assigns a)
    (free : ∀ e ∈ l.committed.entries, e.1 ≠ a ∧ e.2.client.identity ≠ q.client.identity) :
    (l.requestSwept now q).answer =
      .ok ⟨q.client, a, now + l.pool.leaseTime, q.hostname⟩ := by
  have without : l.leaseOf q.client = none :=
    orderly.leaseOf_eq_none_iff.mpr fun e he => (free e he).2
  have vacant : l.OpenTo q.client.identity a := fun e he here => absurd here (free e he).1
  have grants := grant_of_openTo orderly vacant now q.hostname
  rw [without, if_pos assigns] at grants
  rw [requestSwept_of_confirms confirms now (by rw [without]; rfl), grants]

theorem requestSwept_granted_iff (orderly : l.Orderly) :
    (l.requestSwept now q).answer = .ok lease ↔ q.Due now l.pool l.committed lease := by
  constructor
  · intro granted
    rcases q.takesUp_or_confirms with ⟨a, takes⟩ | ⟨a, confirms⟩ | ⟨silent, speechless⟩
    · rw [requestSwept_of_takesUp takes] at granted
      by_cases opened : l.OpenTo q.client.identity a
      · rw [grant_of_openTo orderly opened] at granted
        split at granted
        · rename_i assigns
          cases granted
          exact .selected takes ⟨assigns, opened⟩
        · cases granted
      · rw [grant_of_not_openTo orderly opened] at granted
        cases granted
    · exact due_of_confirmed orderly confirms granted
    · simp only [requestSwept, silent, speechless] at granted
      cases granted
  · intro due
    cases due with
    | @selected a takes free =>
      rw [requestSwept_of_takesUp takes, grant_of_openTo orderly free.2, if_pos free.1]
    | @renewed e confirms entry its =>
      have key : e.2.address = e.1 := orderly.keyed e entry
      obtain ⟨note, m, _, granted⟩ :=
        requestSwept_of_holder now orderly (key.symm ▸ entry) its (key.symm ▸ confirms)
      rw [granted, ← Lease.renew_eq_prolonged]
      rfl
    | made confirms assigns free => exact granted_of_made orderly confirms assigns free

/- Requests as calls. -/

theorem requestSwept_refused_notes (h : (l.requestSwept now q).answer = .error refusal) :
    (l.requestSwept now q).notes.all Note.isWritable = true := by
  rw [requestSwept_eq] at h ⊢
  split at h
  · rfl
  · rename_i a dropping note planned
    have words := Demand.note_of_plan planned
    unfold confirm at h ⊢
    split at h
    · simp only [Outcome.plain_notes, List.all_cons, List.all_nil, words, Bool.and_true]
    · cases h

theorem requestSwept_worded (now : Int) (q : Demand) (l : Ledger) :
    ((l.requestSwept now q).map Answer.ofLease).written.answer =
      Answer.worded (l.requestSwept now q).answer := by
  rw [Outcome.written_answer, Outcome.map_notes, Outcome.map_answer]
  cases answered : (l.requestSwept now q).answer with
  | error refusal => exact if_pos (requestSwept_refused_notes answered)
  | ok lease => exact worded_of_notes (requestSwept_notes now q l lease answered)

/-- What a request is answered with that is due a lease, and what it leaves. -/
theorem due_turn (orderly : l.Orderly) (right : l.Bounded) (clears : l.Clears t.now)
    (read : t.call.operation = .ok (.request q)) (due : q.Due t.now l.pool (l.live t.now) lease) :
    (t.run l).answer = Answer.worded (.ok lease) ∧
      ∀ e, e ∈ (t.run l).ledger.committed.entries ↔ e = (lease.address, lease) ∨
        e ∈ (l.live t.now).entries ∧ e.2.client.identity ≠ q.client.identity := by
  have swept : (l.sweep t.now).ledger.Orderly := orderly_sweep orderly t.now
  have cleared := sweep_cleared right t.now
  rw [← cleared.pool, ← cleared.committed_eq_live] at due
  have granted := (requestSwept_granted_iff swept).mpr due
  obtain ⟨answered, left⟩ := request_turn right clears read
  rw [requestSwept_worded, granted] at answered
  refine ⟨answered, fun e => ?_⟩
  rw [left, mem_requested swept, granted, cleared.committed_eq_live]
  simp [Except.isOk, Except.toBool]

/-- What a request is answered with that is due no lease, and what it leaves. -/
theorem not_due_turn (orderly : l.Orderly) (right : l.Bounded) (clears : l.Clears t.now)
    (read : t.call.operation = .ok (.request q))
    (never : ∀ lease, ¬ q.Due t.now l.pool (l.live t.now) lease) :
    (∃ refusal, refusal ≠ .exhausted ∧ (t.run l).answer = .ok (.refused refusal)) ∧
      (t.run l).ledger.committed = l.live t.now := by
  have swept : (l.sweep t.now).ledger.Orderly := orderly_sweep orderly t.now
  have cleared := sweep_cleared right t.now
  rw [← cleared.pool, ← cleared.committed_eq_live] at never
  obtain ⟨answered, left⟩ := request_turn right clears read
  cases refused : ((l.sweep t.now).ledger.requestSwept t.now q).answer with
  | ok lease => exact absurd ((requestSwept_granted_iff swept).mp refused) (never lease)
  | error refusal =>
    rw [requestSwept_worded, refused] at answered
    refine ⟨⟨refusal, requestSwept_refusal_ne refused, answered⟩, ?_⟩
    rw [left, requestSwept_refused swept refused, cleared.committed_eq_live]

/-- A request is answered with the lease that it is due next to the leases which have not ended, as
far as that can be put into words, and leaves it with them in the place of any other lease of its
client. If it is due none, it is refused, and leaves just them. To take up an offer of an address,
it is due one if and only if the pool has the address to give and no other client has it; to confirm
an address, if and only if its client has the address, or has none and the pool has the address to
give and nobody has it; and never if it does not say which address. All this as long as the leases
that have ended can be put into words; if they cannot, the request fails. -/
theorem request_decided (pool : Pool) (turns : List Turn) {t : Turn} {q : Demand}
    (read : t.call.operation = .ok (.request q)) :
    let l := (opening pool).ledger.after turns
    let o := t.run l
    let held := l.live t.now
    let due := q.Due t.now l.pool held
    (l.Clears t.now →
      (∀ lease, due lease → o.answer = Answer.worded (.ok lease) ∧
        ∀ e, e ∈ o.ledger.committed.entries ↔ e = (lease.address, lease) ∨
          e ∈ held.entries ∧ e.2.client.identity ≠ q.client.identity) ∧
      ((∀ lease, ¬ due lease) →
        (∃ refusal, refusal ≠ .exhausted ∧ o.answer = .ok (.refused refusal)) ∧
          o.ledger.committed = held)) ∧
    (¬ l.Clears t.now → o.answer = .error .longNumber) ∧
    (∀ a, q.TakesUp a →
      ((∃ lease, due lease) ↔ l.pool.Selectable held q.client.identity a)) ∧
    (∀ a, q.Confirms a →
      ((∃ lease, due lease) ↔ l.pool.Confirmable held q.client.identity a)) ∧
    (q.requested = none → q.source = none → ∀ lease, ¬ due lease) := by
  intro l o held due
  have orderly : l.Orderly := orderly_after (orderly_fresh pool) turns
  have right : l.Bounded := bounded_after (orderly_fresh pool) (bounded_fresh pool) turns
  refine ⟨fun clears => ⟨fun lease due => ?_, fun never => ?_⟩, fun clears => ?_,
    fun a takes => Demand.due_iff_selectable takes,
    fun a confirms => Demand.due_iff_confirmable confirms, Demand.not_due_of_silent⟩
  · exact due_turn orderly right clears read due
  · exact not_due_turn orderly right clears read never
  · exact request_turn_of_not_clears right clears read

/-- A client moves from one address to another while a second client keeps its own. -/
theorem move_decided :
    let l := (opening (.home 1000)).ledger.after
      [.select 0 (.plain 1) (.home 10), .select 10 (.plain 2) (.home 20)]
    let t := Turn.select 500 (.plain 1) (.home 30)
    let moved : Lease := ⟨.plain 1, .home 30, 1500, .null⟩
    (t.run l).answer = .ok (.lease moved) ∧
      ∀ e, e ∈ (t.run l).ledger.committed.entries ↔ e = (moved.address, moved) ∨
        e ∈ (l.live t.now).entries ∧ e.2.client.identity ≠ (Client.plain 1).identity := by
  intro l t moved
  have read : t.call.operation =
    .ok (.request ⟨.plain 1, none, some (.home 30), true, .null⟩) := rfl
  obtain ⟨settled, _⟩ := request_decided (.home 1000)
    [.select 0 (.plain 1) (.home 10), .select 10 (.plain 2) (.home 20)] read
  have free : l.pool.Selectable (l.live 500) (Client.plain 1).identity (.home 30) := by
    decide +kernel
  have lasts : l.pool.leaseTime = 1000 := by decide +kernel
  have due : Demand.Due ⟨.plain 1, none, some (.home 30), true, .null⟩ 500 l.pool (l.live 500)
      ⟨.plain 1, .home 30, 500 + (l.pool.leaseTime : Int), .null⟩ := .selected ⟨rfl, rfl⟩ free
  rw [lasts] at due
  obtain ⟨answered, left⟩ := (settled (by decide +kernel)).1 moved due
  have writable : Numeral.isWritable 1500 = true := by decide +kernel
  have said : Answer.worded (.ok moved) = .ok (.lease moved) :=
    Answer.worded_of_writable writable
  unfold l
  exact ⟨answered.trans said, left⟩

/-- A client may take up an offer, but the end of the lease is too long for words. -/
theorem selection_too_long :
    let l := (opening (.home (10 ^ 4300 - 1))).ledger
    let t := Turn.select 1 (.plain 1) (.home 10)
    l.pool.Selectable (l.live 1) (Client.plain 1).identity (.home 10) ∧
      (t.run l).answer = .error .longNumber := by
  intro l t
  let lease : Lease := ⟨.plain 1, .home 10, 1 + (l.pool.leaseTime : Int), .null⟩
  have long : Numeral.isWritable lease.expiration = false := by decide +kernel
  have free : l.pool.Selectable (l.live 1) (Client.plain 1).identity (.home 10) := by
    decide +kernel
  have due : Demand.Due ⟨.plain 1, none, some (.home 10), true, .null⟩ 1 l.pool (l.live 1) lease :=
    .selected ⟨rfl, rfl⟩ free
  have read : t.call.operation =
    .ok (.request ⟨.plain 1, none, some (.home 10), true, .null⟩) := rfl
  obtain ⟨answered, _⟩ :=
    due_turn (orderly_fresh _) (bounded_fresh _) (by decide +kernel) read due
  exact ⟨free, answered.trans (Answer.worded_of_long long)⟩

end Ledger
end LeaseBook
