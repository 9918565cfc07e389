import LeaseBook.Ledger.Call
import LeaseBook.Proofs.Effect

/-!
Runs: calls made one after the other, each at its instant, and the history of what was answered.
A call is either not read at all and changes nothing, or it has the effect of its operation.
-/

namespace LeaseBook

/-- A call and the instant at which it is made. -/
structure Turn where
  now : Int
  call : Call

def Turn.run (t : Turn) (l : Ledger) : Outcome (Except Fault Answer) := t.call.run t.now l

/-- The pool that a call asks for, if it asks for one. -/
def Turn.pool? (t : Turn) : Option Pool :=
  match t.call.operation with
  | .ok (.reconfigure pool) => some pool
  | _ => none

theorem Turn.pool?_eq_some {t : Turn} {pool : Pool} :
    t.pool? = some pool ↔ t.call.operation = .ok (.reconfigure pool) := by
  unfold Turn.pool?
  split
  · rename_i other asks
    simp [asks]
  · rename_i none
    simpa using none pool

/-- A run asks for no pool, or there is a last call that asks for one. -/
theorem Turn.last_pool? (turns : List Turn) :
    (∀ u ∈ turns, u.pool? = none) ∨
    ∃ before t rest pool, turns = before ++ t :: rest ∧ t.pool? = some pool ∧
      ∀ u ∈ rest, u.pool? = none := by
  induction turns with
  | nil => exact .inl nofun
  | cons u rest ih =>
    rcases ih with never | ⟨before, t, rest, pool, rfl, asks, never⟩
    · cases asks : u.pool? with
      | none => exact .inl (List.forall_mem_cons.mpr ⟨asks, never⟩)
      | some pool => exact .inr ⟨[], u, rest, pool, rfl, asks, never⟩
    · exact .inr ⟨u :: before, t, rest, pool, rfl, asks, never⟩

/-- A call, the instant at which it is made, and what is answered. -/
structure Exchange where
  turn : Turn
  answer : Except Fault Answer

/-- What is answered to a call on a ledger. -/
def Turn.exchange (t : Turn) (l : Ledger) : Exchange := ⟨t, (t.run l).answer⟩

/-- Whoever asks for a lease is answered with one or refused. -/
theorem Answer.ofLease_ne {r : Except Refusal Lease} {answer : Answer}
    (lease : ∀ l, .lease l ≠ answer) (refused : ∀ refusal, .refused refusal ≠ answer) :
    ofLease r ≠ answer := by
  cases r with
  | ok l => exact lease l
  | error refusal => exact refused refusal

/-- What is answered, read as an answer of some kind. -/
def Exchange.said? {α : Type} (kind : Answer → Option α) (x : Exchange) : Option α :=
  x.answer.toOption.bind kind

theorem Turn.answer_of_said? {α : Type} {kind : Answer → Option α} {put : α → Answer}
    (only : ∀ r v, kind r = some v → r = put v) {t : Turn} {l : Ledger} {v : α}
    (h : (t.exchange l).said? kind = some v) : (t.run l).answer = .ok (put v) := by
  change (t.run l).answer.toOption.bind kind = some v at h
  cases answered : (t.run l).answer with
  | error fault =>
    rw [answered] at h
    cases h
  | ok r =>
    rw [answered] at h
    rw [only r v h]

def Address.home (i : Fin 256) : Address := ⟨0xC0A80100 + i, by omega⟩

/-- The pool of 192.168.1.0/24, with nothing reserved. -/
def Pool.home (leaseTime : Nat) : Pool :=
  ⟨⟨.home 0, 24, by decide, by decide⟩, [], leaseTime, by decide⟩

def Client.plain (i : Fin 256) : Client := ⟨none, i, by omega⟩

def Turn.select (now : Int) (c : Client) (a : Address) : Turn :=
  ⟨now, .request c.id (.identifier (.short c.hardware)) .null (.address (.v4 a)) true .null⟩

def Turn.reboot (now : Int) (c : Client) (a : Address) : Turn :=
  ⟨now, .request c.id (.identifier (.short c.hardware)) .null (.address (.v4 a)) false .null⟩

/-- A subnet without reserved addresses is served from now on. -/
def Turn.serve (now : Int) (p : Prefix) (leaseTime : Int) : Turn :=
  ⟨now, .reconfigure (.network (.v4 p)) (.list []) (.int leaseTime)⟩

namespace Ledger

/-- The ledger behind a run. -/
def after (l : Ledger) : List Turn → Ledger
  | [] => l
  | t :: rest => (t.run l).ledger.after rest

/-- The history of a run. -/
def exchanges (l : Ledger) : List Turn → List Exchange
  | [] => []
  | t :: rest => t.exchange l :: (t.run l).ledger.exchanges rest

variable {l : Ledger} {t : Turn} {turns : List Turn}

theorem run_of_read {op : Operation} (read : t.call.operation = .ok op) (l : Ledger) :
    t.run l = (op.run t.now l).written := by
  unfold Turn.run Call.run
  rw [read]

theorem run_of_unread {fault : Fault} (unread : t.call.operation = .error fault) (l : Ledger) :
    t.run l = .plain (.error fault) l [] := by
  unfold Turn.run Call.run
  rw [unread]

theorem after_append (l : Ledger) (first second : List Turn) :
    l.after (first ++ second) = (l.after first).after second := by
  induction first generalizing l with
  | nil => rfl
  | cons t rest ih => exact ih _

/-- A call that cannot be read changes nothing; any other has the effect of its operation. -/
theorem turn_effect (orderly : l.Orderly) (t : Turn) :
    (∃ fault, t.call.operation = .error fault ∧ (t.run l).ledger = l) ∨
    ∃ op, t.call.operation = .ok op ∧ Effect t.now l op (t.run l).answer (t.run l).ledger := by
  unfold Turn.run Call.run
  cases h : t.call.operation with
  | error fault => exact .inl ⟨fault, rfl, rfl⟩
  | ok op => exact .inr ⟨op, rfl, run_effect orderly t.now op⟩

theorem orderly_turn (orderly : l.Orderly) (t : Turn) : (t.run l).ledger.Orderly := by
  rcases turn_effect orderly t with ⟨_, _, same⟩ | ⟨_, _, effect⟩
  · rw [same]
    exact orderly
  · exact effect.orderly orderly

theorem bounded_turn (orderly : l.Orderly) (right : l.Bounded) (t : Turn) :
    (t.run l).ledger.Bounded := by
  rcases turn_effect orderly t with ⟨_, _, same⟩ | ⟨_, _, effect⟩
  · rw [same]
    exact right
  · exact effect.bounded orderly right

theorem turn_effect_of_keeps (orderly : l.Orderly) (keeps : t.pool? = none) :
    (t.run l).ledger = l ∨ ∃ op, (∀ pool, op ≠ .reconfigure pool) ∧
      Effect t.now l op (t.run l).answer (t.run l).ledger := by
  rcases turn_effect orderly t with ⟨_, _, same⟩ | ⟨op, read, effect⟩
  · exact .inl same
  · refine .inr ⟨op, fun pool asks => ?_, effect⟩
    rw [asks] at read
    rw [Turn.pool?_eq_some.mpr read] at keeps
    cases keeps

theorem pool_turn (orderly : l.Orderly) (keeps : t.pool? = none) :
    (t.run l).ledger.pool = l.pool := by
  rcases turn_effect_of_keeps orderly keeps with same | ⟨_, other, effect⟩
  · rw [same]
  · exact effect.pool other

theorem served_turn (orderly : l.Orderly) (served : l.Served) (keeps : t.pool? = none) :
    (t.run l).ledger.Served := by
  rcases turn_effect_of_keeps orderly keeps with same | ⟨_, other, effect⟩
  · rw [same]
    exact served
  · exact effect.served orderly served other

theorem within_turn {first last : Int} (orderly : l.Orderly) (within : l.Within first last)
    (early : first ≤ t.now) (late : t.now ≤ last) (keeps : t.pool? = none) :
    (t.run l).ledger.Within first last := by
  rcases turn_effect_of_keeps orderly keeps with same | ⟨_, other, effect⟩
  · rw [same]
    exact within
  · exact effect.within orderly within early late other

theorem served_turn_of_drops {pool : Pool} (orderly : l.Orderly) (asks : t.pool? = some pool)
    (drops : l.Drops pool) : (t.run l).ledger.Served := by
  rcases turn_effect orderly t with ⟨_, unread, _⟩ | ⟨op, read, effect⟩
  · rw [Turn.pool?_eq_some.mp asks] at unread
    cases unread
  · rw [Turn.pool?_eq_some.mp asks] at read
    cases read
    cases effect with
    | swept same _ _ => exact absurd rfl (same _)
    | reconfigured _ _ serves => exact serves drops

/-- What a turn that enters a lease is like: it is a request, the lease fits in with what is left,
and it is the answer if it can be put into words. -/
structure Enters (t : Turn) (q : Demand) (lease : Lease) (l m : Ledger) : Prop where
  read : t.call.operation = .ok (.request q)
  pool : m.pool = l.pool
  fewer : m.committed.entries.Sublist l.committed.entries
  fits : Fits t.now q.client lease m
  answered : (t.run l).answer =
    if Numeral.isWritable lease.expiration then .ok (.lease lease) else .error .longNumber

/-- What holds of all leases still does after a turn, if it holds of the one that is entered. -/
theorem every_turn {P : Address × Lease → Prop} (orderly : l.Orderly)
    (every : ∀ e ∈ l.committed.entries, P e)
    (enters : ∀ q lease m, Enters t q lease l m → P (lease.address, lease)) :
    ∀ e ∈ (t.run l).ledger.committed.entries, P e := by
  rcases turn_effect orderly t with ⟨_, _, same⟩ | ⟨op, read, effect⟩
  · rw [same]
    exact every
  · rcases effect.request_or_fewer with ⟨q, rfl⟩ | fewer
    · have entered := request_entered orderly t.now q
      have enters (lease m) (pool fewer fits) (answered : (t.run l).answer = _) :=
        enters q lease m ⟨read, pool, fewer, fits, answered⟩
      rw [← run_of_read read l] at entered
      generalize (t.run l).answer = answer, (t.run l).ledger = n at entered enters ⊢
      intro e he
      cases entered with
      | nothing _ shed _ => exact every e (shed.committed.mem he)
      | lease pool shed _ fits answered =>
        rcases (mem_commit (shed.orderly orderly)).mp he with rfl | ⟨he, _⟩
        · exact enters _ _ pool shed.committed fits answered
        · exact every e (shed.committed.mem he)
    · exact fun e he => every e (fewer.mem he)

theorem orderly_after (orderly : l.Orderly) (turns : List Turn) : (l.after turns).Orderly := by
  induction turns generalizing l with
  | nil => exact orderly
  | cons t rest ih => exact ih (orderly_turn orderly t)

/-- What every exchange of a run keeps holds behind the run. -/
theorem after_induction {P : Ledger → Prop} {Q : Exchange → Prop}
    (step : ∀ (l : Ledger) (t : Turn), l.Orderly → P l → Q (t.exchange l) → P (t.run l).ledger)
    (orderly : l.Orderly) (start : P l) (every : ∀ x ∈ l.exchanges turns, Q x) :
    P (l.after turns) := by
  induction turns generalizing l with
  | nil => exact start
  | cons t rest ih =>
    obtain ⟨first, others⟩ := List.forall_mem_cons.mp every
    exact ih (orderly_turn orderly t) (step l t orderly start first) others

theorem exchanges_turns (l : Ledger) (turns : List Turn) :
    (l.exchanges turns).map Exchange.turn = turns := by
  induction turns generalizing l with
  | nil => rfl
  | cons t rest ih => exact congrArg _ (ih _)

theorem forall_exchanges {p : Turn → Prop} (every : ∀ t ∈ turns, p t) :
    ∀ x ∈ l.exchanges turns, p x.turn := by
  intro x hx
  refine every x.turn ?_
  rw [← exchanges_turns l turns]
  exact List.mem_map_of_mem hx

theorem bounded_after (orderly : l.Orderly) (right : l.Bounded) (turns : List Turn) :
    (l.after turns).Bounded :=
  after_induction (Q := fun _ => True) (fun _ t orderly right _ => bounded_turn orderly right t)
    orderly right fun _ _ => trivial

theorem served_after (orderly : l.Orderly) (served : l.Served)
    (keeps : ∀ t ∈ turns, t.pool? = none) : (l.after turns).Served :=
  after_induction (fun _ _ => served_turn) orderly served (forall_exchanges keeps)

theorem pool_after (orderly : l.Orderly) (keeps : ∀ t ∈ turns, t.pool? = none) :
    (l.after turns).pool = l.pool :=
  after_induction (P := fun m => m.pool = l.pool)
    (fun _ _ orderly same keep => (pool_turn orderly keep).trans same) orderly rfl
    (forall_exchanges keeps)

theorem within_after {first last : Int} (orderly : l.Orderly) (within : l.Within first last)
    (span : ∀ t ∈ turns, first ≤ t.now ∧ t.now ≤ last) (keeps : ∀ t ∈ turns, t.pool? = none) :
    (l.after turns).Within first last := by
  refine after_induction (fun l t orderly within during => ?_) orderly within
    (forall_exchanges (p := fun t => (first ≤ t.now ∧ t.now ≤ last) ∧ t.pool? = none)
      fun t ht => ⟨span t ht, keeps t ht⟩)
  exact within_turn orderly within during.1.1 during.1.2 during.2

end Ledger
end LeaseBook
