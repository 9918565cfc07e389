import LeaseBook.Clock
import LeaseBook.Proofs.Bound
import LeaseBook.Proofs.History

/-!
Only differences of time matter. A server whose clock starts later, and is set to instants later by
as much, answers the same and keeps the same, with all expirations later by as much. The bound is
not: where nothing is left to expire it stands at the end of time in both. But nobody sees it, so
two runs are compared by their books. What does depend on the instant itself is whether it can be
put into words.
-/

namespace LeaseBook

namespace Roster

variable {α β : Type} {r : Roster α} {f : α → β} {a : Address} {x : α}

/-- The same addresses with other records. -/
def map (f : α → β) (r : Roster α) : Roster β := ⟨r.entries.map fun e => (e.1, f e.2)⟩

theorem addresses_map : (r.map f).addresses = r.addresses := by
  simp [map, addresses]

theorem records_map : (r.map f).records = r.records.map f := by
  simp [map, records]

theorem contains_map : (r.map f).contains a = r.contains a := by
  simp [map, contains, Function.comp_def]

theorem find?_map : (r.map f).find? a = (r.find? a).map f := by
  simp [map, find?, List.find?_map, Function.comp_def]

theorem erase_map : (r.map f).erase a = (r.erase a).map f := by
  simp [map, erase, List.filter_map, Function.comp_def]

theorem filter_map {keep : Address → β → Bool} :
    (r.map f).filter keep = (r.filter fun a x => keep a (f x)).map f := by
  simp [map, filter, List.filter_map, Function.comp_def]

theorem put_map : (r.map f).put a (f x) = (r.put a x).map f := by
  obtain ⟨entries⟩ := r
  simp only [put, map, mk.injEq]
  induction entries with
  | nil => rfl
  | cons e rest ih =>
    simp only [List.map_cons, putEntry]
    split
    · rfl
    · rw [List.map_cons, ih]

theorem strike_map {gone : Address → β → Bool} {ends : β → Bool} :
    (r.map f).strike gone ends =
      (r.strike (fun a x => gone a (f x)) fun x => ends (f x)).map f := by
  obtain ⟨entries⟩ := r
  simp only [strike, map, mk.injEq]
  induction entries with
  | nil => rfl
  | cons e rest ih =>
    simp only [List.map_cons, strikeEntries]
    split
    · split
      · rfl
      · exact ih
    · rw [List.map_cons, ih]

theorem cut?_map {p : Address → Bool} :
    (r.map f).cut? p = (r.cut? p).map fun found => (found.1, found.2.map f) := by
  obtain ⟨entries⟩ := r
  simp only [cut?, map, Option.map_map]
  induction entries with
  | nil => rfl
  | cons e rest ih =>
    simp only [List.map_cons, cutEntries]
    split
    · rfl
    · exact ih

/-- A strike ends where it does because of what it strikes out. -/
theorem strike_congr {gone : Address → α → Bool} {ends stops : α → Bool}
    (same : ∀ e ∈ r.entries, gone e.1 e.2 = true → ends e.2 = stops e.2) :
    r.strike gone ends = r.strike gone stops := by
  obtain ⟨entries⟩ := r
  simp only [strike, mk.injEq]
  induction entries with
  | nil => rfl
  | cons e rest ih =>
    obtain ⟨first, others⟩ := List.forall_mem_cons.mp same
    simp only [strikeEntries]
    split
    · rename_i struck
      rw [first struck, ih others]
    · rw [ih others]

end Roster

/- The same, later. -/

def Lease.later (d : Int) (l : Lease) : Lease := { l with expiration := l.expiration + d }

theorem Lease.renew_later (l : Lease) (expiration : Int) (hostname : Value) (d : Int) :
    (l.later d).renew (expiration + d) hostname = (l.renew expiration hostname).later d := by
  simp only [renew, extended?, later, Int.add_le_add_iff_right]
  split
  · rfl
  · rfl

namespace Note

def later (d : Int) : Note → Note
  | leaseDropped lease => leaseDropped (lease.later d)
  | offeringExtended lease => offeringExtended (lease.later d)
  | offeringRequested lease => offeringRequested (lease.later d)
  | offeringNew lease => offeringNew (lease.later d)
  | leaseCommitted lease => leaseCommitted (lease.later d)
  | leaseExpired lease => leaseExpired (lease.later d)
  | leaseReleased lease => leaseReleased (lease.later d)
  | addressDeclined a expiration => addressDeclined a (expiration + d)
  | note => note

/-- Whether an event can be put into words if and only if the later one can. -/
def Spelled (d : Int) (n : Note) : Prop := (n.later d).isWritable = n.isWritable

instance (d : Int) (n : Note) : Decidable (n.Spelled d) :=
  inferInstanceAs (Decidable ((n.later d).isWritable = n.isWritable))

theorem all_writable_later {d : Int} {notes : List Note} (spelled : ∀ n ∈ notes, n.Spelled d) :
    (notes.map (later d)).all isWritable = notes.all isWritable := by
  rw [List.all_map, Bool.eq_iff_iff, List.all_eq_true, List.all_eq_true]
  refine forall₂_congr fun n hn => ?_
  have same : (n.later d).isWritable = n.isWritable := spelled n hn
  rw [Function.comp_apply, same]

end Note

def Answer.later (d : Int) : Answer → Answer
  | lease l => lease (l.later d)
  | leases ls => leases (ls.map (Lease.later d))
  | answer => answer

def Book.later (d : Int) (b : Book) : Book :=
  ⟨b.pool, b.committed.map (Lease.later d), b.declined.map (· + d)⟩

def Ledger.later (d : Int) (l : Ledger) : Ledger :=
  ⟨l.pool, l.committed.map (Lease.later d), l.declined.map (· + d), l.nextCheck + d⟩

namespace Outcome

variable {α β γ : Type} {d : Int}

/-- What an outcome corresponds to later. What is left behind where it halts corresponds as well if
the same notes can be put into words. -/
structure Shifts (d : Int) (f : α → α) (o p : Outcome α) : Prop where
  answer : p.answer = f o.answer
  notes : p.notes = o.notes.map (Note.later d)
  ledger : p.ledger.book = o.ledger.book.later d
  halted : (∀ n ∈ o.notes, n.Spelled d) → p.halted.book = o.halted.book.later d

namespace Shifts

variable {f : α → α} {o p : Outcome α}

theorem plain (answer : α) {notes later : List Note} (spells : later = notes.map (Note.later d))
    {l m : Ledger} (same : m.book = l.book.later d) :
    Shifts d f (Outcome.plain answer l notes) (Outcome.plain (f answer) m later) :=
  ⟨rfl, spells, same, fun _ => same⟩

theorem map (shifts : Shifts d f o p) {g : α → β} {h : β → β} (square : ∀ a, g (f a) = h (g a)) :
    Shifts d h (o.map g) (p.map g) := by
  refine ⟨?_, shifts.notes, shifts.ledger, shifts.halted⟩
  rw [map_answer, map_answer, shifts.answer, square]

theorem of_alike {o' p' : Outcome α} (shifts : Shifts d f o p) (first : o'.Alike o)
    (second : p'.Alike p) : Shifts d f o' p' := by
  constructor
  · rw [second.answer, shifts.answer, first.answer]
  · rw [second.notes, shifts.notes, first.notes]
  · rw [second.ledger, shifts.ledger, first.ledger]
  · intro spelled
    rw [first.notes] at spelled
    rw [second.halted, shifts.halted spelled, first.halted]

theorem andThen {first second : Outcome Unit} {operation other : Ledger → Outcome α}
    (shifts : Shifts d id first second)
    (follows : ∀ l m, m.book = l.book.later d → Shifts d f (operation l) (other m)) :
    Shifts d f (first.andThen operation) (second.andThen other) := by
  have next := follows _ _ shifts.ledger
  refine ⟨next.answer, ?_, next.ledger, fun spelled => ?_⟩
  · simp only [Outcome.andThen, shifts.notes, next.notes, List.map_append]
  · obtain ⟨before, after⟩ := List.forall_mem_append.mp spelled
    simp only [Outcome.andThen, shifts.notes, Note.all_writable_later before]
    split
    · exact next.halted after
    · exact shifts.halted before

theorem written (shifts : Shifts d f o p) (spelled : ∀ n ∈ o.notes, n.Spelled d) :
    p.written.answer = o.written.answer.map f ∧
      p.written.ledger.book = o.written.ledger.book.later d := by
  unfold Outcome.written
  rw [shifts.notes, Note.all_writable_later spelled]
  split
  · exact ⟨congrArg Except.ok shifts.answer, shifts.ledger⟩
  · exact ⟨rfl, shifts.halted spelled⟩

end Shifts
end Outcome

namespace Ledger

open Outcome (Shifts)

variable {l m : Ledger} {d now : Int} {a : Address} {c : Client}

/- One operation on a ledger and the same operation on the later one. -/

theorem leaseOf_later : (l.later d).leaseOf c = (l.leaseOf c).map (Lease.later d) := by
  simp only [leaseOf, later, Roster.records_map, List.find?_map]
  rfl

theorem isAvailable_later : (l.later d).isAvailable a = l.isAvailable a := by
  simp only [isAvailable, later, Roster.contains_map]

theorem freeAddress?_later (h : Hardware) :
    (l.later d).freeAddress? h = l.freeAddress? h := by
  simp only [freeAddress?, isAvailable_later]
  simp only [later, Roster.contains_map]

theorem offerNew_later (expiration : Int) (q : Discovery) :
    Shifts d (Except.map (Lease.later d)) (l.offerNew expiration q)
      ((l.later d).offerNew (expiration + d) q) := by
  unfold offerNew
  rw [freeAddress?_later]
  cases l.freeAddress? q.client.hardware with
  | some a => exact .plain _ rfl rfl
  | none =>
    simp only [isAvailable_later]
    have cut := Roster.cut?_map (r := l.declined) (f := (· + d))
      (p := fun a => l.pool.isValid a && l.isAvailable a)
    have declined : (l.later d).declined = l.declined.map (· + d) := rfl
    have pool : (l.later d).pool = l.pool := rfl
    rw [declined, pool, cut]
    cases l.declined.cut? fun a => l.pool.isValid a && l.isAvailable a with
    | some found => exact .plain _ rfl rfl
    | none => exact .plain _ rfl rfl

theorem offerSwept_later (now : Int) (q : Discovery) :
    Shifts d (Except.map (Lease.later d)) (l.offerSwept now q)
      ((l.later d).offerSwept (now + d) q) := by
  have offerable : (l.later d).isOfferable = l.isOfferable := by
    funext a
    simp only [isOfferable, isAvailable_later]
    rfl
  have outside : (l.later d).isOutside = l.isOutside := rfl
  have pool : (l.later d).pool = l.pool := rfl
  have due : now + d + l.pool.leaseTime = now + l.pool.leaseTime + d := Int.add_right_comm _ _ _
  unfold offerSwept
  dsimp only
  rw [leaseOf_later, offerable, outside, pool, due]
  cases l.leaseOf q.client with
  | some current =>
    simp only [Option.map_some, Lease.renew_later]
    exact .plain _ rfl rfl
  | none =>
    cases q.requested.filter l.isOfferable with
    | some a => exact .plain _ rfl rfl
    | none =>
      simp only [Option.map_none]
      split
      · exact .plain _ rfl rfl
      · split
        · exact .plain _ rfl rfl
        · exact offerNew_later _ q

theorem holder?_later (dropping : Option Lease) :
    (l.later d).holder? a (dropping.map (Lease.later d)) =
      (l.holder? a dropping).map (Lease.later d) := by
  simp only [holder?, later, Roster.find?_map, Option.map_map, Option.filter_map]
  rfl

theorem grant_later (now : Int) (c : Client) (a : Address) (hostname : Value)
    (dropping : Option Lease) :
    (l.later d).grant (now + d) c a hostname (dropping.map (Lease.later d)) =
      (l.grant now c a hostname dropping).map (Lease.later d) := by
  have pool : (l.later d).pool = l.pool := rfl
  have due : now + d + l.pool.leaseTime = now + l.pool.leaseTime + d := Int.add_right_comm _ _ _
  unfold grant
  dsimp only
  rw [holder?_later, pool, due]
  cases l.holder? a dropping with
  | some current =>
    simp only [Option.map_some, Lease.renew_later]
    have own : (current.later d).isOf c = current.isOf c := rfl
    rw [own]
    split
    · rfl
    · rfl
  | none =>
    simp only [Option.map_none]
    split
    · rfl
    · rfl

theorem commit_later (lease : Lease) :
    (l.later d).commit (lease.later d) = (l.commit lease).later d := by
  simp only [commit, later, mk.injEq, true_and]
  refine ⟨Roster.put_map, ?_⟩
  simp only [Lease.later]
  omega

theorem dropLease_later (old : Option Lease) :
    (l.later d).dropLease (old.map (Lease.later d)) = (l.dropLease old).later d := by
  cases old with
  | none => rfl
  | some old =>
    simp only [dropLease, later, Option.map_some, mk.injEq, true_and, and_true]
    exact Roster.erase_map

theorem confirm_later (now : Int) (q : Demand) (a : Address) (dropping : Option Lease)
    {note : Note} (timeless : note.later d = note) :
    Shifts d (Except.map (Lease.later d)) (l.confirm now q a dropping note)
      ((l.later d).confirm (now + d) q a (dropping.map (Lease.later d)) note) := by
  unfold confirm
  rw [grant_later]
  cases l.grant now q.client a q.hostname dropping with
  | error refusal =>
    refine .plain (Except.error refusal) ?_ rfl
    rw [List.map_singleton, timeless]
  | ok lease =>
    refine .plain (Except.ok lease) ?_ ?_
    · rw [List.map_cons, List.map_singleton, timeless]
      rfl
    · rw [dropLease_later, commit_later]
      rfl

theorem isElsewhere_map {f : Lease → Lease} (stays : ∀ lease, (f lease).address = lease.address)
    (assigned : Option Lease) (a : Address) :
    isElsewhere (assigned.map f) a = isElsewhere assigned a := by
  cases assigned with
  | none => rfl
  | some lease => exact congrArg (· != a) (stays lease)

theorem requestSwept_later (now : Int) (q : Demand) :
    Shifts d (Except.map (Lease.later d)) (l.requestSwept now q)
      ((l.later d).requestSwept (now + d) q) := by
  unfold requestSwept
  dsimp only
  rw [leaseOf_later]
  cases q.requested with
  | some a =>
    dsimp only
    rw [isElsewhere_map (f := Lease.later d) fun _ => rfl]
    split
    · exact confirm_later now q a _ rfl
    · split
      · exact .plain _ rfl rfl
      · exact confirm_later now q a none rfl
  | none =>
    cases q.source with
    | none => exact .plain _ rfl rfl
    | some a =>
      dsimp only
      rw [isElsewhere_map (f := Lease.later d) fun _ => rfl]
      split
      · exact .plain _ rfl rfl
      · exact confirm_later now q a none rfl

theorem release_later (c : Client) (a : Address) :
    Shifts d id (l.release c a) ((l.later d).release c a) := by
  have found : ((l.later d).committed.find? a).filter (fun current => current.isOf c) =
      ((l.committed.find? a).filter fun current => current.isOf c).map (Lease.later d) := by
    simp only [later, Roster.find?_map, Option.filter_map]
    rfl
  unfold release
  rw [found]
  cases (l.committed.find? a).filter fun current => current.isOf c with
  | none => exact .plain _ rfl rfl
  | some current =>
    refine .plain _ rfl ?_
    simp only [book, Book.later, later, Roster.erase_map]

theorem decline_later (now : Int) (a : Address) :
    Shifts d id (l.decline now a) ((l.later d).decline (now + d) a) := by
  have known : (l.later d).declined.contains a = l.declined.contains a := Roster.contains_map
  have pool : (l.later d).pool = l.pool := rfl
  have due : now + d + l.pool.leaseTime = now + l.pool.leaseTime + d := Int.add_right_comm _ _ _
  unfold decline
  dsimp only
  rw [known, pool, due]
  split
  · exact .plain _ rfl rfl
  · refine .plain _ rfl ?_
    have filed := Roster.put_map (r := l.declined) (f := (· + d)) (a := a)
      (x := now + l.pool.leaseTime)
    simp only [book, Book.later, later, filed]

theorem keepsLease_later (now : Int) (lease : Lease) :
    keepsLease (now + d) (lease.later d) = keepsLease now lease := by
  simp only [keepsLease, Lease.isExpired, Lease.later, Int.add_le_add_iff_right]

theorem keepsDecline_later (now expiration : Int) :
    keepsDecline (now + d) (expiration + d) = keepsDecline now expiration := by
  simp only [keepsDecline, Int.add_lt_add_iff_right]

/-- Strikes end at the same lease if the same notes can be put into words. -/
theorem strikeLeases_later {note : Lease → Note} {gone : Address → Lease → Bool}
    (later : ∀ lease, note (lease.later d) = (note lease).later d)
    (spelled : ∀ e ∈ l.committed.entries, gone e.1 e.2 = true → (note e.2).Spelled d)
    {gone' : Address → Lease → Bool} (same : ∀ a lease, gone' a (lease.later d) = gone a lease) :
    ((l.later d).strikeLeases note gone').book = (l.strikeLeases note gone).book.later d := by
  simp only [strikeLeases, book, Book.later, Ledger.later, Roster.strike_map, same]
  congr 2
  refine Roster.strike_congr fun e he struck => ?_
  have words : ((note e.2).later d).isWritable = (note e.2).isWritable := spelled e he struck
  rw [later, words]

theorem purged_later (now : Int) :
    Shifts d id (l.purged now) ((l.later d).purged (now + d)) where
  answer := rfl
  notes := by
    simp only [purged, purgeNotes, later, Roster.filter_map, Roster.records_map,
      Roster.addresses_map, keepsLease_later, keepsDecline_later, List.map_append, List.map_map]
    rfl
  ledger := by
    simp only [purged, purge, book, Book.later, later, Roster.filter_map, keepsLease_later,
      keepsDecline_later]
  halted := by
    intro spelled
    refine strikeLeases_later (fun _ => rfl) (fun e he ended => spelled _ ?_) fun _ lease => ?_
    · refine List.mem_append_left _ (List.mem_map_of_mem (Roster.mem_records.mpr ⟨e.1, ?_⟩))
      exact Roster.mem_filter.mpr ⟨he, ended⟩
    · rw [keepsLease_later]

theorem reconfigure_later (pool : Pool) :
    Shifts d id (l.reconfigure pool) ((l.later d).reconfigure pool) := by
  have stranded (a : Address) : isStranded { l.later d with pool := pool } a =
      isStranded { l with pool := pool } a := rfl
  have drops : ((l.later d).committed.filter fun a _ =>
        isStranded { l with pool := pool } a).records.map Note.leaseDropped =
      ((l.committed.filter fun a _ => isStranded { l with pool := pool } a).records.map
        Note.leaseDropped).map (Note.later d) := by
    simp only [later, Roster.filter_map, Roster.records_map, List.map_map]
    rfl
  have kept : Book.mk pool
        ((l.later d).committed.filter fun a _ => !isStranded { l with pool := pool } a)
        ((l.later d).declined.filter fun a _ => !isStranded { l with pool := pool } a) =
      (Book.mk pool (l.committed.filter fun a _ => !isStranded { l with pool := pool } a)
        (l.declined.filter fun a _ => !isStranded { l with pool := pool } a)).later d := by
    simp only [Book.later, later, Roster.filter_map]
  unfold reconfigure
  dsimp only
  simp only [stranded, drops]
  constructor
  · rfl
  · rw [List.map_append]
    rfl
  · exact kept
  · intro spelled
    obtain ⟨dropped, _⟩ := List.forall_mem_append.mp spelled
    dsimp only
    rw [Note.all_writable_later dropped]
    split
    · exact kept
    · refine strikeLeases_later (l := { l with pool := pool }) (fun _ => rfl)
        (fun e he gone => dropped _ ?_) fun _ _ => rfl
      refine List.mem_map_of_mem (Roster.mem_records.mpr ⟨e.1, ?_⟩)
      exact Roster.mem_filter.mpr ⟨he, gone⟩

theorem listLeases_later :
    Shifts d (List.map (Lease.later d)) l.listLeases (l.later d).listLeases := by
  have records : (l.later d).committed.records = l.committed.records.map (Lease.later d) :=
    Roster.records_map
  unfold listLeases
  rw [records]
  exact .plain _ rfl rfl

theorem listDeclined_later : Shifts d id l.listDeclined (l.later d).listDeclined := by
  have addresses : (l.later d).declined.addresses = l.declined.addresses := Roster.addresses_map
  unfold listDeclined
  rw [addresses]
  exact .plain _ rfl rfl

theorem ofLease_later (r : Except Refusal Lease) :
    Answer.ofLease (r.map (Lease.later d)) = (Answer.ofLease r).later d := by
  cases r with
  | error refusal => rfl
  | ok lease => rfl

theorem sweep_later (right : l.Bounded) (right' : m.Bounded) (same : m.book = l.book.later d)
    (now : Int) : Shifts d id (l.sweep now) (m.sweep (now + d)) := by
  have purges : (m.purged (now + d)).Alike ((l.later d).purged (now + d)) := purged_blind _ same
  exact (purged_later now).of_alike (sweep_alike right now)
    ((sweep_alike right' (now + d)).trans purges)

/-- Operations on later ledgers do the same later, whatever the bounds of the ledgers. -/
theorem run_later (right : l.Bounded) (right' : m.Bounded) (same : m.book = l.book.later d)
    (now : Int) (op : Operation) :
    Shifts d (Answer.later d) (op.run now l) (op.run (now + d) m) := by
  have swept := sweep_later right right' same now
  cases op with
  | offer q =>
    refine (swept.andThen fun l m same => ?_).map ofLease_later
    exact (offerSwept_later now q).of_alike (.refl _) (offerSwept_blind (now + d) q same)
  | request q =>
    refine (swept.andThen fun l m same => ?_).map ofLease_later
    exact (requestSwept_later now q).of_alike (.refl _) (requestSwept_blind (now + d) q same)
  | release c a =>
    have released := (release_later c a).of_alike (.refl _) (release_blind c a same)
    exact released.map fun _ => rfl
  | decline a =>
    have declined := (decline_later now a).of_alike (.refl _) (decline_blind (now + d) a same)
    exact declined.map (g := fun _ => Answer.noted) fun _ => rfl
  | committed =>
    refine Shifts.map (swept.andThen fun l m same => ?_) fun _ => rfl
    exact listLeases_later.of_alike (.refl _) (listLeases_blind same)
  | declined =>
    refine Shifts.map (f := id) (g := fun as => Answer.addresses (Address.sorted as))
      (swept.andThen fun l m same => ?_) fun _ => rfl
    exact listDeclined_later.of_alike (.refl _) (listDeclined_blind same)
  | reconfigure pool =>
    have taken := (reconfigure_later pool).of_alike (.refl _) (reconfigure_blind pool same)
    exact taken.map (g := fun _ => Answer.serving pool) fun _ => rfl

end Ledger

/- Servers with a clock of their own. -/

/-- What can be asked of a server: a call at the present instant, or that its clock move. -/
inductive Step where
  | call (c : Call)
  | advance (span : Int)
  | set (now : Int)

/-- The same step, with the instant that it names, if it names one, later. -/
def Step.later (d : Int) : Step → Step
  | set now => set (now + d)
  | step => step

inductive Response where
  | answered (answer : Except Fault Answer)
  | advanced (now : Except Fault Int)
  | set (done : Except Fault Unit)

def Response.later (d : Int) : Response → Response
  | answered answer => answered (answer.map (Answer.later d))
  | advanced now => advanced (now.map (· + d))
  | set done => set done

structure Service where
  clock : Clock
  ledger : Ledger

namespace Service

def opening (start : Int) (pool : Pool) : Service := ⟨⟨start⟩, (Ledger.opening pool).ledger⟩

/-- A server whose clock has been told to move. -/
def moved (s : Service) : Except Fault Clock → Service
  | .ok clock => { s with clock := clock }
  | .error _ => s

def run (s : Service) : Step → Response × Service
  | .call c =>
    let o := Turn.run ⟨s.clock.now, c⟩ s.ledger
    (.answered o.answer, { s with ledger := o.ledger })
  | .advance span =>
    let r := s.clock.advance span
    (.advanced (r.map Clock.now), s.moved r)
  | .set now =>
    let r := s.clock.set now
    (.set (r.map fun _ => ()), s.moved r)

def after (s : Service) : List Step → Service
  | [] => s
  | step :: rest => (s.run step).2.after rest

def responses (s : Service) : List Step → List Response
  | [] => []
  | step :: rest => (s.run step).1 :: (s.run step).2.responses rest

/-- What a step has to put into words. -/
def noted (s : Service) : Step → List Note
  | .call c =>
    match c.operation with
    | .ok op => (op.run s.clock.now s.ledger).notes
    | .error _ => []
  | _ => []

/-- What a run has to put into words. -/
def notes (s : Service) : List Step → List Note
  | [] => []
  | step :: rest => s.noted step ++ (s.run step).2.notes rest

/-- Two servers of which one is the other one later, except for the bounds of their ledgers. -/
structure Follows (d : Int) (s s' : Service) : Prop where
  clock : s'.clock.now = s.clock.now + d
  book : s'.ledger.book = s.ledger.book.later d
  orderly : s.ledger.Orderly
  bounded : s.ledger.Bounded
  orderly' : s'.ledger.Orderly
  bounded' : s'.ledger.Bounded

variable {s s' : Service} {d : Int} {step : Step} {steps : List Step}

theorem follows_opening (start d : Int) (pool : Pool) :
    Follows d (opening start pool) (opening (start + d) pool) where
  clock := rfl
  book := rfl
  orderly := Ledger.orderly_fresh pool
  bounded := Ledger.bounded_fresh pool
  orderly' := Ledger.orderly_fresh pool
  bounded' := Ledger.bounded_fresh pool

theorem turn_of_unread {c : Call} {fault : Fault} (read : c.operation = .error fault)
    (s : Service) : Turn.run ⟨s.clock.now, c⟩ s.ledger = .plain (.error fault) s.ledger [] :=
  Ledger.run_of_unread read s.ledger

theorem turn_of_read {c : Call} {op : Operation} (read : c.operation = .ok op) (s : Service) :
    Turn.run ⟨s.clock.now, c⟩ s.ledger = (op.run s.clock.now s.ledger).written :=
  Ledger.run_of_read read s.ledger

namespace Follows

theorem shifts (follows : Follows d s s') (op : Operation) :
    Outcome.Shifts d (Answer.later d) (op.run s.clock.now s.ledger)
      (op.run s'.clock.now s'.ledger) := by
  rw [follows.clock]
  exact Ledger.run_later follows.bounded follows.bounded' follows.book s.clock.now op

theorem of_turn (follows : Follows d s s') (t t' : Turn)
    (book : (t'.run s'.ledger).ledger.book = (t.run s.ledger).ledger.book.later d) :
    Follows d { s with ledger := (t.run s.ledger).ledger }
      { s' with ledger := (t'.run s'.ledger).ledger } where
  clock := follows.clock
  book := book
  orderly := Ledger.orderly_turn follows.orderly t
  bounded := Ledger.bounded_turn follows.orderly follows.bounded t
  orderly' := Ledger.orderly_turn follows.orderly' t'
  bounded' := Ledger.bounded_turn follows.orderly' follows.bounded' t'

theorem call (follows : Follows d s s') {c : Call}
    (spelled : ∀ n ∈ s.noted (.call c), n.Spelled d) :
    (s'.run (.call c)).1 = (s.run (.call c)).1.later d ∧
      Follows d (s.run (.call c)).2 (s'.run (.call c)).2 := by
  cases read : c.operation with
  | error fault =>
    simp only [run, turn_of_unread read]
    exact ⟨rfl, follows⟩
  | ok op =>
    simp only [noted, read] at spelled
    obtain ⟨answer, book⟩ := (follows.shifts op).written spelled
    rw [← turn_of_read read s, ← turn_of_read read s'] at answer book
    exact ⟨congrArg Response.answered answer, follows.of_turn _ _ book⟩

theorem moved (follows : Follows d s s') (now : Int) :
    Follows d { s with clock := ⟨now⟩ } { s' with clock := ⟨now + d⟩ } :=
  ⟨rfl, follows.book, follows.orderly, follows.bounded, follows.orderly', follows.bounded'⟩

theorem advance (follows : Follows d s s') (span : Int) :
    (s'.run (.advance span)).1 = (s.run (.advance span)).1.later d ∧
      Follows d (s.run (.advance span)).2 (s'.run (.advance span)).2 := by
  have onward : s'.clock.now + span = s.clock.now + span + d := by
    rw [follows.clock]
    exact Int.add_right_comm _ _ _
  simp only [run, Clock.advance, onward]
  split
  · exact ⟨rfl, follows⟩
  · exact ⟨rfl, follows.moved _⟩

theorem set (follows : Follows d s s') (now : Int) :
    (s'.run (.set (now + d))).1 = (s.run (.set now)).1.later d ∧
      Follows d (s.run (.set now)).2 (s'.run (.set (now + d))).2 := by
  simp only [run, Clock.set, follows.clock, Int.add_lt_add_iff_right]
  split
  · exact ⟨rfl, follows⟩
  · exact ⟨rfl, follows.moved _⟩

theorem run (follows : Follows d s s') (spelled : ∀ n ∈ s.noted step, n.Spelled d) :
    (s'.run (step.later d)).1 = (s.run step).1.later d ∧
      Follows d (s.run step).2 (s'.run (step.later d)).2 := by
  cases step with
  | call c => exact follows.call spelled
  | advance span => exact follows.advance span
  | set now => exact follows.set now

theorem after (follows : Follows d s s') (spelled : ∀ n ∈ s.notes steps, n.Spelled d) :
    s'.responses (steps.map (Step.later d)) = (s.responses steps).map (Response.later d) ∧
      Follows d (s.after steps) (s'.after (steps.map (Step.later d))) := by
  induction steps generalizing s s' with
  | nil => exact ⟨rfl, follows⟩
  | cons step rest ih =>
    obtain ⟨first, others⟩ := List.forall_mem_append.mp spelled
    obtain ⟨response, onward⟩ := follows.run first
    obtain ⟨responses, follows⟩ := ih onward others
    refine ⟨?_, follows⟩
    simp only [List.map_cons, Service.responses]
    rw [response, responses]

/-- Whatever is asked next, the responses correspond unless one of the two cannot be put into
words. -/
theorem response_iff (follows : Follows d s s') (step : Step) :
    (s'.run (step.later d)).1 = (s.run step).1.later d ↔
      ((s'.run (step.later d)).1 = .answered (.error .longNumber) ↔
        (s.run step).1 = .answered (.error .longNumber)) := by
  cases step with
  | advance span => exact iff_of_true (follows.advance span).1 (iff_of_false nofun nofun)
  | set now => exact iff_of_true (follows.set now).1 (iff_of_false nofun nofun)
  | call c =>
    cases read : c.operation with
    | error fault =>
      simp only [Step.later, Service.run, turn_of_unread read]
      exact iff_of_true rfl Iff.rfl
    | ok op =>
      have answer := (follows.shifts op).answer
      simp only [Step.later, Service.run, turn_of_read read, Outcome.written_answer, answer]
      split
      · split
        · exact iff_of_true rfl (iff_of_false nofun nofun)
        · refine iff_of_false nofun fun same => ?_
          cases same.mpr rfl
      · split
        · refine iff_of_false nofun fun same => ?_
          cases same.mp rfl
        · exact iff_of_true rfl Iff.rfl

end Follows

/-- If two clocks start some time apart and are set to instants as far apart, all responses are the
same except that expirations and the time told are as far apart, and so are all expirations left
behind, in their order; provided that each event can be put into words if and only if the later one
can. And that is all it takes: the next responses correspond if and only if this fault ends both or
neither. -/
theorem responses_later (pool : Pool) (start d : Int) {steps : List Step}
    (spelled : ∀ n ∈ (opening start pool).notes steps, n.Spelled d) :
    let s := opening start pool
    let s' := opening (start + d) pool
    let onward := steps.map (Step.later d)
    s'.responses onward = (s.responses steps).map (Response.later d) ∧
    (s'.after onward).clock.now = (s.after steps).clock.now + d ∧
    (s'.after onward).ledger.book = (s.after steps).ledger.book.later d ∧
    ∀ step : Step, ((s'.after onward).run (step.later d)).1 = ((s.after steps).run step).1.later d ↔
      (((s'.after onward).run (step.later d)).1 = .answered (.error .longNumber) ↔
        ((s.after steps).run step).1 = .answered (.error .longNumber)) := by
  intro s s' onward
  obtain ⟨responses, follows⟩ := (follows_opening start d pool).after spelled
  exact ⟨responses, follows.clock, follows.book, follows.response_iff⟩

theorem responses_earlier :
    let steps := [Step.call (Turn.select 0 (.plain 1) (.home 10)).call, .advance 500,
      .call (Turn.reboot 0 (.plain 1) (.home 10)).call, .set 400, .set 1500, .call .committed]
    (∀ n ∈ (opening 0 (.home 1000)).notes steps, n.Spelled (-700)) ∧
    (opening (-700) (.home 1000)).responses (steps.map (Step.later (-700))) =
      ((opening 0 (.home 1000)).responses steps).map (Response.later (-700)) := by
  intro steps
  have spelled : ∀ n ∈ (opening 0 (.home 1000)).notes steps, n.Spelled (-700) := by
    decide +kernel
  exact ⟨spelled, (responses_later (.home 1000) 0 (-700) spelled).1⟩

/-- A request is granted early on, and fails when the clock starts late. -/
theorem late_request_fails :
    let step := Step.call (Turn.select 0 (.plain 1) (.home 10)).call
    (∃ lease, ((opening 0 (.home 1000)).run step).1 = .answered (.ok (.lease lease)) ∧
      lease.expiration = 1000) ∧
    ((opening (0 + (10 ^ 4300 - 1)) (.home 1000)).run (step.later (10 ^ 4300 - 1))).1 =
      .answered (.error .longNumber) := by
  intro step
  let c := (Turn.select 0 (.plain 1) (.home 10)).call
  have lent : (Turn.exchange ⟨0, c⟩ (Ledger.opening (.home 1000)).ledger).term? =
      some (.home 10, 1000) := by decide +kernel
  obtain ⟨lease, answered, _, ends⟩ := Turn.answer_of_term? lent
  refine ⟨⟨lease, congrArg Response.answered answered, ends⟩, ?_⟩
  let q : Demand := ⟨.plain 1, none, some (.home 10), true, .null⟩
  have long : ((Operation.request q).run (0 + (10 ^ 4300 - 1))
      (Ledger.opening (.home 1000)).ledger).notes.all Note.isWritable = false := by decide +kernel
  refine congrArg Response.answered ?_
  have read : c.operation = .ok (.request q) := rfl
  have run := Ledger.run_of_read (t := ⟨0 + (10 ^ 4300 - 1), c⟩) read
    (Ledger.opening (.home 1000)).ledger
  refine (congrArg Outcome.answer run).trans ?_
  rw [Outcome.written_answer, long]
  rfl

end Service
end LeaseBook
