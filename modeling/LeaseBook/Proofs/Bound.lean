import LeaseBook.Proofs.Run

/-!
The bound of a ledger is not to be seen from outside. A book is a ledger without a bound, which is
purged wherever a ledger is swept; calls on the two are answered alike and leave the same leases and
declines behind, in the same order.
-/

namespace LeaseBook

/-- A pool with its leases and declines, and no bound. -/
structure Book where
  pool : Pool
  committed : Roster Lease
  declined : Roster Int

/-- What a ledger holds apart from its bound. -/
def Ledger.book (l : Ledger) : Book := ⟨l.pool, l.committed, l.declined⟩

/-- A book as a ledger. The bound is there to fill its place. -/
def Book.ledger (b : Book) : Ledger := ⟨b.pool, b.committed, b.declined, Lease.never⟩

/-- Carries an operation out at an instant, with what expires cleared away in a given manner. -/
def Operation.runBy (clear : Ledger → Outcome Unit) (now : Int) (l : Ledger) :
    Operation → Outcome Answer
  | offer q => ((clear l).andThen (Ledger.offerSwept now q)).map .ofLease
  | request q => ((clear l).andThen (Ledger.requestSwept now q)).map .ofLease
  | release c a => (l.release c a).map .released
  | decline a => (l.decline now a).map fun _ => .noted
  | committed => ((clear l).andThen Ledger.listLeases).map .leases
  | declined => ((clear l).andThen Ledger.listDeclined).map fun as => .addresses (Address.sorted as)
  | reconfigure pool => (l.reconfigure pool).map fun _ => .serving pool

namespace Book

/-- Carries a call out on a book: everything that has expired is struck out wherever a ledger is
swept. -/
def run (t : Turn) (b : Book) : Except Fault Answer × Book :=
  match t.call.operation with
  | .error fault => (.error fault, b)
  | .ok op =>
    let o := (op.runBy (Ledger.purged t.now) t.now b.ledger).written
    (o.answer, o.ledger.book)

def after (b : Book) : List Turn → Book
  | [] => b
  | t :: rest => (b.run t).2.after rest

def exchanges (b : Book) : List Turn → List Exchange
  | [] => []
  | t :: rest => ⟨t, (b.run t).1⟩ :: (b.run t).2.exchanges rest

end Book

namespace Outcome

variable {α β : Type} {o p : Outcome α}

/-- Two outcomes that differ in bounds at most. -/
structure Alike (o p : Outcome α) : Prop where
  answer : o.answer = p.answer
  notes : o.notes = p.notes
  ledger : o.ledger.book = p.ledger.book
  halted : o.halted.book = p.halted.book

namespace Alike

theorem refl (o : Outcome α) : o.Alike o := ⟨rfl, rfl, rfl, rfl⟩

theorem trans {r : Outcome α} (first : o.Alike p) (second : p.Alike r) : o.Alike r :=
  ⟨first.answer.trans second.answer, first.notes.trans second.notes,
    first.ledger.trans second.ledger, first.halted.trans second.halted⟩

theorem plain (answer : α) (notes : List Note) {l m : Ledger} (same : l.book = m.book) :
    (Outcome.plain answer l notes).Alike (Outcome.plain answer m notes) := ⟨rfl, rfl, same, same⟩

theorem map (alike : o.Alike p) (f : α → β) : (o.map f).Alike (p.map f) :=
  ⟨congrArg f alike.answer, alike.notes, alike.ledger, alike.halted⟩

theorem andThen {first second : Outcome Unit} {operation : Ledger → Outcome α}
    (alike : first.Alike second)
    (blind : ∀ l m, l.book = m.book → (operation l).Alike (operation m)) :
    (first.andThen operation).Alike (second.andThen operation) := by
  obtain ⟨answer, notes, ledger, halted⟩ := blind _ _ alike.ledger
  refine ⟨answer, ?_, ledger, ?_⟩
  · simp only [Outcome.andThen, alike.notes, notes]
  · simp only [Outcome.andThen, alike.notes]
    split
    · exact halted
    · exact alike.halted

theorem written (alike : o.Alike p) : o.written.Alike p.written := by
  unfold Outcome.written
  rw [alike.answer, alike.notes]
  split
  · exact .plain _ _ alike.ledger
  · exact .plain _ _ alike.halted

end Alike
end Outcome

namespace Ledger

open Outcome (Alike)

variable {l m : Ledger} {now : Int}

/- No operation on a swept ledger looks at the bound. -/

/-- What is read of a ledger apart from its bound is read of its book. -/
theorem read_of_book {α : Type} (read : Ledger → α)
    (blind : ∀ (l : Ledger) (bound : Int), read { l with nextCheck := bound } = read l)
    (same : l.book = m.book) : read l = read m :=
  calc read l = read l.book.ledger := (blind l Lease.never).symm
    _ = read m.book.ledger := by rw [same]
    _ = read m := blind m Lease.never

theorem offerNew_blind (expiration : Int) (q : Discovery) (same : l.book = m.book) :
    (l.offerNew expiration q).Alike (m.offerNew expiration q) := by
  have pool := read_of_book Ledger.pool (fun _ _ => rfl) same
  have declined := read_of_book Ledger.declined (fun _ _ => rfl) same
  have available := read_of_book Ledger.isAvailable (fun _ _ => rfl) same
  have free := read_of_book (Ledger.freeAddress? · q.client.hardware) (fun _ _ => rfl) same
  have committed := read_of_book Ledger.committed (fun _ _ => rfl) same
  unfold offerNew
  rw [free, declined, available, pool]
  split
  · exact .plain _ _ same
  · split
    · exact .plain _ _ (by simp only [book, committed])
    · exact .plain _ _ same

theorem offerSwept_blind (now : Int) (q : Discovery) (same : l.book = m.book) :
    (l.offerSwept now q).Alike (m.offerSwept now q) := by
  have pool := read_of_book Ledger.pool (fun _ _ => rfl) same
  have current := read_of_book (Ledger.leaseOf · q.client) (fun _ _ => rfl) same
  have offerable := read_of_book Ledger.isOfferable (fun _ _ => rfl) same
  have outside := read_of_book Ledger.isOutside (fun _ _ => rfl) same
  unfold offerSwept
  dsimp only at current ⊢
  rw [current, offerable, outside, pool]
  split
  · exact .plain _ _ same
  · split
    · exact .plain _ _ same
    · split
      · exact .plain _ _ same
      · split
        · exact .plain _ _ same
        · exact offerNew_blind _ q same

theorem confirm_blind (now : Int) (q : Demand) (a : Address) (dropping : Option Lease)
    (note : Note) (same : l.book = m.book) :
    (l.confirm now q a dropping note).Alike (m.confirm now q a dropping note) := by
  have grants := read_of_book (Ledger.grant now q.client a q.hostname dropping)
    (fun _ _ => rfl) same
  have left (lease : Lease) :
      ((l.dropLease dropping).commit lease).book = ((m.dropLease dropping).commit lease).book :=
    read_of_book (fun l => ((l.dropLease dropping).commit lease).book)
      (fun _ _ => by cases dropping <;> rfl) same
  unfold confirm
  rw [grants]
  split
  · exact .plain _ _ same
  · exact .plain _ _ (left _)

theorem requestSwept_blind (now : Int) (q : Demand) (same : l.book = m.book) :
    (l.requestSwept now q).Alike (m.requestSwept now q) := by
  have assigned := read_of_book (Ledger.leaseOf · q.client) (fun _ _ => rfl) same
  unfold requestSwept
  dsimp only at assigned ⊢
  rw [assigned]
  split
  · split
    · exact confirm_blind now q _ _ _ same
    · split
      · exact .plain _ _ same
      · exact confirm_blind now q _ _ _ same
  · split
    · exact .plain _ _ same
    · split
      · exact .plain _ _ same
      · exact confirm_blind now q _ _ _ same

theorem release_blind (c : Client) (a : Address) (same : l.book = m.book) :
    (l.release c a).Alike (m.release c a) := by
  have committed := read_of_book Ledger.committed (fun _ _ => rfl) same
  have left := read_of_book (fun l => Ledger.book { l with committed := l.committed.erase a })
    (fun _ _ => rfl) same
  unfold release
  rw [committed] at left ⊢
  split
  · exact .plain _ _ same
  · exact .plain _ _ left

theorem decline_blind (now : Int) (a : Address) (same : l.book = m.book) :
    (l.decline now a).Alike (m.decline now a) := by
  have pool := read_of_book Ledger.pool (fun _ _ => rfl) same
  have declined := read_of_book Ledger.declined (fun _ _ => rfl) same
  have left (expiration : Int) := read_of_book
    (fun l => Ledger.book { l with declined := l.declined.put a expiration }) (fun _ _ => rfl) same
  unfold decline
  dsimp only at left ⊢
  rw [pool, declined] at left ⊢
  split
  · exact .plain _ _ same
  · exact .plain _ _ (left _)

theorem reconfigure_blind (pool : Pool) (same : l.book = m.book) :
    (l.reconfigure pool).Alike (m.reconfigure pool) where
  answer := rfl
  notes := read_of_book (fun l => (l.reconfigure pool).notes) (fun _ _ => rfl) same
  ledger := read_of_book (fun l => (l.reconfigure pool).ledger.book) (fun _ _ => rfl) same
  halted := by
    refine read_of_book (fun l => (l.reconfigure pool).halted.book) (fun l bound => ?_) same
    unfold reconfigure
    dsimp only [isStranded]
    split
    · rfl
    · rfl

theorem listLeases_blind (same : l.book = m.book) : l.listLeases.Alike m.listLeases :=
  ⟨read_of_book (fun l => l.committed.records) (fun _ _ => rfl) same, rfl, same, same⟩

theorem listDeclined_blind (same : l.book = m.book) : l.listDeclined.Alike m.listDeclined :=
  ⟨read_of_book (fun l => l.declined.addresses) (fun _ _ => rfl) same, rfl, same, same⟩

theorem purged_blind (now : Int) (same : l.book = m.book) :
    (l.purged now).Alike (m.purged now) where
  answer := rfl
  notes := read_of_book (Ledger.purgeNotes now) (fun _ _ => rfl) same
  ledger := read_of_book (fun l => (l.purged now).ledger.book) (fun _ _ => rfl) same
  halted := read_of_book (fun l => (l.purged now).halted.book) (fun _ _ => rfl) same

/- As long as the bound says that nothing has ended, there is nothing to strike out. -/

theorem purged_of_lt (right : l.Bounded) (early : now < l.nextCheck) :
    (l.purged now).ledger.book = l.book ∧ l.purgeNotes now = [] ∧
      (l.purged now).halted.book = l.book := by
  have lives (e) (he : e ∈ l.committed.entries) : keepsLease now e.2 = true := by
    have := right.committed e he
    exact keepsLease_iff.mpr (by omega)
  have holds (e) (he : e ∈ l.declined.entries) : keepsDecline now e.2 = true := by
    have := right.declined e he
    simp only [keepsDecline, decide_eq_true_eq]
    omega
  have ended (e) (he : e ∈ l.committed.entries) : (!keepsLease now e.2) = false := by
    rw [lives e he]
    rfl
  have past (e) (he : e ∈ l.declined.entries) : (!keepsDecline now e.2) = false := by
    rw [holds e he]
    rfl
  have committed : (l.committed.filter fun _ lease => keepsLease now lease) = l.committed :=
    Roster.filter_eq_self lives
  have declined : (l.declined.filter fun _ expiration => keepsDecline now expiration) =
      l.declined := Roster.filter_eq_self holds
  have leases : (l.committed.filter fun _ lease => !keepsLease now lease) = .empty :=
    Roster.filter_eq_empty ended
  have declines : (l.declined.filter fun _ expiration => !keepsDecline now expiration) = .empty :=
    Roster.filter_eq_empty past
  have struck (ends : Lease → Bool) :
      l.committed.strike (fun _ lease => !keepsLease now lease) ends = l.committed :=
    Roster.strike_eq_self ended
  refine ⟨?_, ?_, ?_⟩
  · simp only [purged, purge, book, committed, declined]
  · simp only [purgeNotes, leases, declines]
    rfl
  · simp only [purged, strikeLeases, book, struck]

theorem sweep_alike (right : l.Bounded) (now : Int) : (l.sweep now).Alike (l.purged now) := by
  unfold sweep
  split
  · rename_i early
    obtain ⟨ledger, notes, halted⟩ := purged_of_lt right early
    exact ⟨rfl, notes.symm, ledger.symm, halted.symm⟩
  · exact .refl _

end Ledger
end LeaseBook
