import LeaseBook.Proofs.Invariant

/-!
What sweeping leaves behind, and with it every operation that only strikes entries out. An operation
ends where it should or where a note cannot be put into words; either way only entries that have
ended are gone.
-/

namespace LeaseBook

namespace Outcome

variable {α β : Type} {P Q : Ledger → Prop} {o : Outcome α}

/-- Whatever an outcome leaves behind, at its end or where it halts, has a property. -/
def Leaves (P : Ledger → Prop) (o : Outcome α) : Prop := P o.ledger ∧ P o.halted

theorem leaves_plain {answer : α} {l : Ledger} {notes : List Note} (h : P l) :
    (plain answer l notes).Leaves P := ⟨h, h⟩

theorem Leaves.mono (h : o.Leaves P) (weaker : ∀ l, P l → Q l) : o.Leaves Q :=
  ⟨weaker _ h.1, weaker _ h.2⟩

theorem Leaves.map {f : α → β} (h : o.Leaves P) : (o.map f).Leaves P := h

theorem Leaves.written (h : o.Leaves P) : P o.written.ledger := by
  unfold Outcome.written
  split
  · exact h.1
  · exact h.2

theorem andThen_halted (first : Outcome Unit) (operation : Ledger → Outcome α) :
    (first.andThen operation).halted = (operation first.ledger).halted ∨
      (first.andThen operation).halted = first.halted := by
  unfold andThen
  dsimp only
  split
  · exact .inl rfl
  · exact .inr rfl

theorem leaves_andThen {first : Outcome Unit} {operation : Ledger → Outcome α}
    (halts : P first.halted) (ends : (operation first.ledger).Leaves P) :
    (first.andThen operation).Leaves P := by
  refine ⟨ends.1, ?_⟩
  rcases andThen_halted first operation with later | earlier
  · exact later ▸ ends.2
  · exact earlier ▸ halts

/-- Either all notes are put into words, or the outcome is what is left where it halts. -/
theorem written_cases (o : Outcome α) :
    (o.notes.all Note.isWritable = true ∧ o.written.answer = .ok o.answer ∧
      o.written.ledger = o.ledger) ∨
    (o.notes.all Note.isWritable = false ∧ o.written.answer = .error .longNumber ∧
      o.written.ledger = o.halted) := by
  unfold written
  cases all : o.notes.all Note.isWritable with
  | true => exact .inl ⟨rfl, rfl, rfl⟩
  | false => exact .inr ⟨rfl, rfl, rfl⟩

theorem written_answer (o : Outcome α) : o.written.answer =
    if o.notes.all Note.isWritable then .ok o.answer else .error .longNumber := by
  unfold written
  split
  · rfl
  · rfl

theorem written_of_ok {answer : α} (h : o.written.answer = .ok answer) :
    o.answer = answer ∧ o.written.ledger = o.ledger ∧ o.notes.all Note.isWritable = true := by
  rcases written_cases o with ⟨all, ended, left⟩ | ⟨_, halted, _⟩
  · rw [ended] at h
    exact ⟨Except.ok.inj h, left, all⟩
  · rw [halted] at h
    cases h

end Outcome

namespace Ledger

variable {l m : Ledger} {now : Int} {a : Address} {c : Client} {lease : Lease}

theorem earliest_le (instants : List Int) :
    earliest instants ≤ Lease.never ∧ ∀ i ∈ instants, earliest instants ≤ i := by
  have fold (bound : Int) : instants.foldl min bound ≤ bound ∧
      ∀ i ∈ instants, instants.foldl min bound ≤ i := by
    induction instants generalizing bound with
    | nil => simp
    | cons i rest ih =>
      obtain ⟨lower, below⟩ := ih (min bound i)
      simp only [List.foldl_cons, List.mem_cons, forall_eq_or_imp]
      exact ⟨by omega, by omega, below⟩
  exact fold Lease.never

/-- After a purge the bound is right, whatever it was before. -/
theorem bounded_purge (now : Int) (l : Ledger) : (l.purge now).Bounded where
  never := by
    have := (earliest_le (l.purge now).declined.records).1
    simp only [purge] at this ⊢
    omega
  committed := by
    intro e he
    have filed : e.2.expiration ∈ (l.purge now).committed.records.map Lease.expiration :=
      List.mem_map_of_mem (List.mem_map_of_mem he)
    have := (earliest_le _).2 _ filed
    simp only [purge] at this ⊢
    omega
  declined := by
    intro e he
    have filed : e.2 ∈ (l.purge now).declined.records := List.mem_map_of_mem he
    have := (earliest_le _).2 _ filed
    simp only [purge] at this ⊢
    omega

/-- Whether an entry has ended at an instant. -/
def Ended (now : Int) (e : Address × Lease) : Prop := e.2.expiration ≤ now

theorem keepsLease_iff : keepsLease now lease = true ↔ now < lease.expiration := by
  simp [keepsLease, Lease.isExpired]

theorem purge_sheds (now : Int) (l : Ledger) : Sheds (Ended now) l (l.purge now) where
  committed := Roster.filter_sublist
  declined := Roster.filter_sublist
  spared := by
    intro e he live
    have keeps : keepsLease now e.2 = true := keepsLease_iff.mpr (Int.not_le.mp live)
    exact Roster.mem_filter.mpr ⟨he, keeps⟩
  bounded := fun _ => bounded_purge now l

theorem strikeLeases_sheds (note : Lease → Note) (gone : Address → Lease → Bool) (l : Ledger) :
    Sheds (fun e => gone e.1 e.2 = true) l (l.strikeLeases note gone) where
  committed := Roster.strike_sublist
  declined := .refl _
  spared := fun _ he kept => Roster.mem_strike he (Bool.not_eq_true _ ▸ kept)
  bounded := fun right => right.of_sublist rfl Roster.strike_sublist (.refl _)

theorem purged_leaves (now : Int) (l : Ledger) :
    (l.purged now).Leaves fun m => m.pool = l.pool ∧ Sheds (Ended now) l m := by
  refine ⟨⟨rfl, purge_sheds now l⟩, rfl, ?_⟩
  refine (strikeLeases_sheds _ _ l).mono fun e gone => ?_
  simpa [Ended, keepsLease, Lease.isExpired] using gone

theorem sweep_leaves (now : Int) (l : Ledger) :
    (l.sweep now).Leaves fun m => m.pool = l.pool ∧ Sheds (Ended now) l m := by
  unfold sweep
  split
  · exact Outcome.leaves_plain ⟨rfl, .refl _ l⟩
  · exact purged_leaves now l

theorem orderly_sweep {l : Ledger} (orderly : l.Orderly) (now : Int) :
    (l.sweep now).ledger.Orderly :=
  (sweep_leaves now l).1.2.orderly orderly

end Ledger
end LeaseBook
