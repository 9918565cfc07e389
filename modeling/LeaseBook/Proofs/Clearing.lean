import LeaseBook.Proofs.Bound

/-!
What a sweep takes and what it leaves, to the letter. Where the bound is right it makes no
difference whether it is looked at: what has ended is gone, and all else stands as it stood, in its
order. A sweep goes through as long as the leases that it strikes out can be put into words.
-/

namespace LeaseBook.Ledger

variable {l m : Ledger} {now : Int} {a : Address}

/-- A ledger from which only what has ended is gone. The bound moves only where it is reached. -/
structure Cleared (now : Int) (l m : Ledger) : Prop where
  pool : m.pool = l.pool
  committed : m.committed = l.committed.filter fun _ lease => keepsLease now lease
  declined : m.declined = l.declined.filter fun _ expiration => keepsDecline now expiration
  early : now < l.nextCheck → m.nextCheck = l.nextCheck
  due : l.nextCheck ≤ now →
    m.nextCheck = min (earliest (m.committed.records.map Lease.expiration))
      (earliest m.declined.records)

/-- Whether all leases that have ended can be put into words. -/
def Clears (now : Int) (l : Ledger) : Prop :=
  ∀ e ∈ l.committed.entries, Ended now e → Numeral.isWritable e.2.expiration = true

instance (now : Int) (l : Ledger) : Decidable (l.Clears now) :=
  inferInstanceAs (Decidable (∀ e ∈ l.committed.entries, e.2.expiration ≤ now → _ = true))

theorem sweep_cleared (right : l.Bounded) (now : Int) : Cleared now l (l.sweep now).ledger := by
  have same : (l.sweep now).ledger.book = (l.purge now).book := (sweep_alike right now).ledger
  refine ⟨congrArg Book.pool same, congrArg Book.committed same, congrArg Book.declined same,
    ?_, ?_⟩
  · intro early
    rw [sweep, if_pos early]
    rfl
  · intro due
    rw [sweep, if_neg (Int.not_lt.mpr due)]
    rfl

theorem ended_iff_not_kept {e : Address × Lease} : Ended now e ↔ (!keepsLease now e.2) = true := by
  rw [Bool.not_eq_true', Bool.eq_false_iff, ne_eq, keepsLease_iff]
  exact Int.not_lt.symm

theorem purgeNotes_writable_iff :
    (l.purgeNotes now).all Note.isWritable = true ↔ l.Clears now := by
  -- only the notes on leases hold numbers
  simp only [purgeNotes, List.all_append, List.all_map, Bool.and_eq_true, List.all_eq_true,
    Function.comp_apply]
  constructor
  · rintro ⟨leases, _⟩ e he ended
    have struck : e.2 ∈ (l.committed.filter fun _ lease => !keepsLease now lease).records :=
      Roster.mem_records.mpr ⟨e.1, Roster.mem_filter.mpr ⟨he, ended_iff_not_kept.mp ended⟩⟩
    exact (Note.isWritable_of_numbers rfl).symm.trans (leases e.2 struck)
  · intro clears
    refine ⟨fun lease struck => ?_, fun a _ => rfl⟩
    obtain ⟨a, entry⟩ := Roster.mem_records.mp struck
    obtain ⟨old, gone⟩ := Roster.mem_filter.mp entry
    have digits := clears _ old (ended_iff_not_kept.mpr gone)
    exact (Note.isWritable_of_numbers rfl).trans digits

theorem sweep_writable_iff (right : l.Bounded) :
    (l.sweep now).notes.all Note.isWritable = true ↔ l.Clears now := by
  rw [(sweep_alike right now).notes]
  exact purgeNotes_writable_iff

theorem clears_of_lives (lives : ∀ e ∈ l.committed.entries, ¬ Ended now e) : l.Clears now :=
  fun e he ended => absurd ended (lives e he)

theorem Cleared.lives (cleared : Cleared now l m) : ∀ e ∈ m.committed.entries, ¬ Ended now e := by
  intro e he
  rw [cleared.committed] at he
  exact Int.not_le.mpr (keepsLease_iff.mp (Roster.mem_filter.mp he).2)

theorem Cleared.declined_iff (cleared : Cleared now l m) :
    a ∈ m.declined.addresses ↔ ∃ expiration, (a, expiration) ∈ l.declined.entries ∧
      now < expiration := by
  simp only [Roster.mem_addresses, cleared.declined, Roster.mem_filter, keepsDecline,
    decide_eq_true_eq]

/-- Whether all leases can be put into words. -/
def Worded (l : Ledger) : Prop :=
  ∀ e ∈ l.committed.entries, Numeral.isWritable e.2.expiration = true

theorem Worded.clears (worded : l.Worded) (now : Int) : l.Clears now :=
  fun e he _ => worded e he

theorem worded_turn {t : Turn} (orderly : l.Orderly) (worded : l.Worded)
    (whole : ∀ q, t.call.operation = .ok (.request q) → (t.run l).answer ≠ .error .longNumber) :
    (t.run l).ledger.Worded := by
  refine every_turn orderly worded fun q lease m enters => ?_
  have answered := enters.answered
  split at answered
  · rename_i writable
    exact writable
  · exact absurd answered (whole q enters.read)

end LeaseBook.Ledger
