import LeaseBook.Proofs.Assignable
import LeaseBook.Proofs.Sweeping

/-!
What a request enters. Whichever state a client is in, the lease that it is granted fits: it stands
on an address that nobody else has, and it is the only one of its client.
-/

namespace LeaseBook

/-- Whether a demand takes up an offer, for which the client gives up the lease that it has. -/
def Demand.Selects (q : Demand) : Prop := q.requested.isSome = true ∧ q.serverChosen = true

namespace Ledger

variable {l : Ledger} {now : Int} {a : Address} {c : Client} {lease : Lease}

/-- What makes a lease fit to be entered: it is the client's, the address and the client have no
other lease than each other's, the pool has the address to give if there is none, and the time is up
one lease time from now, or when the client's lease there was up before if that is later. -/
structure Fits (now : Int) (c : Client) (lease : Lease) (l : Ledger) : Prop where
  client : lease.client.identity = c.identity
  sole : ∀ e ∈ l.committed.entries,
    e.1 = lease.address ↔ e.2.client.identity = c.identity
  assigned : l.pool.Assigns lease.address ∨ lease.address ∈ l.committed.addresses
  time : ((∀ e ∈ l.committed.entries, e.2.client.identity ≠ c.identity) ∧
      lease.expiration = now + l.pool.leaseTime) ∨
    ∃ e ∈ l.committed.entries, e.2.client.identity = c.identity ∧
      lease.expiration = max e.2.expiration (now + l.pool.leaseTime)

theorem dropLease_pool (old : Option Lease) (l : Ledger) : (l.dropLease old).pool = l.pool := by
  cases old <;> rfl

theorem dropLease_sheds (orderly : l.Orderly) (c : Client) :
    Sheds (fun e => e.2.client.identity = c.identity) l (l.dropLease (l.leaseOf c)) := by
  cases h : l.leaseOf c with
  | none => exact .refl _ l
  | some old =>
    obtain ⟨entry, its⟩ := orderly.mem_of_leaseOf h
    refine ⟨Roster.erase_sublist, .refl _, ?_, fun right =>
      right.of_sublist rfl Roster.erase_sublist (.refl _)⟩
    intro e he other
    refine Roster.mem_erase.mpr ⟨he, fun same => ?_⟩
    cases Roster.entry_unique orderly.distinct he entry same
    exact other its

/-- A lease granted on a free address is new. -/
theorem fits_new (its : ∀ e ∈ l.committed.entries, e.1 ≠ a ∧ e.2.client.identity ≠ c.identity)
    (assigned : l.pool.Assigns a) (hostname : Value) :
    Fits now c ⟨c, a, now + l.pool.leaseTime, hostname⟩ l where
  client := rfl
  sole := fun e he => iff_of_false (its e he).1 (its e he).2
  assigned := .inl assigned
  time := .inl ⟨fun e he => (its e he).2, rfl⟩

/-- A lease granted to the client that has the address is that client's lease renewed. -/
theorem fits_renewed (orderly : l.Orderly) {current : Lease}
    (entry : (current.address, current) ∈ l.committed.entries)
    (its : current.client.identity = c.identity) (hostname : Value) :
    Fits now c (current.renew (now + l.pool.leaseTime) hostname) l where
  client := by rw [Lease.renew_client, its]
  sole := by
    intro e he
    rw [Lease.renew_address]
    constructor
    · intro same
      cases Roster.entry_unique orderly.distinct he entry same
      exact its
    · intro same
      exact orderly.single e he _ entry (same.trans its.symm)
  assigned := by
    rw [Lease.renew_address]
    exact .inr (Roster.address_mem entry)
  time := .inr ⟨_, entry, its, Lease.renew_expiration _ _ _⟩

theorem holder?_eq_some {dropping : Option Lease} (h : l.holder? a dropping = some lease) :
    (a, lease) ∈ l.committed.entries ∧ dropping.map Lease.address ≠ some lease.address := by
  simp only [holder?, Option.filter_eq_some_iff, bne_iff_ne] at h
  exact ⟨Roster.mem_of_find? h.1, h.2⟩

theorem holder?_eq_none (orderly : l.Orderly) {dropping : Option Lease}
    (h : l.holder? a dropping = none) {e : Address × Lease} (he : e ∈ l.committed.entries)
    (filed : e.1 = a) : dropping.map Lease.address = some a := by
  subst filed
  have key := orderly.keyed e he
  have found := (Roster.find?_eq_some_iff orderly.distinct).mpr he
  simpa [holder?, found, key] using h

/-- What a client is granted that has no lease on another address fits at once. -/
theorem fits_of_grant (orderly : l.Orderly) {hostname : Value}
    (here : isElsewhere (l.leaseOf c) a = false)
    (h : l.grant now c a hostname none = .ok lease) : Fits now c lease l := by
  simp only [grant] at h
  split at h
  · rename_i current held
    obtain ⟨entry, _⟩ := holder?_eq_some held
    have key : current.address = a := orderly.keyed _ entry
    split at h
    · rename_i its
      cases h
      exact fits_renewed orderly (key ▸ entry) ((Lease.isOf_iff_identity _ _).mp its) hostname
    · cases h
  · rename_i free
    have vacant (e : Address × Lease) (he : e ∈ l.committed.entries) : e.1 ≠ a := by
      intro filed
      cases holder?_eq_none orderly free he filed
    split at h
    · rename_i good
      cases h
      refine fits_new (fun e he => ⟨vacant e he, ?_⟩) (Pool.assigns_iff.mpr good) hostname
      cases old : l.leaseOf c with
      | none => exact orderly.address_of_leaseOf_none old he
      | some lease =>
        have key : lease.address = a := by simpa [isElsewhere, old] using here
        exact absurd key (vacant _ (orderly.mem_of_leaseOf old).1)
    · cases h

/-- What a client is granted that gives its lease up fits once that lease is dropped. -/
theorem fits_of_grant_dropping (orderly : l.Orderly) {hostname : Value}
    (h : l.grant now c a hostname (l.leaseOf c) = .ok lease) :
    Fits now c lease (l.dropLease (l.leaseOf c)) := by
  cases old : l.leaseOf c with
  | none =>
    rw [old] at h
    have here : isElsewhere (l.leaseOf c) a = false := by rw [old]; rfl
    exact (fits_of_grant orderly here h : Fits now c lease l)
  | some x =>
    obtain ⟨own, its⟩ := orderly.mem_of_leaseOf old
    have left (e : Address × Lease) (he : e ∈ (l.dropLease (some x)).committed.entries) :
        e ∈ l.committed.entries ∧ e.1 ≠ x.address := Roster.mem_erase.mp he
    rw [old] at h
    simp only [grant] at h
    split at h
    · rename_i current held
      obtain ⟨entry, apart⟩ := holder?_eq_some held
      have key : current.address = a := orderly.keyed _ entry
      split at h
      · rename_i hers
        have same := orderly.single _ own _ entry
          (its.trans ((Lease.isOf_iff_identity _ _).mp hers).symm)
        exact absurd (congrArg some (same.trans key.symm)) apart
      · cases h
    · rename_i free
      split at h
      · rename_i good
        cases h
        have assigned : (l.dropLease (some x)).pool.Assigns a := Pool.assigns_iff.mpr good
        refine fits_new (fun e he => ⟨fun filed => ?_, fun same => ?_⟩) assigned hostname
        · have there := holder?_eq_none orderly free (left e he).1 filed
          exact (left e he).2 (filed.trans (Option.some.inj there).symm)
        · exact (left e he).2 (orderly.single e (left e he).1 _ own (same.trans its.symm))
      · cases h

/-- A request is refused and leaves everything as it is, or it enters a lease that fits once what
the client had before is dropped. Only a client that takes up an offer drops anything. -/
inductive Requested (now : Int) (q : Demand) (l : Ledger) : Outcome (Except Refusal Lease) → Prop
  | refused (refusal : Refusal) (notes : List Note) :
      Requested now q l (.plain (.error refusal) l notes)
  | granted (lease : Lease) (m : Ledger) (note : Note) (pool : m.pool = l.pool)
      (shed : Sheds (fun e => e.2.client.identity = q.client.identity) l m)
      (stays : ¬ q.Selects → m = l) (fits : Fits now q.client lease m) :
      Requested now q l (.plain (.ok lease) (m.commit lease) [note, .leaseCommitted lease])

theorem requestSwept_requested (orderly : l.Orderly) (now : Int) (q : Demand) :
    Requested now q l (l.requestSwept now q) := by
  have keeping (a : Address) (note : Note) (here : isElsewhere (l.leaseOf q.client) a = false) :
      Requested now q l (l.confirm now q a none note) := by
    unfold confirm
    split
    · exact .refused _ _
    · rename_i granted
      exact .granted _ l _ rfl (.refl _ l) (fun _ => rfl) (fits_of_grant orderly here granted)
  unfold requestSwept
  dsimp only
  split
  · rename_i asked
    split
    · rename_i chosen
      unfold confirm
      split
      · exact .refused _ _
      · rename_i granted
        have selects : q.Selects := ⟨by rw [asked]; rfl, chosen⟩
        exact .granted _ _ _ (dropLease_pool _ _) (dropLease_sheds orderly _)
          (absurd selects) (fits_of_grant_dropping orderly granted)
    · split
      · exact .refused _ _
      · rename_i here
        exact keeping _ _ (Bool.not_eq_true _ ▸ here)
  · split
    · exact .refused _ _
    · split
      · exact .refused _ _
      · rename_i here
        exact keeping _ _ (Bool.not_eq_true _ ▸ here)

theorem requestSwept_granted (orderly : l.Orderly) {q : Demand}
    (granted : (l.requestSwept now q).answer = .ok lease) :
    ∃ m, m.pool = l.pool ∧ Sheds (fun e => e.2.client.identity = q.client.identity) l m ∧
      (¬ q.Selects → m = l) ∧ Fits now q.client lease m ∧
      (l.requestSwept now q).ledger = m.commit lease := by
  have requested := requestSwept_requested orderly now q
  generalize l.requestSwept now q = o at requested granted ⊢
  cases requested with
  | refused refusal notes => cases granted
  | granted lease m note pool shed stays fits =>
    cases granted
    exact ⟨m, pool, shed, stays, fits, rfl⟩

end Ledger
end LeaseBook
