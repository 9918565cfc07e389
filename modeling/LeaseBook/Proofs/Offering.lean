import LeaseBook.Ledger.Offer
import LeaseBook.Proofs.Assignable
import LeaseBook.Proofs.Sweeping

/-!
What is offered. A client that has a lease is offered it renewed; any other is offered an address
that nobody has and that the pool does not pass over, for one lease time. Nothing is committed, and
only where a declined address is recycled are declines struck out.
-/

namespace LeaseBook.Ledger

variable {l : Ledger} {now : Int} {a : Address} {lease : Lease} {refusal : Refusal} {q : Discovery}

/-- An offer is refused and leaves everything as it is, or it repeats the lease of the client, or it
is of an address that nobody has. -/
inductive Quoted (now : Int) (q : Discovery) (l : Ledger) : Outcome (Except Refusal Lease) → Prop
  | refused (refusal : Refusal) (notes : List Note) :
      Quoted now q l (.plain (.error refusal) l notes)
  | own (current : Lease) (found : l.leaseOf q.client = some current) (notes : List Note)
      (words : notes.all Note.isWritable =
        Numeral.isWritable (current.renew (now + l.pool.leaseTime) q.hostname).expiration) :
      Quoted now q l
        (.plain (.ok (current.renew (now + l.pool.leaseTime) q.hostname)) l notes)
  | fresh (a : Address) (rest : Roster Int) (notes : List Note)
      (inside : l.pool.contains a = true ∨ a ∈ l.declined.addresses)
      (valid : l.pool.isValid a = true) (available : l.isAvailable a = true)
      (fewer : rest.entries.Sublist l.declined.entries)
      (words : notes.all Note.isWritable = Numeral.isWritable (now + l.pool.leaseTime)) :
      Quoted now q l
        (.plain (.ok ⟨q.client, a, now + l.pool.leaseTime, q.hostname⟩)
          { l with declined := rest } notes)

theorem offerNew_quoted (now : Int) (q : Discovery) (l : Ledger) :
    Quoted now q l (l.offerNew (now + l.pool.leaseTime) q) := by
  have words (lease : Lease) : (Note.offeringNew lease).isWritable =
      Numeral.isWritable lease.expiration := Note.isWritable_of_numbers rfl
  unfold offerNew
  split
  · rename_i a found
    unfold freeAddress? at found
    rw [Pool.findCandidate_eq_find?] at found
    obtain ⟨k, same⟩ := Pool.eq_valid_of_mem_candidates (List.mem_of_find?_eq_some found)
    have good := List.find?_some found
    rw [Bool.and_eq_true] at good
    have inside : l.pool.contains a = true := same ▸ l.pool.contains_valid k
    have valid : l.pool.isValid a = true := same ▸ l.pool.isValid_valid k
    refine .fresh a l.declined _ (.inl inside) valid good.1 (.refl _) ?_
    simp only [List.all_cons, List.all_nil, words, Bool.and_true]
  · split
    · rename_i a rest found
      obtain ⟨good, fewer⟩ := Roster.cut?_sublist found
      rw [Bool.and_eq_true] at good
      refine .fresh a rest _ (.inr (Roster.cut?_mem found)) good.1 good.2 fewer ?_
      have recycling : (Note.recycling a).isWritable = true := rfl
      simp only [List.all_cons, List.all_nil, words, recycling, Bool.true_and, Bool.and_true]
    · exact .refused _ _

theorem offerSwept_quoted (now : Int) (q : Discovery) (l : Ledger) :
    Quoted now q l (l.offerSwept now q) := by
  unfold offerSwept
  dsimp only
  split
  · rename_i current found
    refine .own current found _ ?_
    have words := Note.isWritable_of_numbers (n := .offeringExtended
      (current.renew (now + l.pool.leaseTime) q.hostname)) rfl
    simp only [List.all_cons, List.all_nil, words, Bool.and_true]
  · split
    · rename_i a asked
      obtain ⟨_, good⟩ := Option.filter_eq_some_iff.mp asked
      simp only [isOfferable, Bool.and_eq_true] at good
      refine .fresh a l.declined _ (.inl good.1.1) good.1.2 good.2 (.refl _) ?_
      have words := Note.isWritable_of_numbers (n := .offeringRequested
        ⟨q.client, a, now + l.pool.leaseTime, q.hostname⟩) rfl
      simp only [List.all_cons, List.all_nil, words, Bool.and_true]
    · split
      · exact .refused _ _
      · split
        · exact .refused _ _
        · exact offerNew_quoted now q l

/-- An offer leaves the leases alone, and strikes out declines at most. -/
theorem offerSwept_leaves (p : Address × Lease → Prop) (now : Int) (q : Discovery) (l : Ledger) :
    (l.offerSwept now q).Leaves fun m => m.pool = l.pool ∧ Sheds p l m := by
  have quoted := offerSwept_quoted now q l
  generalize l.offerSwept now q = o at quoted ⊢
  cases quoted with
  | refused refusal notes => exact Outcome.leaves_plain ⟨rfl, .refl p l⟩
  | own current found notes words => exact Outcome.leaves_plain ⟨rfl, .refl p l⟩
  | fresh a rest notes inside valid available fewer words =>
    exact Outcome.leaves_plain ⟨rfl, .refl _, fewer, fun _ he _ => he, fun right =>
      right.of_sublist rfl (.refl _) fewer⟩

theorem offerSwept_refused (h : (l.offerSwept now q).answer = .error refusal) :
    (l.offerSwept now q).ledger = l := by
  have quoted := offerSwept_quoted now q l
  generalize l.offerSwept now q = o at quoted h ⊢
  cases quoted with
  | refused refusal notes => rfl
  | own current found notes words => cases h
  | fresh a rest notes inside valid available fewer words => cases h

theorem vacant_of_isAvailable (free : l.isAvailable a = true) : a ∉ l.committed.addresses := by
  simp only [isAvailable, Bool.and_eq_true, Bool.not_eq_true'] at free
  exact Roster.contains_eq_false_iff.mp free.2

/-- What a client is offered is its own or nobody's. -/
theorem offerSwept_open (orderly : l.Orderly)
    (h : (l.offerSwept now q).answer = .ok lease) :
    ∀ e ∈ l.committed.entries, e.1 = lease.address → e.2.client.identity = q.client.identity := by
  have quoted := offerSwept_quoted now q l
  generalize l.offerSwept now q = o at quoted h
  intro e he filed
  cases quoted with
  | refused refusal notes => cases h
  | own current found notes words =>
    cases h
    obtain ⟨entry, its⟩ := orderly.mem_of_leaseOf found
    rw [Lease.renew_address] at filed
    cases Roster.entry_unique orderly.distinct he entry filed
    exact its
  | fresh a rest notes inside valid available fewer words =>
    cases h
    have here : e.1 = a := filed
    exact absurd (here ▸ Roster.address_mem he) (vacant_of_isAvailable available)

end LeaseBook.Ledger
