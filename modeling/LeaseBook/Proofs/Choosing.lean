import LeaseBook.Proofs.Deciding
import LeaseBook.Proofs.Walking

/-!
Which address a client is offered. It is offered its own lease, or else the address that it wishes
for. If it can be offered neither, and neither it nor its relay speaks from another subnet, it is
offered the first free address that comes around the subnet from its seed, and failing that the
oldest declined one that nobody has. Nothing is committed. Declines are struck out only in the last
case: the one that is offered and all that are older.
-/

namespace LeaseBook

namespace Pool

/-- Whether an address is given, other than 0.0.0.0, that lies outside the subnet. -/
def Strays (p : Pool) (given : Option Address) : Prop :=
  ∃ a, given = some a ∧ a ≠ .unspecified ∧ p.contains a = false

/-- The walk of a client finds what comes first around the subnet from its seed. -/
theorem find?_candidates (p : Pool) (h : Hardware) (ok : Address → Bool) :
    (p.candidates h).find? ok =
      (p.ring (p.seed h) p.size).find? fun a => p.isValid a && ok a := by
  have covers : (p.lap (p.seed h)).length ≤ p.size := by
    have whole := List.length_filter_le p.isValid (p.ring (p.seed h) p.size)
    rwa [length_ring] at whole
  have first : (p.candidates h).find? ok = (p.lap (p.seed h)).find? ok := by
    rw [candidates_eq_take, List.take_append, List.take_of_length_le covers, List.find?_append]
    -- what is tried a second time was tried before
    cases found : (p.lap (p.seed h)).find? ok with
    | some a => rfl
    | none =>
      rw [List.find?_eq_none] at found
      exact List.find?_eq_none.mpr fun a again => found a (List.mem_of_mem_take again)
  rw [first, lap, List.find?_filter]
  simp

end Pool

namespace Ledger

variable {l m : Ledger} {now : Int} {a : Address} {h : Hardware} {q : Discovery} {t : Turn}
  {lease : Lease} {r : Except Refusal Lease} {rest : Roster Int} {given : Option Address}

/-- Whether the pool has an address to give and nobody has it. -/
def Untaken (a : Address) (l : Ledger) : Prop :=
  l.pool.Assigns a ∧ a ∉ l.committed.addresses

/-- Whether an address is untaken and not declined. -/
def Free (a : Address) (l : Ledger) : Prop := l.Untaken a ∧ a ∉ l.declined.addresses

instance (a : Address) (l : Ledger) : Decidable (l.Untaken a) :=
  inferInstanceAs (Decidable (_ ∧ _ ∉ _))

instance (a : Address) (l : Ledger) : Decidable (l.Free a) :=
  inferInstanceAs (Decidable (_ ∧ _ ∉ _))

theorem untaken_iff_vacant : l.Untaken a ↔ l.Vacant a := by
  rw [Untaken, Vacant, isAvailable, Bool.and_eq_true, Bool.not_eq_true', Bool.not_eq_true',
    Roster.contains_eq_false_iff]
  constructor
  · rintro ⟨⟨_, valid, unreserved⟩, free⟩
    exact ⟨valid, unreserved, free⟩
  · rintro ⟨valid, unreserved, free⟩
    exact ⟨⟨Pool.contains_of_isValid valid, valid, unreserved⟩, free⟩

theorem isOfferable_iff : l.isOfferable a = true ↔ l.Untaken a := by
  rw [isOfferable, Bool.and_assoc, Bool.and_eq_true, ← vacant_iff, ← untaken_iff_vacant]
  exact and_iff_right_of_imp fun untaken => untaken.1.1

theorem isOutside_iff : l.isOutside given = true ↔ l.pool.Strays given := by
  unfold isOutside Pool.Strays
  cases given with
  | none => simp
  | some a => simp

theorem freeAddress?_eq_some_iff : l.freeAddress? h = some a ↔ l.Free a ∧
    ∃ before after, l.pool.ring (l.pool.seed h) l.pool.size = before ++ a :: after ∧
      ∀ b ∈ before, ¬ l.Free b := by
  have free (b : Address) :
      (l.pool.isValid b && (l.isAvailable b && !l.declined.contains b)) = true ↔ l.Free b := by
    rw [← Bool.and_assoc, Bool.and_eq_true, ← vacant_iff, ← untaken_iff_vacant,
      Bool.not_eq_true', Roster.contains_eq_false_iff]
    rfl
  unfold freeAddress?
  rw [Pool.findCandidate_eq_find?, Pool.find?_candidates, List.find?_eq_some_iff_append, free]
  simp only [Bool.not_eq_true', Bool.eq_false_iff, ne_eq, free]

theorem freeAddress?_eq_none (nothing : ∀ a, ¬ l.Free a) : l.freeAddress? h = none :=
  Option.eq_none_iff_forall_not_mem.mpr fun a found =>
    nothing a (freeAddress?_eq_some_iff.mp found).1

/-- Whether a client has no lease and cannot be offered the address that it wishes for. -/
structure Unmet (q : Discovery) (l : Ledger) : Prop where
  without : ∀ e ∈ l.committed.entries, e.2.client.identity ≠ q.client.identity
  wish : ∀ a, q.requested = some a → ¬ l.Untaken a

/-- Whether an address is to be looked for that a client did not ask for. -/
structure Seeks (q : Discovery) (l : Ledger) : Prop extends Unmet q l where
  source : ¬ l.pool.Strays q.source
  relay : ¬ l.pool.Strays q.relay

/-- What a client is to be offered, or why not, and the declines that remain. -/
inductive Choice (now : Int) (q : Discovery) (l : Ledger) :
    Except Refusal Lease → Roster Int → Prop
  | own {e : Address × Lease} (entry : e ∈ l.committed.entries)
      (its : e.2.client.identity = q.client.identity) :
      Choice now q l (.ok (e.2.prolonged (now + l.pool.leaseTime) q.hostname)) l.declined
  | wished {a : Address}
      (without : ∀ e ∈ l.committed.entries, e.2.client.identity ≠ q.client.identity)
      (wish : q.requested = some a) (untaken : l.Untaken a) :
      Choice now q l (.ok ⟨q.client, a, now + l.pool.leaseTime, q.hostname⟩) l.declined
  | sourceOutside (unmet : l.Unmet q) (strays : l.pool.Strays q.source) :
      Choice now q l (.error .sourceOutside) l.declined
  | relayOutside (unmet : l.Unmet q) (source : ¬ l.pool.Strays q.source)
      (strays : l.pool.Strays q.relay) :
      Choice now q l (.error .relayOutside) l.declined
  | searched {before after : List Address} {a : Address} (seeks : l.Seeks q)
      (around : l.pool.ring (l.pool.seed q.client.hardware) l.pool.size = before ++ a :: after)
      (passed : ∀ b ∈ before, ¬ l.Free b) (free : l.Free a) :
      Choice now q l (.ok ⟨q.client, a, now + l.pool.leaseTime, q.hostname⟩) l.declined
  | recycled {older newer : List (Address × Int)} {a : Address} {expiration : Int}
      (seeks : l.Seeks q) (nothing : ∀ b, ¬ l.Free b)
      (declines : l.declined.entries = older ++ (a, expiration) :: newer)
      (passed : ∀ e ∈ older, ¬ l.Untaken e.1) (untaken : l.Untaken a) :
      Choice now q l (.ok ⟨q.client, a, now + l.pool.leaseTime, q.hostname⟩) ⟨newer⟩
  | exhausted (seeks : l.Seeks q) (nothing : ∀ b, ¬ l.Free b)
      (declines : ∀ b ∈ l.declined.addresses, ¬ l.Untaken b) :
      Choice now q l (.error .exhausted) l.declined

/- The offer from a swept ledger. -/

theorem offerSwept_of_own (orderly : l.Orderly) {e : Address × Lease}
    (entry : e ∈ l.committed.entries) (its : e.2.client.identity = q.client.identity) :
    ∃ notes, l.offerSwept now q =
      .plain (.ok (e.2.renew (now + l.pool.leaseTime) q.hostname)) l notes := by
  have own : l.leaseOf q.client = some e.2 :=
    orderly.leaseOf_iff.mpr ⟨List.mem_map_of_mem entry, its⟩
  simp only [offerSwept, own]
  exact ⟨_, rfl⟩

theorem offerSwept_of_wish (orderly : l.Orderly)
    (without : ∀ e ∈ l.committed.entries, e.2.client.identity ≠ q.client.identity)
    (wish : q.requested = some a) (untaken : l.Untaken a) :
    ∃ notes, l.offerSwept now q =
      .plain (.ok ⟨q.client, a, now + l.pool.leaseTime, q.hostname⟩) l notes := by
  have none := orderly.leaseOf_eq_none_iff.mpr without
  have offerable := isOfferable_iff.mpr untaken
  simp only [offerSwept, none, wish, Option.filter_some, offerable, if_true]
  exact ⟨_, rfl⟩

theorem offerSwept_of_unmet (orderly : l.Orderly) (unmet : l.Unmet q) (now : Int) :
    l.offerSwept now q =
      if l.isOutside q.source then .plain (.error .sourceOutside) l []
      else if l.isOutside q.relay then .plain (.error .relayOutside) l []
      else l.offerNew (now + l.pool.leaseTime) q := by
  have none := orderly.leaseOf_eq_none_iff.mpr unmet.without
  have refused : q.requested.filter l.isOfferable = Option.none := by
    rw [Option.filter_eq_none_iff]
    exact fun a wish offerable => unmet.wish a wish (isOfferable_iff.mp offerable)
  simp only [offerSwept, none, refused]

theorem offerSwept_of_seeks (orderly : l.Orderly) (seeks : l.Seeks q) (now : Int) :
    l.offerSwept now q = l.offerNew (now + l.pool.leaseTime) q := by
  rw [offerSwept_of_unmet orderly seeks.toUnmet, if_neg (mt isOutside_iff.mp seeks.source),
    if_neg (mt isOutside_iff.mp seeks.relay)]

theorem offerNew_of_free {expiration : Int} (found : l.freeAddress? q.client.hardware = some a) :
    ∃ notes, l.offerNew expiration q =
      .plain (.ok ⟨q.client, a, expiration, q.hostname⟩) l notes := by
  simp only [offerNew, found]
  exact ⟨_, rfl⟩

theorem cut?_untaken_iff :
    l.declined.cut? (fun b => l.pool.isValid b && l.isAvailable b) = some (a, rest) ↔
      l.Untaken a ∧ ∃ older expiration,
        l.declined.entries = older ++ (a, expiration) :: rest.entries ∧
          ∀ e ∈ older, ¬ l.Untaken e.1 := by
  simp only [Roster.cut?_eq_some_iff, Bool.eq_false_iff, ne_eq, ← vacant_iff,
    ← untaken_iff_vacant]

theorem offerNew_of_recycled {expiration : Int} (nothing : ∀ b, ¬ l.Free b)
    (cut : l.declined.cut? (fun b => l.pool.isValid b && l.isAvailable b) = some (a, rest)) :
    ∃ notes, l.offerNew expiration q =
      .plain (.ok ⟨q.client, a, expiration, q.hostname⟩) { l with declined := rest } notes := by
  simp only [offerNew, freeAddress?_eq_none nothing, cut]
  exact ⟨_, rfl⟩

theorem offerNew_of_nothing {expiration : Int} (nothing : ∀ b, ¬ l.Free b)
    (declines : ∀ b ∈ l.declined.addresses, ¬ l.Untaken b) :
    ∃ notes, l.offerNew expiration q = .plain (.error .exhausted) l notes := by
  have uncut : l.declined.cut? (fun b => l.pool.isValid b && l.isAvailable b) = none := by
    refine Option.eq_none_iff_forall_not_mem.mpr fun found cut => ?_
    exact declines _ (Roster.cut?_mem cut) (cut?_untaken_iff.mp cut).1
  simp only [offerNew, freeAddress?_eq_none nothing, uncut]
  exact ⟨_, rfl⟩

theorem offerSwept_of_choice (orderly : l.Orderly) (choice : l.Choice now q r rest) :
    ∃ notes, l.offerSwept now q = .plain r { l with declined := rest } notes := by
  cases choice with
  | own entry its =>
    rw [← Lease.renew_eq_prolonged]
    exact offerSwept_of_own orderly entry its
  | wished without wish untaken => exact offerSwept_of_wish orderly without wish untaken
  | sourceOutside unmet strays =>
    rw [offerSwept_of_unmet orderly unmet, if_pos (isOutside_iff.mpr strays)]
    exact ⟨_, rfl⟩
  | relayOutside unmet source strays =>
    rw [offerSwept_of_unmet orderly unmet, if_neg (mt isOutside_iff.mp source),
      if_pos (isOutside_iff.mpr strays)]
    exact ⟨_, rfl⟩
  | searched seeks around passed free =>
    rw [offerSwept_of_seeks orderly seeks]
    exact offerNew_of_free (freeAddress?_eq_some_iff.mpr ⟨free, _, _, around, passed⟩)
  | recycled seeks nothing declines passed untaken =>
    rw [offerSwept_of_seeks orderly seeks]
    exact offerNew_of_recycled nothing
      (cut?_untaken_iff.mpr ⟨untaken, _, _, declines, passed⟩)
  | exhausted seeks nothing declines =>
    rw [offerSwept_of_seeks orderly seeks]
    exact offerNew_of_nothing nothing declines

theorem exists_choice_of_seeks (seeks : l.Seeks q) (now : Int) :
    ∃ r rest, l.Choice now q r rest := by
  cases found : l.freeAddress? q.client.hardware with
  | some a =>
    obtain ⟨free, before, after, around, passed⟩ := freeAddress?_eq_some_iff.mp found
    exact ⟨_, _, .searched seeks around passed free⟩
  | none =>
    have nothing (b : Address) : ¬ l.Free b := fun free =>
      free.2 (freeAddress?_eq_none_iff.mp found b (untaken_iff_vacant.mp free.1))
    cases cut : l.declined.cut? fun b => l.pool.isValid b && l.isAvailable b with
    | some found =>
      obtain ⟨untaken, older, expiration, declines, passed⟩ := cut?_untaken_iff.mp cut
      exact ⟨_, _, .recycled seeks nothing declines passed untaken⟩
    | none =>
      refine ⟨_, _, .exhausted seeks nothing fun b there untaken => ?_⟩
      have missed := Roster.cut?_eq_none cut b there
      exact Bool.eq_false_iff.mp missed (vacant_iff.mp (untaken_iff_vacant.mp untaken))

/-- There always is something that a client is to be offered, or a reason not to. -/
theorem exists_choice (q : Discovery) (l : Ledger) (now : Int) :
    ∃ r rest, l.Choice now q r rest := by
  by_cases own : ∃ e ∈ l.committed.entries, e.2.client.identity = q.client.identity
  · obtain ⟨e, entry, its⟩ := own
    exact ⟨_, _, .own entry its⟩
  by_cases wish : ∃ a, q.requested = some a ∧ l.Untaken a
  · obtain ⟨a, wish, untaken⟩ := wish
    exact ⟨_, _, .wished (fun e he its => own ⟨e, he, its⟩) wish untaken⟩
  have unmet : l.Unmet q :=
    ⟨fun e he its => own ⟨e, he, its⟩, fun a asked untaken => wish ⟨a, asked, untaken⟩⟩
  by_cases source : l.pool.Strays q.source
  · exact ⟨_, _, .sourceOutside unmet source⟩
  by_cases relay : l.pool.Strays q.relay
  · exact ⟨_, _, .relayOutside unmet source relay⟩
  exact exists_choice_of_seeks ⟨unmet, source, relay⟩ now

/-- An offer strikes out what has ended, and then it is answered with what the client is to be
offered, as far as that can be put into words, or with the reason why it is offered nothing. There
always is one of these, and it leaves what the sweep has left, except for the declines that it takes.
All this as long as the leases that have ended can be put into words; if they cannot, the offer
fails. -/
theorem offer_chosen (pool : Pool) (turns : List Turn) {t : Turn} {q : Discovery}
    (read : t.call.operation = .ok (.offer q)) :
    let l := (opening pool).ledger.after turns
    let m := (l.sweep t.now).ledger
    let o := t.run l
    Cleared t.now l m ∧
    (∃ r rest, m.Choice t.now q r rest) ∧
    (l.Clears t.now → ∀ r rest, m.Choice t.now q r rest →
      o.answer = Answer.worded r ∧ o.ledger = { m with declined := rest }) ∧
    (¬ l.Clears t.now → o.answer = .error .longNumber) := by
  intro l m o
  have orderly : l.Orderly := orderly_after (orderly_fresh pool) turns
  have right : l.Bounded := bounded_after (orderly_fresh pool) (bounded_fresh pool) turns
  have swept : m.Orderly := orderly_sweep orderly t.now
  refine ⟨sweep_cleared right t.now, exists_choice q m t.now, fun clears r rest choice => ?_,
    fun clears => offer_turn_of_not_clears right clears read⟩
  obtain ⟨notes, offered⟩ := offerSwept_of_choice swept choice
  obtain ⟨answered, left⟩ := offer_turn right clears read
  have settled : m.offerSwept t.now q = .plain r { m with declined := rest } notes := offered
  rw [settled] at answered left
  exact ⟨answered, left⟩

/-- A client wishes for the address where its search starts, but another one has that. -/
theorem offer_passes_taken :
    let l := (opening (.home 1000)).ledger.after [.select 0 (.plain 1) (.home 2)]
    let t := Turn.discover 500 (.plain 2) (.home 2)
    let found : Lease := ⟨.plain 2, .home 3, 1500, .null⟩
    (t.run l).answer = .ok (.lease found) ∧ (t.run l).ledger = (l.sweep t.now).ledger := by
  intro l t found
  have read : t.call.operation =
    .ok (.offer ⟨.plain 2, none, none, some (.home 2), .null⟩) := rfl
  obtain ⟨_, _, settled, _⟩ :=
    offer_chosen (.home 1000) [.select 0 (.plain 1) (.home 2)] read
  let m := (l.sweep t.now).ledger
  have silent : ¬ m.pool.Strays none := by
    rintro ⟨a, given, _⟩
    cases given
  have unmet : m.Unmet ⟨.plain 2, none, none, some (.home 2), .null⟩ := by
    refine ⟨by decide +kernel, fun a asked => ?_⟩
    cases asked
    decide +kernel
  have around : m.pool.ring (m.pool.seed (Client.plain 2).hardware) m.pool.size =
      [.home 2] ++ .home 3 :: m.pool.ring 4 254 := by decide +kernel
  have choice : m.Choice t.now ⟨.plain 2, none, none, some (.home 2), .null⟩
      (.ok ⟨.plain 2, .home 3, 500 + (m.pool.leaseTime : Int), .null⟩) m.declined :=
    .searched ⟨unmet, silent, silent⟩ around (by decide +kernel) (by decide +kernel)
  have lasts : m.pool.leaseTime = 1000 := by decide +kernel
  rw [lasts] at choice
  obtain ⟨answered, left⟩ := settled (by decide +kernel) _ _ choice
  have writable : Numeral.isWritable 1500 = true := by decide +kernel
  have said : Answer.worded (.ok found) = .ok (.lease found) :=
    Answer.worded_of_writable writable
  unfold l
  refine ⟨answered.trans said, ?_⟩
  rw [left]

/-- Nobody has the address that a client wishes for, but the end of the lease is too long for
words. -/
theorem wished_offer_fails :
    let l := (opening (.home (10 ^ 4300 - 1))).ledger
    let t := Turn.discover 1 (.plain 1) (.home 10)
    (∀ e ∈ (l.sweep 1).ledger.committed.entries,
      e.2.client.identity ≠ (Client.plain 1).identity) ∧
      (l.sweep 1).ledger.Untaken (.home 10) ∧ (t.run l).answer = .error .longNumber := by
  intro l t
  let m := (l.sweep 1).ledger
  let lease : Lease := ⟨.plain 1, .home 10, 1 + (m.pool.leaseTime : Int), .null⟩
  have without : ∀ e ∈ m.committed.entries,
      e.2.client.identity ≠ (Client.plain 1).identity := by decide +kernel
  have untaken : m.Untaken (.home 10) := by decide +kernel
  have long : Numeral.isWritable lease.expiration = false := by decide +kernel
  have read : t.call.operation =
    .ok (.offer ⟨.plain 1, none, none, some (.home 10), .null⟩) := rfl
  have right : l.Bounded := bounded_fresh _
  have swept : m.Orderly := orderly_sweep (orderly_fresh _) 1
  obtain ⟨notes, offered⟩ := offerSwept_of_wish
    (q := ⟨.plain 1, none, none, some (.home 10), .null⟩) swept without rfl untaken
  have clears : l.Clears t.now := by decide +kernel
  obtain ⟨answered, _⟩ := offer_turn right clears read
  have settled : ((l.sweep t.now).ledger.offerSwept t.now
      ⟨.plain 1, none, none, some (.home 10), .null⟩).answer = .ok lease :=
    congrArg Outcome.answer offered
  rw [settled] at answered
  exact ⟨without, untaken, answered.trans (Answer.worded_of_long long)⟩

end Ledger
end LeaseBook
