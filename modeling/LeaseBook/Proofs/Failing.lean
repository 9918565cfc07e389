import LeaseBook.Proofs.Clearing

/-!
What calls leave behind that do not get what they ask for. A call that cannot be read changes
nothing at all; neither do a release that finds no lease and a decline that has nothing to withhold.
A client that is refused an offer or a request has made the ledger be swept, and nothing else. Only
a new pool can be answered with a fault when it is in service already: what it drops is put into
words one by one, and so is the pool itself in the end.
-/

namespace LeaseBook

theorem Answer.ofLease_eq_refused {r : Except Refusal Lease} {refusal : Refusal}
    (h : Answer.ofLease r = .refused refusal) : r = .error refusal := by
  cases r with
  | ok lease => cases h
  | error other =>
    cases h
    rfl

namespace Ledger

variable {l : Ledger} {now : Int} {a : Address} {c : Client} {refusal : Refusal}
  {op : Operation}

/- Refusals. -/

theorem requestSwept_refused (orderly : l.Orderly) {q : Demand}
    (h : (l.requestSwept now q).answer = .error refusal) : (l.requestSwept now q).ledger = l := by
  have requested := requestSwept_requested orderly now q
  generalize l.requestSwept now q = o at requested h ⊢
  cases requested with
  | refused _ _ => rfl
  | granted lease m note _ _ _ _ => cases h

/-- Whoever is refused has made the ledger be swept, and nothing else. -/
theorem run_refused (orderly : l.Orderly)
    (h : (op.run now l).written.answer = .ok (.refused refusal)) :
    (op.run now l).written.ledger = (l.sweep now).ledger := by
  have swept : (l.sweep now).ledger.Orderly := orderly_sweep orderly now
  obtain ⟨refused, left, _⟩ := Outcome.written_of_ok h
  rw [left]
  cases op with
  | offer q => exact offerSwept_refused (Answer.ofLease_eq_refused refused)
  | request q => exact requestSwept_refused swept (Answer.ofLease_eq_refused refused)
  | release c a => cases refused
  | decline a => cases refused
  | committed => cases refused
  | declined => cases refused
  | reconfigure pool => cases refused

/- Calls that find nothing to do. -/

theorem release_not_found (h : (l.release c a).answer = false) : (l.release c a).ledger = l := by
  unfold release at h ⊢
  split
  · rfl
  · rename_i found
    simp only [found] at h
    cases h

theorem run_not_found (h : (op.run now l).written.answer = .ok (.released false)) :
    (op.run now l).written.ledger = l := by
  obtain ⟨missed, left, _⟩ := Outcome.written_of_ok h
  rw [left]
  cases op with
  | offer q => exact absurd missed (Answer.ofLease_ne nofun nofun)
  | request q => exact absurd missed (Answer.ofLease_ne nofun nofun)
  | release c a => exact release_not_found (Answer.released.inj missed)
  | decline a => cases missed
  | committed => cases missed
  | declined => cases missed
  | reconfigure pool => cases missed

theorem decline_idle (h : l.pool.contains a = false ∨ a ∈ l.declined.addresses) :
    l.decline now a = .plain () l [] := by
  refine if_pos ?_
  rcases h with outside | known
  · rw [outside, Bool.not_false, Bool.or_true]
  · rw [Roster.contains_iff.mpr known, Bool.true_or]

/- New pools. -/

/-- What is left where a new pool is in service and the call that asked for it has failed. Either
all that the pool does not serve is dropped, or only leases are, up to the first that cannot be put
into words. -/
structure Halfway (new : Pool) (l m : Ledger) : Prop where
  pool : m.pool = new
  nextCheck : m.nextCheck = l.nextCheck
  dropped : l.Drops new → m = (l.reconfigure new).ledger
  stopped : ¬ l.Drops new → m.declined = l.declined ∧
    ∃ before e after, l.committed.entries = before ++ e :: after ∧
      Outcast new e.1 ∧ Numeral.isWritable e.2.expiration = false ∧
      (∀ x ∈ before, Outcast new x.1 → Numeral.isWritable x.2.expiration = true) ∧
      m.committed.entries = before.filter (fun x => !(fresh new).isStranded x.1) ++ after

theorem halfway_reconfigure (new : Pool) (l : Ledger) :
    l.Halfway new (l.reconfigure new).halted where
  pool := (reconfigure_leaves new l).2.1
  nextCheck := by
    unfold reconfigure
    dsimp only
    split
    · rfl
    · rfl
  dropped := reconfigure_halted
  stopped := by
    intro halts
    let gone (a : Address) (_ : Lease) : Bool := isStranded { l with pool := new } a
    let ends (lease : Lease) : Bool := !(Note.leaseDropped lease).isWritable
    have left : (l.reconfigure new).halted =
        strikeLeases .leaseDropped gone { l with pool := new } :=
      if_neg (mt drops_writable_iff.mp halts)
    have words (lease : Lease) : ends lease = !Numeral.isWritable lease.expiration :=
      congrArg not (Note.isWritable_of_numbers rfl)
    have ended : ∃ e ∈ l.committed.entries, gone e.1 e.2 = true ∧ ends e.2 = true := by
      obtain ⟨e, unlike⟩ := Classical.not_forall.mp halts
      obtain ⟨there, unlike⟩ := Classical.not_imp.mp unlike
      obtain ⟨outcast, long⟩ := Classical.not_imp.mp unlike
      refine ⟨e, there, outcast_iff.mpr outcast, ?_⟩
      rw [words, Bool.eq_false_iff.mpr long, Bool.not_false]
    obtain ⟨before, e, after, split, struck, last, passed, kept⟩ :=
      Roster.strikeEntries_of_ends gone ends ended
    rw [left]
    refine ⟨rfl, before, e, after, split, outcast_iff.mp struck, ?_, fun x there outcast => ?_,
      kept⟩
    · exact (Bool.not_eq_true' _).mp ((words e.2).symm.trans last)
    · have onward : ends x.2 = false := passed x there (outcast_iff.mpr outcast)
      exact (Bool.not_eq_false' _).mp ((words x.2).symm.trans onward)

/-- A new pool is answered with a fault if and only if a lease that it drops cannot be put into
words, or the pool itself cannot. -/
theorem reconfigure_failed (now : Int) (new : Pool) (l : Ledger) :
    let o := ((Operation.reconfigure new).run now l).written
    ((∃ fault, o.answer = .error fault) ↔
      ¬ (l.Drops new ∧ Numeral.isWritable new.leaseTime = true)) ∧
    ∀ fault, o.answer = .error fault → fault = .longNumber ∧ l.Halfway new o.ledger := by
  intro o
  have words : ((Operation.reconfigure new).run now l).notes.all Note.isWritable = true ↔
      l.Drops new ∧ Numeral.isWritable new.leaseTime = true := by
    change (l.reconfigure new).notes.all Note.isWritable = true ↔ _
    have last : (Note.parametersUpdated new).isWritable = Numeral.isWritable new.leaseTime :=
      Note.isWritable_of_numbers rfl
    simp only [reconfigure, List.all_append, Bool.and_eq_true, drops_writable_iff, List.all_cons,
      List.all_nil, and_true, last]
  rw [← words]
  rcases Outcome.written_cases ((Operation.reconfigure new).run now l) with
    ⟨all, answered, _⟩ | ⟨short, failed, left⟩
  · have answered : o.answer = _ := answered
    rw [answered, all]
    exact ⟨iff_of_false nofun (not_not_intro rfl), nofun⟩
  · have failed : o.answer = _ := failed
    have left : o.ledger = (l.reconfigure new).halted := left
    rw [failed, short, left]
    refine ⟨iff_of_true ⟨_, rfl⟩ Bool.false_ne_true, fun fault same => ?_⟩
    exact ⟨(Except.error.inj same).symm, halfway_reconfigure new l⟩

/-- A call that cannot be read, whether for an argument that is no address or for parameters that
make no pool, leaves a ledger as it is. A refused offer or request leaves it as a sweep at that
instant does: what has ended is gone, and all else stands as it stood, in its order. A release that
finds no lease of its client on its address, and a decline of an address outside the subnet or of
one that is withheld already, leave it as it is. A pool that is answered with a fault, because a
lease that it drops or the pool itself cannot be put into words, is in service all the same. -/
theorem failed_call_leaves (pool : Pool) (turns : List Turn) (t : Turn) :
    let l := (opening pool).ledger.after turns
    let o := t.run l
    (∀ fault, t.call.operation = .error fault → o.answer = .error fault ∧ o.ledger = l) ∧
    (∀ refusal, o.answer = .ok (.refused refusal) →
      o.ledger = (l.sweep t.now).ledger ∧ Cleared t.now l o.ledger) ∧
    (o.answer = .ok (.released false) → o.ledger = l) ∧
    (∀ a, t.call.operation = .ok (.decline a) →
      l.pool.contains a = false ∨ a ∈ l.declined.addresses →
      o.answer = .ok .noted ∧ o.ledger = l) ∧
    ∀ new, t.call.operation = .ok (.reconfigure new) →
      ((∃ fault, o.answer = .error fault) ↔
        ¬ (l.Drops new ∧ Numeral.isWritable new.leaseTime = true)) ∧
      ∀ fault, o.answer = .error fault → fault = .longNumber ∧ l.Halfway new o.ledger := by
  intro l o
  have orderly : l.Orderly := orderly_after (orderly_fresh pool) turns
  have right : l.Bounded := bounded_after (orderly_fresh pool) (bounded_fresh pool) turns
  cases read : t.call.operation with
  | error fault =>
    have unread : o = .plain (.error fault) l [] := by
      change t.run l = _
      unfold Turn.run Call.run
      rw [read]
    rw [unread]
    refine ⟨fun other same => ?_, nofun, nofun, nofun, nofun⟩
    cases same
    exact ⟨rfl, rfl⟩
  | ok op =>
    have run : o = (op.run t.now l).written := run_of_read read l
    rw [run]
    refine ⟨nofun, fun refusal refused => ?_, run_not_found, fun a same idle => ?_,
      fun new same => ?_⟩
    · have left := run_refused orderly refused
      exact ⟨left, left ▸ sweep_cleared right t.now⟩
    · cases Except.ok.inj same
      have nothing : (Operation.decline a).run t.now l = .plain .noted l [] := by
        simp only [Operation.run, decline_idle idle]
        rfl
      rw [nothing]
      exact ⟨rfl, rfl⟩
    · cases Except.ok.inj same
      exact reconfigure_failed t.now new l

/-- A lease time of nothing makes no pool, and the lease of a client stays where it is. -/
theorem unread_pool_leaves :
    let l := (opening (.home 1000)).ledger.after [.select 0 (.plain 1) (.home 10)]
    let t := Turn.serve 1 ⟨⟨0x0A000000, by decide⟩, 24, by decide⟩ 0
    l.committed.addresses = [.home 10] ∧
      (t.run l).answer = .error (.leaseTimeNotPositive (.int 0)) ∧ (t.run l).ledger = l := by
  intro l t
  have listed : l.committed.addresses = [.home 10] := by decide +kernel
  have unread : t.call.operation = .error (.leaseTimeNotPositive (.int 0)) := rfl
  exact ⟨listed, (failed_call_leaves (.home 1000) _ t).1 _ unread⟩

/-- A lease time that is too long for words is answered with a fault, with the new pool in service
and the lease of a client gone. -/
theorem long_pool_drops :
    let l := (opening (.home 1000)).ledger.after [.select 0 (.plain 1) (.home 10)]
    let t := Turn.serve 1 ⟨⟨0x0A000000, by decide⟩, 24, by decide⟩ (10 ^ 4300)
    l.committed.addresses = [.home 10] ∧ l.pool.contains (.home 10) = true ∧
      (∃ fault, (t.run l).answer = .error fault) ∧
      (t.run l).ledger.committed.addresses = [] ∧
      (t.run l).ledger.pool.contains (.home 10) = false := by
  intro l t
  have before : l.committed.addresses = [.home 10] ∧ l.pool.contains (.home 10) = true := by
    decide +kernel
  have failed : (t.run l).answer.toOption.isNone = true := by decide +kernel
  have after : (t.run l).ledger.committed.addresses = [] ∧
      (t.run l).ledger.pool.contains (.home 10) = false := by
    decide +kernel
  refine ⟨before.1, before.2, ?_, after⟩
  cases answered : (t.run l).answer with
  | error fault => exact ⟨fault, rfl⟩
  | ok answer =>
    rw [answered] at failed
    cases failed

end Ledger
end LeaseBook
