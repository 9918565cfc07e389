import LeaseBook.Proofs.Dispatch
import LeaseBook.Proofs.Searching
import LeaseBook.Proofs.Taking
import Mathlib.Data.Set.Card

/-!
Only assignable addresses are handed out. A lease is entered on an address that the pool has to
give, or on one that had a lease before, and offers repeat leases or are made of such addresses; so
under one pool all leases stand on assignable addresses, each on one of its own.
-/

namespace LeaseBook

/-- Whether an address may be handed out: it lies in the subnet, is not reserved, is neither the
first nor the last of the subnet, and ends neither in 0 nor in 255. -/
structure Pool.Lends (p : Pool) (a : Address) : Prop where
  inside : p.contains a = true
  unreserved : p.isReserved a = false
  notFirst : a ≠ p.subnet.base
  notLast : a ≠ p.subnet.top
  notZero : a.lastOctet ≠ 0
  notOnes : a.lastOctet ≠ 255

theorem Pool.Assigns.lends {p : Pool} {a : Address} (assigns : p.Assigns a) : p.Lends a := by
  obtain ⟨inside, valid, unreserved⟩ := assigns
  obtain ⟨i, usable, rfl⟩ := isValid_iff.mp valid
  have place := number_addressAt usable.lt
  refine ⟨inside, unreserved, fun first => ?_, fun last => ?_, usable.notZero, usable.notOnes⟩
  · rw [first] at place
    have := usable.notFirst
    omega
  · rw [last] at place
    have top : p.subnet.top.number = p.subnet.base.number + (p.size - 1) := rfl
    have := usable.notLast
    omega

instance : Finite Address :=
  Finite.of_injective (fun a : Address => (⟨a.number, a.isLt⟩ : Fin (2 ^ 32)))
    fun _ _ same => Address.ext (congrArg Fin.val same)

theorem Address.ncard_eq_length {s : Set Address} {as : List Address} (once : as.Nodup)
    (all : ∀ a, a ∈ as ↔ a ∈ s) : s.ncard = as.length := by
  have same : s = (as.toFinset : Set Address) := by
    ext a
    exact (all a).symm.trans (by simp)
  rw [same, Set.ncard_coe_finset, List.toFinset_card_of_nodup once]

theorem Roster.length_eq_ncard {α : Type} {r : Roster α} (distinct : r.addresses.Nodup) :
    r.entries.length = Set.ncard {a | a ∈ r.addresses} := by
  have counted : Set.ncard {a | a ∈ r.addresses} = r.addresses.length :=
    Address.ncard_eq_length distinct fun _ => Iff.rfl
  rw [counted, addresses, List.length_map]

namespace Ledger

variable {l : Ledger} {lease : Lease} {t : Turn}

/-- Whoever is answered with a lease is answered with one on an address that the pool has to
give. -/
theorem assigns_of_leased (orderly : l.Orderly) (right : l.Bounded) (served : l.Served)
    (assigned : l.Assigned) (keeps : t.pool? = none)
    (answered : (t.run l).answer = .ok (.lease lease)) : l.pool.Assigns lease.address := by
  cases read : t.call.operation with
  | error fault =>
    rw [run_of_unread read] at answered
    cases answered
  | ok op =>
    have said : (op.run t.now l).answer = .lease lease := by
      rw [run_of_read read] at answered
      exact (Outcome.written_of_ok answered).1
    cases op with
    | offer q =>
      have offers : (t.exchange l).Offers q.client lease := ⟨q, read, rfl, answered⟩
      rcases (offered_of_offers orderly right served offers).assigned with new | ⟨e, old, here, _⟩
      · exact new
      · rw [← here]
        exact assigned e old
    | request q =>
      obtain ⟨entry, _⟩ := (sole_of_granted orderly read answered _).mpr rfl
      rw [← pool_turn orderly keeps]
      exact assigned_turn orderly assigned keeps _ entry
    | release c a => cases said
    | decline a => cases said
    | committed => cases said
    | declined => cases said
    | reconfigure pool => cases said

theorem assigns_of_carried (orderly : l.Orderly) (right : l.Bounded) (served : l.Served)
    (assigned : l.Assigned) {d : Delivery} {reply : Reply}
    (replied : (d.handle l).answer = .ok (some reply)) (carries : reply.lease = some lease) :
    l.pool.Assigns lease.address := by
  obtain ⟨t, answer, keeps, answered, replied⟩ := Delivery.turn_of_reply replied
  obtain rfl := ClientMessage.answer_of_carried replied carries
  exact assigns_of_leased orderly right served assigned keeps answered

/-- There are no more leases than addresses to hand out, as no address has two. -/
theorem length_le_lends (orderly : l.Orderly) (assigned : l.Assigned) :
    l.committed.entries.length ≤ Set.ncard {a | l.pool.Lends a} := by
  have inside : {a | a ∈ l.committed.addresses} ⊆ {a | l.pool.Lends a} := by
    intro a there
    obtain ⟨lease, entry⟩ := Roster.mem_addresses.mp there
    exact (assigned _ entry).lends
  rw [Roster.length_eq_ncard orderly.distinct]
  exact Set.ncard_le_ncard inside

theorem sound_handling (pool : Pool) (ds : List Delivery) :
    let l := (opening pool).ledger.handling ds
    l.Orderly ∧ l.Bounded ∧ l.Served ∧ l.Assigned ∧ l.pool = pool := by
  obtain ⟨turns, made, same⟩ := handling_eq_after (opening pool).ledger ds
  have fresh : (opening pool).ledger.Orderly := orderly_fresh pool
  have keeps (t : Turn) (ht : t ∈ turns) : t.pool? = none := (made t ht).1
  rw [same]
  exact ⟨orderly_after fresh turns, bounded_after fresh (bounded_fresh pool) turns,
    served_after fresh (served_fresh pool) keeps, assigned_after fresh nofun keeps,
    pool_after fresh keeps⟩

/-- Whatever messages come in, each offer and each confirmation is of an address in the subnet that
is not reserved, is not the first or the last of the subnet and does not end in 0 or 255; all leases
stand on such addresses, and there are at most as many of them as there are such addresses. -/
theorem handed_out_assignable (pool : Pool) (ds : List Delivery) :
    let l := (opening pool).ledger.handling ds
    (∀ (d : Delivery) (reply : Reply), (d.handle l).answer = .ok (some reply) →
      reply.kind = .offer ∨ reply.kind = .ack →
        ∃ lease, reply.lease = some lease ∧ pool.Lends lease.address) ∧
    (∀ e ∈ l.committed.entries, e.2.address = e.1 ∧ pool.Lends e.1) ∧
    l.committed.entries.length ≤ Set.ncard {a | pool.Lends a} := by
  intro l
  obtain ⟨orderly, right, served, assigned, stays⟩ := sound_handling pool ds
  rw [← stays]
  refine ⟨fun d reply replied kind => ?_, fun e he => ?_, length_le_lends orderly assigned⟩
  · obtain ⟨t, answer, keeps, answered, replied⟩ := Delivery.turn_of_reply replied
    obtain ⟨lease, rfl, carries⟩ := ClientMessage.leased_of_reply? replied kind
    exact ⟨lease, carries, (assigns_of_leased orderly right served assigned keeps answered).lends⟩
  · exact ⟨orderly.keyed e he, (assigned e he).lends⟩

end Ledger
end LeaseBook
