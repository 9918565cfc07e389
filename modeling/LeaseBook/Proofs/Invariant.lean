import LeaseBook.Ledger.Request
import LeaseBook.Proofs.Roster

/-!
What holds of every ledger. A ledger is orderly when leases are filed under their own addresses and
no client has two; its bound is right when nothing in it ends earlier; it is served when its pool
covers it. Operations strike entries out, and add an entry only where it fits.
-/

namespace LeaseBook

namespace Lease

/-- Renewing pushes the expiration back and never forward. -/
theorem renew_expiration (l : Lease) (expiration : Int) (hostname : Value) :
    (l.renew expiration hostname).expiration = max l.expiration expiration := by
  simp only [renew, extended?]
  split
  · simp only [Option.getD_none]
    omega
  · simp only [Option.getD_some]
    omega

@[simp] theorem renew_client (l : Lease) (expiration : Int) (hostname : Value) :
    (l.renew expiration hostname).client = l.client := by
  simp only [renew, extended?]
  split <;> rfl

@[simp] theorem renew_address (l : Lease) (expiration : Int) (hostname : Value) :
    (l.renew expiration hostname).address = l.address := by
  simp only [renew, extended?]
  split <;> rfl

end Lease

namespace Ledger

/-- Leases are filed under their own addresses, no address is filed twice, and leases of one client
stand on one address. -/
structure Orderly (l : Ledger) : Prop where
  distinct : l.committed.addresses.Nodup
  keyed : ∀ e ∈ l.committed.entries, e.2.address = e.1
  single : ∀ e ∈ l.committed.entries, ∀ f ∈ l.committed.entries,
    e.2.client.identity = f.2.client.identity → e.1 = f.1
  declinedDistinct : l.declined.addresses.Nodup

/-- Nothing in the ledger ends before the bound, and the bound is not behind the end of time. -/
structure Bounded (l : Ledger) : Prop where
  never : l.nextCheck ≤ Lease.never
  committed : ∀ e ∈ l.committed.entries, l.nextCheck ≤ e.2.expiration
  declined : ∀ e ∈ l.declined.entries, l.nextCheck ≤ e.2

/-- The pool covers the ledger: leases stand on addresses of the subnet that are not reserved, and
declines on addresses of the subnet. -/
structure Served (l : Ledger) : Prop where
  committed : ∀ a ∈ l.committed.addresses, l.isStranded a = false
  declined : ∀ a ∈ l.declined.addresses, l.pool.contains a = true

/-- Leases end at an instant or later, and at most one lease time after another instant. -/
def Within (first last : Int) (l : Ledger) : Prop :=
  ∀ e ∈ l.committed.entries, first ≤ e.2.expiration ∧ e.2.expiration ≤ last + l.pool.leaseTime

theorem orderly_fresh (pool : Pool) : (fresh pool).Orderly := by
  constructor <;> simp [fresh, Roster.empty, Roster.addresses]

theorem bounded_fresh (pool : Pool) : (fresh pool).Bounded := by
  constructor <;> simp [fresh, Roster.empty]

theorem served_fresh (pool : Pool) : (fresh pool).Served := by
  constructor <;> simp [fresh, Roster.empty, Roster.addresses]

theorem within_fresh (first last : Int) (pool : Pool) : (fresh pool).Within first last := nofun

variable {l m n : Ledger} {now : Int} {a : Address} {c : Client} {lease : Lease}

namespace Orderly

/-- The lease found for a client is the only one it has, wherever it is filed. -/
theorem leaseOf_iff (orderly : l.Orderly) :
    l.leaseOf c = some lease ↔
      lease ∈ l.committed.records ∧ lease.client.identity = c.identity := by
  have found {lease} (h : l.leaseOf c = some lease) :
      lease ∈ l.committed.records ∧ lease.client.identity = c.identity := by
    have its := List.find?_some h
    exact ⟨List.mem_of_find?_eq_some h, (Lease.isOf_iff_identity lease c).mp its⟩
  refine ⟨found, fun ⟨filed, its⟩ => ?_⟩
  cases h : l.leaseOf c with
  | none =>
    have none := List.find?_eq_none.mp h lease filed
    exact absurd ((Lease.isOf_iff_identity _ _).mpr its) none
  | some other =>
    obtain ⟨otherFiled, otherIts⟩ := found h
    obtain ⟨a, entry⟩ := Roster.mem_records.mp filed
    obtain ⟨b, otherEntry⟩ := Roster.mem_records.mp otherFiled
    have same := orderly.single _ otherEntry _ entry (otherIts.trans its.symm)
    cases same
    exact congrArg some (Roster.record_unique orderly.distinct otherEntry entry)

theorem mem_of_leaseOf (orderly : l.Orderly) (h : l.leaseOf c = some lease) :
    (lease.address, lease) ∈ l.committed.entries ∧ lease.client.identity = c.identity := by
  obtain ⟨filed, its⟩ := orderly.leaseOf_iff.mp h
  obtain ⟨a, entry⟩ := Roster.mem_records.mp filed
  have key : lease.address = a := orderly.keyed _ entry
  exact ⟨key ▸ entry, its⟩

theorem address_of_leaseOf_none (orderly : l.Orderly) (h : l.leaseOf c = none)
    {e : Address × Lease} (he : e ∈ l.committed.entries) :
    e.2.client.identity ≠ c.identity := by
  intro its
  have filed : e.2 ∈ l.committed.records := List.mem_map_of_mem he
  rw [orderly.leaseOf_iff.mpr ⟨filed, its⟩] at h
  cases h

theorem leaseOf_eq_none_iff (orderly : l.Orderly) :
    l.leaseOf c = none ↔ ∀ e ∈ l.committed.entries, e.2.client.identity ≠ c.identity := by
  refine ⟨fun without e he => orderly.address_of_leaseOf_none without he, fun foreign => ?_⟩
  refine Option.eq_none_iff_forall_not_mem.mpr fun own has => ?_
  obtain ⟨entry, its⟩ := orderly.mem_of_leaseOf has
  exact foreign _ entry its

end Orderly

/- Striking out. -/

/-- Some entries are struck out, leases only where they may be, and nothing is added. A bound that
was right stays right. -/
structure Sheds (gone : Address × Lease → Prop) (l m : Ledger) : Prop where
  committed : m.committed.entries.Sublist l.committed.entries
  declined : m.declined.entries.Sublist l.declined.entries
  spared : ∀ e ∈ l.committed.entries, ¬ gone e → e ∈ m.committed.entries
  bounded : l.Bounded → m.Bounded

namespace Sheds

variable {p q : Address × Lease → Prop}

theorem refl (p : Address × Lease → Prop) (l : Ledger) : Sheds p l l :=
  ⟨.refl _, .refl _, fun _ he _ => he, id⟩

theorem mono (shed : Sheds p l m) (weaker : ∀ e, p e → q e) : Sheds q l m :=
  ⟨shed.committed, shed.declined, fun e he spared => shed.spared e he fun gone =>
    spared (weaker e gone), shed.bounded⟩

theorem trans (first : Sheds p l m) (second : Sheds p m n) : Sheds p l n :=
  ⟨second.committed.trans first.committed, second.declined.trans first.declined,
    fun e he spared => second.spared e (first.spared e he spared) spared,
    fun right => second.bounded (first.bounded right)⟩

theorem orElse (first : Sheds p l m) (second : Sheds q m n) : Sheds (fun e => p e ∨ q e) l n :=
  (first.mono fun _ => .inl).trans (second.mono fun _ => .inr)

theorem orderly (shed : Sheds p l m) (orderly : l.Orderly) : m.Orderly where
  distinct := (shed.committed.map Prod.fst).nodup orderly.distinct
  keyed := fun e he => orderly.keyed e (shed.committed.mem he)
  single := fun e he f hf => orderly.single e (shed.committed.mem he) f (shed.committed.mem hf)
  declinedDistinct := (shed.declined.map Prod.fst).nodup orderly.declinedDistinct

theorem served (shed : Sheds p l m) (pool : m.pool = l.pool) (served : l.Served) : m.Served where
  committed := by
    intro a ha
    have filed := served.committed a ((shed.committed.map Prod.fst).mem ha)
    simpa only [isStranded, pool] using filed
  declined := by
    intro a ha
    rw [pool]
    exact served.declined a ((shed.declined.map Prod.fst).mem ha)

theorem within {first last : Int} (shed : Sheds p l m) (pool : m.pool = l.pool)
    (within : l.Within first last) : m.Within first last := by
  intro e he
  rw [pool]
  exact within e (shed.committed.mem he)

end Sheds

theorem Bounded.of_sublist (right : l.Bounded) (bound : m.nextCheck = l.nextCheck)
    (committed : m.committed.entries.Sublist l.committed.entries)
    (declined : m.declined.entries.Sublist l.declined.entries) : m.Bounded where
  never := bound ▸ right.never
  committed := fun e he => bound ▸ right.committed e (committed.mem he)
  declined := fun e he => bound ▸ right.declined e (declined.mem he)

end Ledger
end LeaseBook
