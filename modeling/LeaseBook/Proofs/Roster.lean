import LeaseBook.Roster

/-!
Rosters by membership. Where no address has two entries, looking up, filing and striking out are
said in terms of which entries there are, and their order does not matter.
-/

namespace LeaseBook.Roster

variable {α : Type} {r s : Roster α} {a b : Address} {x y : α} {e : Address × α}

theorem mem_addresses : a ∈ r.addresses ↔ ∃ x, (a, x) ∈ r.entries := by
  simp [addresses]

theorem mem_records : x ∈ r.records ↔ ∃ a, (a, x) ∈ r.entries := by
  simp [records]

theorem address_mem (h : e ∈ r.entries) : e.1 ∈ r.addresses :=
  List.mem_map_of_mem h

theorem contains_iff : r.contains a = true ↔ a ∈ r.addresses := by
  simp [contains, addresses]

theorem contains_eq_false_iff : r.contains a = false ↔ a ∉ r.addresses := by
  rw [← contains_iff, Bool.not_eq_true]

theorem mem_of_find? (h : r.find? a = some x) : (a, x) ∈ r.entries := by
  simp only [find?, Option.map_eq_some_iff] at h
  obtain ⟨e, found, rfl⟩ := h
  have same : e.1 = a := by simpa using List.find?_some found
  exact same ▸ List.mem_of_find?_eq_some found

theorem not_mem_of_find? (h : r.find? a = none) : a ∉ r.addresses := by
  simp only [find?, Option.map_eq_none_iff, List.find?_eq_none, beq_iff_eq] at h
  intro hit
  obtain ⟨x, entry⟩ := mem_addresses.mp hit
  exact h _ entry rfl

theorem entry_unique {es : List (Address × α)} (distinct : (es.map Prod.fst).Nodup)
    {e f : Address × α} (he : e ∈ es) (hf : f ∈ es) (same : e.1 = f.1) : e = f := by
  induction es with
  | nil => cases he
  | cons g rest ih =>
    obtain ⟨fresh, distinct⟩ := List.nodup_cons.mp distinct
    rcases List.mem_cons.mp he with rfl | left
    · rcases List.mem_cons.mp hf with rfl | right
      · rfl
      · exact absurd (same ▸ List.mem_map_of_mem right) fresh
    · rcases List.mem_cons.mp hf with rfl | right
      · exact absurd (same ▸ List.mem_map_of_mem left) fresh
      · exact ih distinct left right

/-- Where addresses are distinct, an address has one record. -/
theorem record_unique (distinct : r.addresses.Nodup) (hx : (a, x) ∈ r.entries)
    (hy : (a, y) ∈ r.entries) : x = y :=
  congrArg Prod.snd (entry_unique distinct hx hy rfl)

theorem find?_eq_some_iff (distinct : r.addresses.Nodup) :
    r.find? a = some x ↔ (a, x) ∈ r.entries := by
  refine ⟨mem_of_find?, fun entry => ?_⟩
  cases found : r.find? a with
  | none => exact absurd (address_mem entry) (not_mem_of_find? found)
  | some y => exact congrArg some (record_unique distinct (mem_of_find? found) entry)

/- Filing. -/

theorem mem_putEntry {es : List (Address × α)} (distinct : (es.map Prod.fst).Nodup) :
    e ∈ putEntry a x es ↔ e = (a, x) ∨ e ∈ es ∧ e.1 ≠ a := by
  induction es with
  | nil => simp [putEntry]
  | cons f rest ih =>
    obtain ⟨fresh, distinct⟩ := List.nodup_cons.mp distinct
    have apart : ∀ e ∈ rest, e.1 ≠ f.1 := fun e he same =>
      fresh (same ▸ List.mem_map_of_mem he)
    simp only [putEntry]
    split
    · rename_i hit
      subst hit
      simp only [List.mem_cons]
      constructor
      · rintro (rfl | he)
        · exact .inl rfl
        · exact .inr ⟨.inr he, apart e he⟩
      · rintro (rfl | ⟨rfl | he, ne⟩)
        · exact .inl rfl
        · exact absurd rfl ne
        · exact .inr he
    · rename_i miss
      simp only [List.mem_cons, ih distinct]
      constructor
      · rintro (rfl | rfl | ⟨he, ne⟩)
        · exact .inr ⟨.inl rfl, miss⟩
        · exact .inl rfl
        · exact .inr ⟨.inr he, ne⟩
      · rintro (rfl | ⟨rfl | he, ne⟩)
        · exact .inr (.inl rfl)
        · exact .inl rfl
        · exact .inr (.inr ⟨he, ne⟩)

theorem mem_put (distinct : r.addresses.Nodup) :
    e ∈ (r.put a x).entries ↔ e = (a, x) ∨ e ∈ r.entries ∧ e.1 ≠ a :=
  mem_putEntry distinct

theorem nodup_putEntry {es : List (Address × α)} (distinct : (es.map Prod.fst).Nodup) :
    ((putEntry a x es).map Prod.fst).Nodup := by
  induction es with
  | nil => simp [putEntry]
  | cons f rest ih =>
    obtain ⟨fresh, tail⟩ := List.nodup_cons.mp distinct
    simp only [putEntry]
    split
    · rename_i hit
      exact hit ▸ distinct
    · rename_i miss
      refine List.nodup_cons.mpr ⟨fun hit => ?_, ih tail⟩
      obtain ⟨e, he, same⟩ := List.mem_map.mp hit
      rcases (mem_putEntry tail).mp he with rfl | ⟨he, _⟩
      · exact miss same.symm
      · exact fresh (same ▸ List.mem_map_of_mem he)

theorem nodup_put (distinct : r.addresses.Nodup) : (r.put a x).addresses.Nodup :=
  nodup_putEntry distinct

/- Striking out. -/

theorem mem_erase : e ∈ (r.erase a).entries ↔ e ∈ r.entries ∧ e.1 ≠ a := by
  simp [erase]

theorem mem_filter {keep : Address → α → Bool} :
    e ∈ (r.filter keep).entries ↔ e ∈ r.entries ∧ keep e.1 e.2 = true := by
  simp [filter]

theorem erase_sublist : (r.erase a).entries.Sublist r.entries := List.filter_sublist

theorem filter_sublist {keep : Address → α → Bool} :
    (r.filter keep).entries.Sublist r.entries := List.filter_sublist

theorem filter_eq_self {keep : Address → α → Bool} (h : ∀ e ∈ r.entries, keep e.1 e.2 = true) :
    r.filter keep = r :=
  congrArg Roster.mk (List.filter_eq_self.mpr h)

theorem erase_eq_self (missing : a ∉ r.addresses) : r.erase a = r := by
  refine congrArg mk (List.filter_eq_self.mpr fun e he => bne_iff_ne.mpr fun here => ?_)
  exact missing (here ▸ address_mem he)

theorem filter_eq_empty {keep : Address → α → Bool} (h : ∀ e ∈ r.entries, keep e.1 e.2 = false) :
    r.filter keep = empty := by
  refine congrArg Roster.mk (List.filter_eq_nil_iff.mpr fun e he => ?_)
  rw [h e he]
  exact Bool.false_ne_true

theorem filter_filter {p q : Address → α → Bool} :
    (r.filter p).filter q = r.filter fun a x => p a x && q a x := by
  simp only [filter, List.filter_filter, Bool.and_comm]

theorem filter_comm {p q : Address → α → Bool} :
    (r.filter p).filter q = (r.filter q).filter p := by
  simp only [filter_filter, Bool.and_comm]

theorem filter_congr {p q : Address → α → Bool} (same : r.filter q = s.filter q) :
    (r.filter p).filter q = (s.filter p).filter q := by
  rw [filter_comm, same, filter_comm]

/-- A filter that keeps more makes no difference ahead of one that keeps less. -/
theorem filter_filter_of_imp {p q : Address → α → Bool}
    (weaker : ∀ a x, q a x = true → p a x = true) : (r.filter p).filter q = r.filter q := by
  refine congrArg mk (List.filter_filter.trans (List.filter_congr fun e _ => ?_))
  rw [Bool.eq_iff_iff, Bool.and_eq_true, and_iff_left_of_imp (weaker e.1 e.2)]

theorem putEntry_of_not_mem {es : List (Address × α)} (fresh : a ∉ es.map Prod.fst) :
    putEntry a x es = es ++ [(a, x)] := by
  induction es with
  | nil => rfl
  | cons e rest ih =>
    rw [List.map_cons, List.mem_cons, not_or] at fresh
    rw [putEntry, if_neg (Ne.symm fresh.1), ih fresh.2]
    rfl

/-- A record under a new address is filed last. -/
theorem put_of_not_mem (fresh : a ∉ r.addresses) : r.put a x = ⟨r.entries ++ [(a, x)]⟩ :=
  congrArg mk (putEntry_of_not_mem fresh)

theorem strikeEntries_sublist (gone : Address → α → Bool) (ends : α → Bool)
    (es : List (Address × α)) : (strikeEntries gone ends es).Sublist es := by
  induction es with
  | nil => exact .slnil
  | cons e rest ih =>
    simp only [strikeEntries]
    split
    · split
      · exact List.sublist_cons_self e rest
      · exact ih.cons e
    · exact ih.cons_cons e

theorem strike_sublist {gone : Address → α → Bool} {ends : α → Bool} :
    (r.strike gone ends).entries.Sublist r.entries :=
  strikeEntries_sublist gone ends r.entries

theorem mem_strikeEntries {gone : Address → α → Bool} {ends : α → Bool}
    {es : List (Address × α)} (h : e ∈ es) (kept : gone e.1 e.2 = false) :
    e ∈ strikeEntries gone ends es := by
  induction es with
  | nil => cases h
  | cons f rest ih =>
    simp only [strikeEntries]
    rcases List.mem_cons.mp h with rfl | h
    · simp [kept]
    · split
      · split
        · exact h
        · exact ih h
      · exact List.mem_cons_of_mem f (ih h)

theorem mem_strike {gone : Address → α → Bool} {ends : α → Bool} (h : e ∈ r.entries)
    (kept : gone e.1 e.2 = false) : e ∈ (r.strike gone ends).entries :=
  mem_strikeEntries h kept

theorem strikeEntries_eq_self {gone : Address → α → Bool} {ends : α → Bool}
    {es : List (Address × α)} (h : ∀ e ∈ es, gone e.1 e.2 = false) :
    strikeEntries gone ends es = es := by
  induction es with
  | nil => rfl
  | cons e rest ih =>
    obtain ⟨kept, others⟩ := List.forall_mem_cons.mp h
    simp [strikeEntries, kept, ih others]

theorem strike_eq_self {gone : Address → α → Bool} {ends : α → Bool}
    (h : ∀ e ∈ r.entries, gone e.1 e.2 = false) : r.strike gone ends = r :=
  congrArg Roster.mk (strikeEntries_eq_self h)

/-- A strike that is ended keeps what stands behind the entry that ends it. -/
theorem strikeEntries_of_ends (gone : Address → α → Bool) (ends : α → Bool)
    {es : List (Address × α)} (ended : ∃ e ∈ es, gone e.1 e.2 = true ∧ ends e.2 = true) :
    ∃ before e after, es = before ++ e :: after ∧ gone e.1 e.2 = true ∧ ends e.2 = true ∧
      (∀ x ∈ before, gone x.1 x.2 = true → ends x.2 = false) ∧
      strikeEntries gone ends es = before.filter (fun x => !gone x.1 x.2) ++ after := by
  induction es with
  | nil =>
    obtain ⟨e, there, _⟩ := ended
    cases there
  | cons f rest ih =>
    by_cases here : gone f.1 f.2 = true ∧ ends f.2 = true
    · refine ⟨[], f, rest, rfl, here.1, here.2, List.forall_mem_nil _, ?_⟩
      simp [strikeEntries, here]
    · have later : ∃ e ∈ rest, gone e.1 e.2 = true ∧ ends e.2 = true := by
        obtain ⟨e, there, ends⟩ := ended
        rcases List.mem_cons.mp there with rfl | there
        · exact absurd ends here
        · exact ⟨e, there, ends⟩
      obtain ⟨before, e, after, rfl, struck, last, passed, left⟩ := ih later
      refine ⟨f :: before, e, after, rfl, struck, last, List.forall_mem_cons.mpr ⟨?_, passed⟩, ?_⟩
      · exact fun struck => Bool.eq_false_iff.mpr fun ends => here ⟨struck, ends⟩
      · cases hit : gone f.1 f.2 with
        | true =>
          have onward : ends f.2 = false := Bool.eq_false_iff.mpr fun ends => here ⟨hit, ends⟩
          simp [strikeEntries, hit, onward, left]
        | false => simp [strikeEntries, hit, left]

/-- A cut goes right behind the first entry with the property. -/
theorem cutEntries_eq_some {p : Address → Bool} {es rest : List (Address × α)}
    (h : cutEntries p es = some (a, rest)) :
    p a = true ∧ ∃ older x, es = older ++ (a, x) :: rest ∧ ∀ e ∈ older, p e.1 = false := by
  induction es with
  | nil => cases h
  | cons e es ih =>
    simp only [cutEntries] at h
    split at h
    · rename_i hit
      cases h
      exact ⟨hit, [], e.2, rfl, List.forall_mem_nil _⟩
    · rename_i miss
      obtain ⟨hit, older, x, rfl, passed⟩ := ih h
      exact ⟨hit, e :: older, x, rfl, List.forall_mem_cons.mpr ⟨Bool.not_eq_true _ ▸ miss, passed⟩⟩

theorem cutEntries_eq_none {p : Address → Bool} {es : List (Address × α)}
    (h : cutEntries p es = none) : ∀ e ∈ es, p e.1 = false := by
  induction es with
  | nil => exact List.forall_mem_nil _
  | cons e es ih =>
    simp only [cutEntries] at h
    split at h
    · cases h
    · rename_i miss
      exact List.forall_mem_cons.mpr ⟨Bool.not_eq_true _ ▸ miss, ih h⟩

theorem cut?_split {p : Address → Bool} (h : r.cut? p = some (a, s)) :
    p a = true ∧ ∃ older x, r.entries = older ++ (a, x) :: s.entries ∧
      ∀ e ∈ older, p e.1 = false := by
  simp only [cut?, Option.map_eq_some_iff] at h
  obtain ⟨⟨b, rest⟩, found, same⟩ := h
  cases same
  exact cutEntries_eq_some found

theorem cutEntries_append {p : Address → Bool} {older rest : List (Address × α)}
    (hit : p a = true) (passed : ∀ e ∈ older, p e.1 = false) :
    cutEntries p (older ++ (a, x) :: rest) = some (a, rest) := by
  induction older with
  | nil => exact if_pos hit
  | cons e older ih =>
    obtain ⟨miss, others⟩ := List.forall_mem_cons.mp passed
    rw [List.cons_append, cutEntries, if_neg (Bool.eq_false_iff.mp miss), ih others]

theorem cut?_eq_some_iff {p : Address → Bool} :
    r.cut? p = some (a, s) ↔ p a = true ∧ ∃ older x,
      r.entries = older ++ (a, x) :: s.entries ∧ ∀ e ∈ older, p e.1 = false := by
  refine ⟨cut?_split, fun ⟨hit, older, x, split, passed⟩ => ?_⟩
  rw [cut?, split, cutEntries_append hit passed]
  rfl

theorem cut?_sublist {p : Address → Bool} (h : r.cut? p = some (a, s)) :
    p a = true ∧ s.entries.Sublist r.entries := by
  obtain ⟨hit, older, x, split, _⟩ := cut?_split h
  rw [split]
  exact ⟨hit, (List.sublist_cons_self _ _).trans (List.sublist_append_right _ _)⟩

theorem cut?_mem {p : Address → Bool} (h : r.cut? p = some (a, s)) : a ∈ r.addresses := by
  obtain ⟨_, older, x, split, _⟩ := cut?_split h
  refine mem_addresses.mpr ⟨x, ?_⟩
  rw [split]
  exact List.mem_append_right _ List.mem_cons_self

/-- Behind a cut the address is gone, and so are only addresses without the property. -/
theorem cut?_eq_some (distinct : r.addresses.Nodup) {p : Address → Bool}
    (h : r.cut? p = some (a, s)) :
    a ∉ s.addresses ∧ ∀ b ∈ r.addresses, p b = true → b = a ∨ b ∈ s.addresses := by
  obtain ⟨_, older, x, split, passed⟩ := cut?_split h
  unfold addresses at distinct ⊢
  rw [split, List.map_append, List.map_cons] at distinct ⊢
  refine ⟨(List.nodup_cons.mp (List.nodup_append.mp distinct).2.1).1, fun b hb good => ?_⟩
  rcases List.mem_append.mp hb with old | later
  · obtain ⟨e, he, rfl⟩ := List.mem_map.mp old
    rw [passed e he] at good
    cases good
  · exact List.mem_cons.mp later

theorem cut?_eq_none {p : Address → Bool} (h : r.cut? p = none) :
    ∀ a ∈ r.addresses, p a = false := by
  simp only [cut?, Option.map_eq_none_iff] at h
  intro a ha
  obtain ⟨x, entry⟩ := mem_addresses.mp ha
  exact cutEntries_eq_none h _ entry

end LeaseBook.Roster
