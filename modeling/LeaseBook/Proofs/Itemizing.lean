import LeaseBook.Config.Basic
import LeaseBook.Proofs.Spelling
import Mathlib.Data.List.DropRight

/-!
The reserved list in the environment. Blanks around an item and blank items between commas are
noise: a text lists those items that are left without it, whatever the noise is and wherever it
stands, and every text lists items in this sense.
-/

namespace LeaseBook

namespace Text

variable {p : Char → Bool} {pad cs before after : List Char}

/- Blanks at the ends. -/

theorem dropWhile_pad (blank : ∀ c ∈ pad, p c = true) (first : cs.head?.any p = false) :
    (pad ++ cs).dropWhile p = cs := by
  rw [List.dropWhile_append_of_pos blank]
  cases cs with
  | nil => rfl
  | cons c rest => simp_all

theorem dropEndWhile_pad (blank : ∀ c ∈ pad, p c = true) (last : cs.getLast?.any p = false) :
    dropEndWhile p (cs ++ pad) = cs := by
  have behind : ∀ c ∈ pad.reverse, p c = true := by simpa using blank
  have front : cs.reverse.head?.any p = false := by simpa using last
  rw [dropEndWhile, List.reverse_append, dropWhile_pad behind front, List.reverse_reverse]

theorem trimWhile_pad (filled : cs ≠ []) (first : cs.head?.any p = false)
    (last : cs.getLast?.any p = false) (blank : ∀ c ∈ before ++ after, p c = true) :
    trimWhile p (before ++ cs ++ after) = cs := by
  obtain ⟨left, right⟩ := List.forall_mem_append.mp blank
  have front : (cs ++ after).head?.any p = false := by
    rwa [List.head?_append_of_ne_nil _ filled]
  rw [trimWhile, List.append_assoc, dropWhile_pad left front, dropEndWhile_pad right last]

theorem trimWhile_eq_nil_iff : trimWhile p cs = [] ↔ ∀ c ∈ cs, p c = true := by
  constructor
  · intro nothing c there
    rw [← List.takeWhile_append_dropWhile (p := p) (l := cs)] at there
    rcases List.mem_append.mp there with front | behind
    · exact List.mem_takeWhile_imp front
    · exact List.rdropWhile_eq_nil_iff.mp nothing c behind
  · intro all
    rw [trimWhile, List.dropWhile_eq_nil_iff.mpr all]
    rfl

theorem exists_pad (p : Char → Bool) (cs : List Char) : ∃ before after,
    (∀ c ∈ before ++ after, p c = true) ∧ cs = before ++ trimWhile p cs ++ after := by
  refine ⟨cs.takeWhile p, (cs.dropWhile p).rtakeWhile p, ?_, ?_⟩
  · intro c there
    rcases List.mem_append.mp there with front | behind
    · exact List.mem_takeWhile_imp front
    · exact List.mem_rtakeWhile_imp behind
  · have right : trimWhile p cs ++ (cs.dropWhile p).rtakeWhile p = cs.dropWhile p :=
      List.rdropWhile_append_rtakeWhile
    rw [List.append_assoc, right, List.takeWhile_append_dropWhile]

theorem head?_dropWhile (cs : List Char) : (cs.dropWhile p).head?.any p = false := by
  induction cs with
  | nil => rfl
  | cons c rest ih =>
    cases blank : p c with
    | true => simpa [blank] using ih
    | false => simp [blank]

theorem head?_trimWhile (cs : List Char) : (trimWhile p cs).head?.any p = false := by
  have whole : trimWhile p cs <+: cs.dropWhile p := List.rdropWhile_prefix p _
  have first := head?_dropWhile (p := p) cs
  cases trimmed : trimWhile p cs with
  | nil => rfl
  | cons c rest =>
    obtain ⟨behind, whole⟩ := trimmed ▸ whole
    simpa [← whole] using first

theorem getLast?_trimWhile (cs : List Char) : (trimWhile p cs).getLast?.any p = false := by
  rw [trimWhile, dropEndWhile, List.getLast?_reverse]
  exact head?_dropWhile _

end Text

namespace Config

open Text

/-- That a text is neither empty nor more than one item, and that no blank stands at its ends. -/
structure IsItem (s : String) : Prop where
  filled : s ≠ ""
  single : ',' ∉ s.toList
  first : s.toList.head?.any isBlank = false
  last : s.toList.getLast?.any isBlank = false

instance (s : String) : Decidable (IsItem s) :=
  decidable_of_iff (s ≠ "" ∧ ',' ∉ s.toList ∧ s.toList.head?.any isBlank = false ∧
      s.toList.getLast?.any isBlank = false)
    ⟨fun ⟨filled, single, first, last⟩ => ⟨filled, single, first, last⟩,
      fun ⟨filled, single, first, last⟩ => ⟨filled, single, first, last⟩⟩

def Blank (piece : List Char) : Prop := ∀ c ∈ piece, isBlank c = true

instance (piece : List Char) : Decidable (Blank piece) := List.decidableBAll _ piece

/-- That a piece is an item with blanks around it. -/
inductive Pads (s : String) (piece : List Char) : Prop
  | mk (before after : List Char) (blank : Blank (before ++ after))
      (around : piece = before ++ s.toList ++ after)

/-- That pieces are items in their order, each with blanks around it, and blank pieces in front of
them, between them and behind them. -/
inductive Strewn : List String → List (List Char) → Prop
  | nil : Strewn [] []
  | blank {names pieces piece} (blank : Blank piece) (rest : Strewn names pieces) :
      Strewn names (piece :: pieces)
  | item {s names pieces piece} (pads : Pads s piece) (rest : Strewn names pieces) :
      Strewn (s :: names) (piece :: pieces)

/-- That a setting lists items: it is them, joined by commas, with any noise. -/
inductive Lists (setting : String) (names : List String) : Prop
  | mk (pieces : List (List Char)) (clean : ∀ s ∈ names, IsItem s) (strewn : Strewn names pieces)
      (text : setting.toList = joinWith [','] pieces)

/-- The item that a piece pads, if it is not blank. -/
def item? (piece : List Char) : Option String :=
  if (trimWhile isBlank piece).isEmpty then none else some (String.ofList (trimWhile isBlank piece))

variable {s setting : String} {names : List String} {piece : List Char} {pieces : List (List Char)}

theorem items_eq (setting : String) :
    items setting = (splitAt ',' setting.toList).filterMap item? := by
  rw [items, List.filterMap_map]
  rfl

theorem item?_eq_none_iff : item? piece = none ↔ Blank piece := by
  simp [item?, trimWhile_eq_nil_iff, Blank]

theorem item?_of_pads (clean : IsItem s) (pads : Pads s piece) : item? piece = some s := by
  obtain ⟨before, after, blank, rfl⟩ := pads
  have filled : s.toList ≠ [] := by simpa using clean.filled
  rw [item?, trimWhile_pad filled clean.first clean.last blank]
  simp [filled]

theorem toList_of_item? (read : item? piece = some s) :
    s.toList = trimWhile isBlank piece ∧ s ≠ "" := by
  unfold item? at read
  split at read
  · cases read
  · rename_i filled
    cases read
    simpa using filled

theorem pads_of_item? (read : item? piece = some s) : Pads s piece := by
  obtain ⟨before, after, blank, around⟩ := exists_pad isBlank piece
  rw [← (toList_of_item? read).1] at around
  exact .mk before after blank around

theorem isItem_of_item? (read : item? piece = some s) (single : ',' ∉ piece) : IsItem s := by
  obtain ⟨trimmed, filled⟩ := toList_of_item? read
  obtain ⟨before, after, _, around⟩ := pads_of_item? read
  refine ⟨filled, ?_, ?_, ?_⟩
  · simp only [around, List.mem_append, not_or] at single
    exact single.1.2
  · rw [trimmed]
    exact head?_trimWhile _
  · rw [trimmed]
    exact getLast?_trimWhile _

/- From pieces to items and back. -/

theorem Blank.single (blank : Blank piece) : ',' ∉ piece := by
  intro comma
  exact absurd (blank ',' comma) (by decide)

theorem Pads.single (pads : Pads s piece) (clean : IsItem s) : ',' ∉ piece := by
  obtain ⟨before, after, blank, rfl⟩ := pads
  have free := Blank.single blank
  simp only [List.mem_append, not_or] at free ⊢
  exact ⟨⟨free.1, clean.single⟩, free.2⟩

theorem Strewn.single (strewn : Strewn names pieces) (clean : ∀ s ∈ names, IsItem s) :
    ∀ piece ∈ pieces, ',' ∉ piece := by
  induction strewn with
  | nil => exact nofun
  | blank blank _ ih => exact List.forall_mem_cons.mpr ⟨blank.single, ih clean⟩
  | item pads _ ih =>
    obtain ⟨first, others⟩ := List.forall_mem_cons.mp clean
    exact List.forall_mem_cons.mpr ⟨pads.single first, ih others⟩

theorem Strewn.filterMap (strewn : Strewn names pieces) (clean : ∀ s ∈ names, IsItem s) :
    pieces.filterMap item? = names := by
  induction strewn with
  | nil => rfl
  | blank blank _ ih => rw [List.filterMap_cons_none (item?_eq_none_iff.mpr blank), ih clean]
  | item pads _ ih =>
    obtain ⟨first, others⟩ := List.forall_mem_cons.mp clean
    rw [List.filterMap_cons_some (item?_of_pads first pads), ih others]

theorem strewn_filterMap (pieces : List (List Char)) : Strewn (pieces.filterMap item?) pieces := by
  induction pieces with
  | nil => exact .nil
  | cons piece rest ih =>
    cases read : item? piece with
    | none =>
      rw [List.filterMap_cons_none read]
      exact .blank (item?_eq_none_iff.mp read) ih
    | some s =>
      rw [List.filterMap_cons_some read]
      exact .item (pads_of_item? read) ih

theorem lists_iff : Lists setting names ↔ items setting = names := by
  constructor
  · rintro ⟨pieces, clean, strewn, text⟩
    rw [items_eq, text]
    cases pieces with
    | nil =>
      cases strewn
      rfl
    | cons piece rest =>
      rw [splitAt_joinWith (List.cons_ne_nil _ _) (strewn.single clean), strewn.filterMap clean]
  · rintro rfl
    rw [items_eq]
    refine .mk _ ?_ (strewn_filterMap _) (joinWith_splitAt ',' _).symm
    intro s there
    obtain ⟨piece, among, read⟩ := List.mem_filterMap.mp there
    exact isItem_of_item? read (not_mem_of_mem_splitAt among)

/-- A setting of reserved addresses is read as the list of items that were joined by commas to make
it, whatever blanks were put around them and wherever blank items were put between, and as no other
list. Of the other settings only the lease time could keep it from being read. -/
theorem reserved_items_read {e : Environment} {setting : String}
    (held : e.get? "LEASEKEEPER_RESERVED" = some setting)
    (timed : ∀ time ∈ e.get? "LEASEKEEPER_LEASE_TIME_MS", ∃ i, Numeral.ofString time = .ok i) :
    ∃ c, ofEnvironment e = .ok c ∧
      ∀ names, Lists setting names ↔ c.reserved = .list (names.map fun s : String => .text s) := by
  have values : Function.Injective fun s : String => Value.text s := by
    intro s t same
    cases same
    rfl
  have whole : ∃ i, Numeral.ofString
      ((e.get? "LEASEKEEPER_LEASE_TIME_MS").getD (toString defaultLeaseTime)) = .ok i := by
    cases time : e.get? "LEASEKEEPER_LEASE_TIME_MS" with
    | none => exact ⟨defaultLeaseTime, by decide⟩
    | some time' => exact timed time' time
  obtain ⟨i, read⟩ := whole
  unfold ofEnvironment
  dsimp only
  rw [read, held]
  refine ⟨_, rfl, fun names => ?_⟩
  rw [lists_iff, Option.getD_some, Value.list.injEq, (List.map_injective_iff.mpr values).eq_iff]

/-- Blanks of several kinds, with blank items in front, between and behind. -/
theorem noisy_items_read :
    let setting := " , 10.20.0.1\u3000,,\x1f10.20.0.2 ,"
    let e := Environment.ofList [("LEASEKEEPER_LEASE_TIME_MS", " 120_000 "),
      ("LEASEKEEPER_RESERVED", setting), ("LEASEKEEPER_SUBNET", "10.20.0.0/22")]
    Lists setting ["10.20.0.1", "10.20.0.2"] ∧
      ∃ c, ofEnvironment e = .ok c ∧ c.reserved = .list [.text "10.20.0.1", .text "10.20.0.2"] := by
  intro setting e
  have first : Pads "10.20.0.1" " 10.20.0.1\u3000".toList :=
    .mk [' '] ['\u3000'] (by decide) (by decide)
  have second : Pads "10.20.0.2" "\x1f10.20.0.2 ".toList :=
    .mk ['\x1f'] [' '] (by decide) (by decide)
  have strewn : Strewn ["10.20.0.1", "10.20.0.2"]
      [[' '], " 10.20.0.1\u3000".toList, [], "\x1f10.20.0.2 ".toList, []] :=
    .blank (by decide) (.item first (.blank nofun (.item second (.blank nofun .nil))))
  have listed : Lists setting ["10.20.0.1", "10.20.0.2"] :=
    .mk _ (by decide) strewn (by decide)
  have timed : ∀ time ∈ e.get? "LEASEKEEPER_LEASE_TIME_MS",
      ∃ i, Numeral.ofString time = .ok i := by
    rintro time ⟨⟩
    exact ⟨120000, by decide⟩
  have held : e.get? "LEASEKEEPER_RESERVED" = some setting := by decide
  obtain ⟨c, read, all⟩ := reserved_items_read held timed
  exact ⟨listed, c, read, (all _).mp listed⟩

end Config
end LeaseBook
