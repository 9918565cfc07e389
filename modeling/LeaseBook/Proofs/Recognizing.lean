import LeaseBook.Proofs.Run
import LeaseBook.Proofs.Spelling
import Mathlib.Data.List.Forall2
import Mathlib.Data.Nat.Digits.Lemmas

/-!
The spellings of hardware addresses. A grammar says which texts stand for a number: groups of
hexadecimal digits in either case, with one separator between each two. The reader tries its forms
one after the other, and since a text has only so many groups between separators, none of them takes
a text of another one for something else. So whoever comes to the ledger under any spelling is the
same client.
-/

namespace LeaseBook

namespace Text

variable {c sep : Char} {d n count least most : Nat} {cs digits : List Char}

def lowerHexDigits : List Char :=
  ['0', '1', '2', '3', '4', '5', '6', '7', '8', '9', 'a', 'b', 'c', 'd', 'e', 'f']

def upperHexDigits : List Char :=
  ['0', '1', '2', '3', '4', '5', '6', '7', '8', '9', 'A', 'B', 'C', 'D', 'E', 'F']

/-- That a character is the hexadecimal digit of a value, in either case. -/
def IsHexDigit (c : Char) (d : Nat) : Prop :=
  lowerHexDigits[d]? = some c ∨ upperHexDigits[d]? = some c

/-- That hexadecimal digits, each in either case, spell a number. -/
inductive Spells (digits : List Char) (n : Nat) : Prop
  | mk (values : List Nat) (each : List.Forall₂ IsHexDigit digits values)
      (number : Nat.ofDigits 16 values.reverse = n)

/-- That `count` groups of `least` to `most` digits spell a number, with a separator between each
two. Each group stands for `most` digits of the number. -/
inductive Grouping (sep : Char) (count least most : Nat) (cs : List Char) (n : Nat) : Prop
  | mk (groups : List (List Char)) (values : List Nat) (text : cs = joinWith [sep] groups)
      (length : groups.length = count) (short : ∀ g ∈ groups, least ≤ g.length ∧ g.length ≤ most)
      (each : List.Forall₂ Spells groups values)
      (number : Nat.ofDigits (16 ^ most) values.reverse = n)

/-- The characters that stand between groups or end a line. -/
def marks : List Char := [':', '-', '.', '\n']

/- Digits. -/

theorem IsHexDigit.value (digit : IsHexDigit c d) : hexValue? c = some d := by
  have lower : lowerHexDigits.map hexValue? = (List.range 16).map some := by decide
  have upper : upperHexDigits.map hexValue? = (List.range 16).map some := by decide
  have found {all : List Char} (values : all.map hexValue? = (List.range 16).map some)
      (here : all[d]? = some c) : hexValue? c = some d := by
    have read := congrArg (·[d]?) values
    simp only [List.getElem?_map, here, Option.map_some] at read
    obtain ⟨k, there, same⟩ := Option.map_eq_some_iff.mp read.symm
    rw [← same, (List.getElem?_eq_some_iff.mp there).2.symm, List.getElem_range]
  exact digit.elim (found lower) (found upper)

theorem IsHexDigit.not_mark (digit : IsHexDigit c d) : c ∉ marks := by
  have valueless : marks.all (fun c => (hexValue? c).isNone) = true := by decide
  intro mark
  have nothing := List.all_eq_true.mp valueless c mark
  rw [digit.value] at nothing
  cases nothing

theorem isHexDigit_hexDigit (small : d < 16) : IsHexDigit (hexDigit d) d := by
  have all : ∀ k ∈ List.range 16, lowerHexDigits[k]? = some (hexDigit k) := by decide
  exact .inl (all d (List.mem_range.mpr small))

theorem spells_hexPad_two (small : n < 256) : Spells (hexPad 2 n) n := by
  have high : n / 16 % 16 < 16 := Nat.mod_lt _ (by decide)
  have low : n % 16 < 16 := Nat.mod_lt _ (by decide)
  have each : List.Forall₂ IsHexDigit (hexPad 2 n) [n / 16 % 16, n % 16] :=
    .cons (isHexDigit_hexDigit high) (.cons (isHexDigit_hexDigit low) .nil)
  have whole : Nat.ofDigits 16 [n / 16 % 16, n % 16].reverse = n := by
    simp only [List.reverse_cons, List.reverse_nil, List.nil_append, List.cons_append,
      Nat.ofDigits_cons, Nat.ofDigits_nil]
    omega
  exact .mk _ each whole

theorem Spells.not_mem (spells : Spells digits n) (mark : c ∈ marks) : c ∉ digits := by
  obtain ⟨_, each, number⟩ := spells
  clear number
  induction each with
  | nil => exact List.not_mem_nil
  | cons digit _ ih =>
    rintro (_ | ⟨_, there⟩)
    · exact digit.not_mark mark
    · exact ih there

/- Groups. -/

variable {groups : List (List Char)} {values : List Nat}

theorem groups_not_mem (each : List.Forall₂ Spells groups values) (mark : c ∈ marks) :
    ∀ g ∈ groups, c ∉ g := by
  induction each with
  | nil => exact nofun
  | cons spells _ ih => exact List.forall_mem_cons.mpr ⟨spells.not_mem mark, ih⟩

theorem Grouping.not_mem (grouping : Grouping sep count least most cs n) (mark : c ∈ marks)
    (other : c ≠ sep) : c ∉ cs := by
  obtain ⟨_, _, rfl, _, _, each, _⟩ := grouping
  intro there
  rcases mem_joinWith there with same | ⟨g, among, here⟩
  · exact other same
  · exact groups_not_mem each mark g among here

theorem Grouping.length_splitAt (grouping : Grouping sep count least most cs n)
    (mark : sep ∈ marks) (some : 0 < count) : (splitAt sep cs).length = count := by
  obtain ⟨groups, _, rfl, length, _, each, _⟩ := grouping
  have filled : groups ≠ [] := List.ne_nil_of_length_pos (length ▸ some)
  rw [splitAt_joinWith filled (groups_not_mem each mark), length]

theorem Grouping.weaken {fewer : Nat} (grouping : Grouping sep count least most cs n)
    (less : fewer ≤ least) : Grouping sep count fewer most cs n := by
  obtain ⟨groups, values, text, length, short, each, number⟩ := grouping
  exact .mk groups values text length
    (fun g among => (short g among).imp_left (Nat.le_trans less)) each number

end Text

/- Reading on, digit by digit or group by group. -/

namespace Identifier

open Text

variable {sep : Char} {n count least most : Nat} {cs digits : List Char}
  {groups : List (List Char)} {values : List Nat}

theorem ofDigits_eq_foldl (base : Nat) (values : List Nat) :
    values.foldl (fun acc v => base * acc + v) 0 = Nat.ofDigits base values.reverse := by
  rw [Nat.ofDigits_eq_foldr, List.foldr_reverse]
  simp only [Nat.cast_id, Nat.add_comm]

/-- Numbers read one after the other are the digits of a number. -/
theorem foldl_read {α : Type} {read : α → Option Nat} {xs : List α}
    (each : List.Forall₂ (fun x v => read x = some v) xs values) (base : Nat) :
    xs.foldl (fun acc x => acc.bind fun n => (read x).map (base * n + ·)) (some 0) =
      some (Nat.ofDigits base values.reverse) := by
  have onward (start : Nat) :
      xs.foldl (fun acc x => acc.bind fun n => (read x).map (base * n + ·)) (some start) =
        some (values.foldl (fun acc v => base * acc + v) start) := by
    induction each generalizing start with
    | nil => rfl
    | cons first _ ih =>
      rw [List.foldl_cons, List.foldl_cons, Option.bind_some, first, Option.map_some, ih]
  rw [onward, ofDigits_eq_foldl]

theorem hexNumber?_of_spells (spells : Spells digits n) : hexNumber? digits = some n := by
  obtain ⟨_, each, rfl⟩ := spells
  exact foldl_read (each.imp fun _ _ digit => digit.value) 16

theorem grouped?_of_grouping (grouping : Grouping sep count least most cs n)
    (mark : sep ∈ marks) (some : 0 < count) :
    grouped? sep count least most cs = .some n := by
  obtain ⟨groups, _, rfl, length, short, each, rfl⟩ := grouping
  have filled : groups ≠ [] := List.ne_nil_of_length_pos (length ▸ some)
  have fits := List.all_eq_true.mpr fun g among =>
    (Bool.and_eq_true _ _).mpr ((short g among).imp decide_eq_true decide_eq_true)
  unfold grouped?
  dsimp only
  rw [splitAt_joinWith filled (groups_not_mem each mark), if_pos ⟨length, fits⟩]
  exact foldl_read (each.imp fun _ _ spells => hexNumber?_of_spells spells) (16 ^ most)

theorem grouped?_of_length (other : (splitAt sep cs).length ≠ count) :
    grouped? sep count least most cs = none :=
  if_neg fun both => other both.1

theorem grouped?_of_not_mem (free : sep ∉ cs) (several : 1 ≠ count) :
    grouped? sep count least most cs = none := by
  apply grouped?_of_length
  rw [splitAt_of_not_mem free]
  exact several

/- The forms, each passed over where a text is of another one. -/

theorem dropLineEnd_of_not_mem {cs : List Char} (free : '\n' ∉ cs) : dropLineEnd cs = cs := by
  apply if_neg
  intro last
  exact free (List.mem_of_getLast? last)

theorem spelled48?_of_octets (mark : sep = ':' ∨ sep = '-') (grouping : Grouping sep 6 1 2 cs n) :
    spelled48? cs = some n := by
  rcases mark with rfl | rfl
  · have read := grouped?_of_grouping grouping (by decide) (by decide)
    rw [spelled48?, read]
    rfl
  · have colons : ':' ∉ cs := grouping.not_mem (by decide) (by decide)
    have read := grouped?_of_grouping grouping (by decide) (by decide)
    rw [spelled48?, grouped?_of_not_mem colons (by decide), read]
    rfl

theorem spelled48?_of_words (mark : sep = ':' ∨ sep = '-' ∨ sep = '.')
    (grouping : Grouping sep 3 1 4 cs n) : spelled48? cs = some n := by
  -- the forms in front either split at a mark that the text lacks or ask for six groups
  rcases mark with rfl | rfl | rfl
  · have dashes : '-' ∉ cs := grouping.not_mem (by decide) (by decide)
    have three : (splitAt ':' cs).length = 3 := grouping.length_splitAt (by decide) (by decide)
    have read := grouped?_of_grouping grouping (by decide) (by decide)
    rw [spelled48?, grouped?_of_length (three ▸ by decide), grouped?_of_not_mem dashes (by decide),
      read]
    rfl
  · have colons : ':' ∉ cs := grouping.not_mem (by decide) (by decide)
    have three : (splitAt '-' cs).length = 3 := grouping.length_splitAt (by decide) (by decide)
    have read := grouped?_of_grouping grouping (by decide) (by decide)
    rw [spelled48?, grouped?_of_not_mem colons (by decide), grouped?_of_length (three ▸ by decide),
      grouped?_of_not_mem colons (by decide), read]
    rfl
  · have colons : ':' ∉ cs := grouping.not_mem (by decide) (by decide)
    have dashes : '-' ∉ cs := grouping.not_mem (by decide) (by decide)
    have read := grouped?_of_grouping grouping (by decide) (by decide)
    rw [spelled48?, grouped?_of_not_mem colons (by decide), grouped?_of_not_mem dashes (by decide),
      grouped?_of_not_mem colons (by decide), grouped?_of_not_mem dashes (by decide), read]
    rfl

theorem spelled48?_of_bare (length : cs.length = 12) (spells : Spells cs n) :
    spelled48? cs = some n := by
  have colons : ':' ∉ cs := spells.not_mem (by decide)
  have dashes : '-' ∉ cs := spells.not_mem (by decide)
  have dots : '.' ∉ cs := spells.not_mem (by decide)
  have read : bare? 12 cs = some n := (if_pos length).trans (hexNumber?_of_spells spells)
  rw [spelled48?, grouped?_of_not_mem colons (by decide), grouped?_of_not_mem dashes (by decide),
    grouped?_of_not_mem colons (by decide), grouped?_of_not_mem dashes (by decide),
    grouped?_of_not_mem dots (by decide), grouped?_of_not_mem dashes (by decide),
    grouped?_of_not_mem colons (by decide), read]
  rfl

end Identifier

namespace Hardware

/-- The texts that stand for a hardware address: six groups of digits, three groups of digits, or
all digits in a row. -/
inductive Spelling (h : Hardware) (cs : List Char) : Prop
  | octets {sep : Char} (mark : sep = ':' ∨ sep = '-')
      (grouping : Text.Grouping sep 6 1 2 cs h.number)
  | words {sep : Char} (mark : sep = ':' ∨ sep = '-' ∨ sep = '.')
      (grouping : Text.Grouping sep 3 1 4 cs h.number)
  | bare (length : cs.length = 12) (spells : Text.Spells cs h.number)

variable {h : Hardware} {cs : List Char} {b : List UInt8}

theorem Spelling.spelled48? (spelling : h.Spelling cs) :
    Identifier.spelled48? cs = some h.number := by
  cases spelling with
  | octets mark grouping => exact Identifier.spelled48?_of_octets mark grouping
  | words mark grouping => exact Identifier.spelled48?_of_words mark grouping
  | bare length spells => exact Identifier.spelled48?_of_bare length spells

theorem Spelling.oneLine (spelling : h.Spelling cs) : '\n' ∉ cs := by
  cases spelling with
  | octets mark grouping =>
    exact grouping.not_mem (by decide) (by rcases mark with rfl | rfl <;> decide)
  | words mark grouping =>
    exact grouping.not_mem (by decide) (by rcases mark with rfl | rfl | rfl <;> decide)
  | bare length spells => exact spells.not_mem (by decide)

theorem Spelling.ofString? {s : String} (spelling : h.Spelling s.toList) :
    Identifier.ofString? s = some (.short h) := by
  have chosen : (some h.number <|> Identifier.number? (2 ^ 48) s.toList).bind ofNat? = some h :=
    dif_pos h.isLt
  unfold Identifier.ofString? Identifier.ofChars?
  dsimp only
  rw [Identifier.dropLineEnd_of_not_mem spelling.oneLine, spelling.spelled48?, chosen]

/- What is written. -/

theorem octet_lt (h : Hardware) : ∀ n ∈ h.octets, n < 256 := by
  intro n among
  obtain ⟨i, _, rfl⟩ := List.mem_map.mp among
  exact Nat.mod_lt _ (by decide)

theorem length_octets (h : Hardware) : h.octets.length = 6 := by simp [octets]

theorem foldl_octets (h : Hardware) :
    h.octets.foldl (fun acc n => 16 ^ 2 * acc + n) 0 = h.number := by
  have := h.isLt
  simp only [octets, List.range, List.range.loop, List.map_cons, List.map_nil, List.foldl_cons,
    List.foldl_nil]
  omega

theorem grouping_chars (h : Hardware) : Text.Grouping ':' 6 2 2 h.chars h.number := by
  have each : List.Forall₂ Text.Spells (h.octets.map (Text.hexPad 2)) h.octets := by
    rw [List.forall₂_map_left_iff, List.forall₂_same]
    intro n octet
    exact Text.spells_hexPad_two (h.octet_lt n octet)
  have whole : Nat.ofDigits (16 ^ 2) h.octets.reverse = h.number := by
    rw [← Identifier.ofDigits_eq_foldl, h.foldl_octets]
  exact .mk _ _ rfl (by rw [List.length_map, h.length_octets]) (by simp [Text.length_hexPad]) each
    whole

theorem isUpper_chars (h : Hardware) : ∀ c ∈ h.chars, c.isUpper = false := by
  have all : ∀ k ∈ List.range 16, (Text.hexDigit k).isUpper = false := by decide
  intro c there
  rcases Text.mem_joinWith there with rfl | ⟨piece, among, here⟩
  · rfl
  · obtain ⟨n, _, rfl⟩ := List.mem_map.mp among
    obtain ⟨k, small, rfl⟩ := Text.exists_hexDigit here
    exact all k (List.mem_range.mpr small)

theorem spelling_text (h : Hardware) : h.Spelling h.text.toList := by
  rw [text, String.toList_ofList]
  exact .octets (.inl rfl) (h.grouping_chars.weaken (by decide))

/-- That bytes are the number of a hardware address, the most significant first. -/
structure IsBytes (h : Hardware) (b : List UInt8) : Prop where
  length : b.length = 6
  number : Nat.ofDigits 256 (b.map UInt8.toNat).reverse = h.number

theorem map_toNat_bytes (h : Hardware) : h.bytes.map UInt8.toNat = h.octets := by
  rw [bytes, List.map_map]
  conv_rhs => rw [← List.map_id h.octets]
  apply List.map_congr_left
  intro n octet
  exact UInt8.toNat_ofNat_of_lt (h.octet_lt n octet)

theorem isBytes_bytes (h : Hardware) : h.IsBytes h.bytes := by
  constructor
  · rw [bytes, List.length_map, h.length_octets]
  · rw [map_toNat_bytes, ← Identifier.ofDigits_eq_foldl, ← h.foldl_octets]

theorem isBytes_iff : h.IsBytes b ↔ b = h.bytes := by
  constructor
  · intro own
    have written := h.isBytes_bytes
    have below (bytes : List UInt8) : ∀ n ∈ (bytes.map UInt8.toNat).reverse, n < 256 := by
      intro n there
      obtain ⟨byte, _, rfl⟩ := List.mem_map.mp (List.mem_reverse.mp there)
      exact byte.toNat_lt
    have digits := Nat.ofDigits_inj_of_len_eq (by decide)
      (by simp only [List.length_reverse, List.length_map, own.length, written.length])
      (below b) (below h.bytes) (own.number.trans written.number.symm)
    exact List.map_injective_iff.mpr (fun _ _ => UInt8.toNat_inj.mp) (List.reverse_injective digits)
  · rintro rfl
    exact h.isBytes_bytes

theorem IsBytes.ofBytes? (own : h.IsBytes b) : Hardware.ofBytes? b = some h := by
  have number : b.foldl (fun acc byte => acc * 256 + byte.toNat) 0 = h.number := by
    rw [← own.number, ← Identifier.ofDigits_eq_foldl, List.foldl_map]
    simp only [Nat.mul_comm]
  unfold Hardware.ofBytes?
  rw [if_pos own.length, number]
  exact dif_pos h.isLt

end Hardware

namespace Value

variable {h : Hardware} {v : Value}

/-- The values that stand for a hardware address: its number, its bytes, the address itself, and the
texts that spell it. -/
inductive Names (h : Hardware) : Value → Prop
  | number {v : Value} (whole : v.int? = some (h.number : Int)) : Names h v
  | bytes {b : List UInt8} (own : h.IsBytes b) : Names h (.bytes b)
  | identifier : Names h (.identifier (.short h))
  | text {s : String} (spelling : h.Spelling s.toList) : Names h (.text s)

theorem toHardware_of_int? {i : Int} (whole : v.int? = some i) :
    toHardware v = match Identifier.ofInt? i with
      | some e => hardwareOf v.shown e
      | none => .error (.notHardware v) := by
  unfold int? at whole
  split at whole
  · cases whole
    rfl
  · cases whole
    rfl
  · cases whole

theorem Names.toHardware (names : v.Names h) : v.toHardware = .ok h := by
  cases names with
  | number whole =>
    have short : Identifier.ofInt? (h.number : Int) = some (.short h) := by
      unfold Identifier.ofInt?
      rw [if_neg (by omega), Int.toNat_natCast, Hardware.ofNat?, dif_pos h.isLt]
    rw [toHardware_of_int? whole, short]
    rfl
  | bytes own =>
    unfold Value.toHardware
    simp only [own.ofBytes?]
  | identifier => rfl
  | text spelling =>
    unfold Value.toHardware
    simp only [RawText.readable, spelling.ofString?, hardwareOf]

theorem toHardware_text (h : Hardware) : toHardware (.text h.text) = .ok h :=
  (Names.text h.spelling_text).toHardware

end Value

/- Calls under other spellings. -/

/-- That two calls are the same but for how a hardware address is given. -/
inductive Call.Respells : Call → Call → Prop
  | same (c : Call) : Respells c c
  | offer {h : Hardware} {mac mac' : Value} (names : mac.Names h) (names' : mac'.Names h)
      (id : Option (List UInt8)) (source relay requested hostname : Value) :
      Respells (.offer id mac source relay requested hostname)
        (.offer id mac' source relay requested hostname)
  | request {h : Hardware} {mac mac' : Value} (names : mac.Names h) (names' : mac'.Names h)
      (id : Option (List UInt8)) (source requested : Value) (serverChosen : Bool)
      (hostname : Value) :
      Respells (.request id mac source requested serverChosen hostname)
        (.request id mac' source requested serverChosen hostname)
  | release {h : Hardware} {mac mac' : Value} (names : mac.Names h) (names' : mac'.Names h)
      (id : Option (List UInt8)) (address : Value) :
      Respells (.release id mac address) (.release id mac' address)

theorem Call.Respells.operation {c d : Call} (respells : c.Respells d) :
    c.operation = d.operation := by
  cases respells with
  | same => rfl
  | offer names names' => simp only [Call.operation, names.toHardware, names'.toHardware]
  | request names names' => simp only [Call.operation, names.toHardware, names'.toHardware]
  | release names names' => simp only [Call.operation, names.toHardware, names'.toHardware]

structure Turn.Respells (t u : Turn) : Prop where
  now : t.now = u.now
  call : t.call.Respells u.call

theorem Turn.Respells.run {t u : Turn} (respells : t.Respells u) (l : Ledger) :
    t.run l = u.run l := by
  unfold Turn.run Call.run
  rw [respells.now, respells.call.operation]

theorem Ledger.run_respelled {turns others : List Turn}
    (respelled : List.Forall₂ Turn.Respells turns others) (l : Ledger) :
    (l.exchanges turns).map Exchange.answer = (l.exchanges others).map Exchange.answer ∧
      l.after turns = l.after others := by
  induction respelled generalizing l with
  | nil => exact ⟨rfl, rfl⟩
  | @cons t u _ _ first _ ih =>
    obtain ⟨answers, left⟩ := ih (t.run l).ledger
    have same := first.run l
    simp only [exchanges, Turn.exchange, after, List.map_cons, ← same]
    exact ⟨congrArg _ answers, left⟩

namespace Value

/-- A hardware address is read from its number, from its bytes, and from every text that spells it,
whatever the separator, the lengths of the groups and the case of each digit. The text that is
written spells it with two digits in lower case for each octet, between colons, and is read as the
address again; the bytes that are written are the only ones it is read from as bytes. So a run is
answered the same, and leaves the same ledger, whichever spellings its clients go by. -/
theorem hardware_spellings_agree :
    (∀ (h : Hardware) (v : Value), v.Names h → v.toHardware = .ok h) ∧
    (∀ h : Hardware, Text.Grouping ':' 6 2 2 h.text.toList h.number ∧
      (∀ c ∈ h.text.toList, c.isUpper = false) ∧ toHardware (.text h.text) = .ok h) ∧
    (∀ (h : Hardware) (b : List UInt8), h.IsBytes b ↔ b = h.bytes) ∧
    ∀ (l : Ledger) (turns others : List Turn), List.Forall₂ Turn.Respells turns others →
      (l.exchanges turns).map Exchange.answer = (l.exchanges others).map Exchange.answer ∧
        l.after turns = l.after others := by
  refine ⟨fun h v names => names.toHardware, fun h => ?_, fun h b => Hardware.isBytes_iff,
    fun l turns others respelled => Ledger.run_respelled respelled l⟩
  have written : h.text.toList = h.chars := String.toList_ofList
  rw [written]
  exact ⟨h.grouping_chars, h.isUpper_chars, toHardware_text h⟩

/-- Groups of fewer digits than they stand for, in both cases. -/
example : (Value.text "2ab.0.cD").Names ⟨0x02AB000000CD, by decide⟩ := by
  have first : Text.Spells ['2', 'a', 'b'] 0x2AB :=
    .mk [2, 10, 11] (.cons (.inl rfl) (.cons (.inl rfl) (.cons (.inl rfl) .nil))) rfl
  have second : Text.Spells ['0'] 0 := .mk [0] (.cons (.inl rfl) .nil) rfl
  have third : Text.Spells ['c', 'D'] 0xCD :=
    .mk [12, 13] (.cons (.inl rfl) (.cons (.inr rfl) .nil)) rfl
  have words : Text.Grouping '.' 3 1 4 "2ab.0.cD".toList 0x02AB000000CD :=
    .mk [['2', 'a', 'b'], ['0'], ['c', 'D']] [0x2AB, 0, 0xCD] rfl rfl (by decide)
      (.cons first (.cons second (.cons third .nil))) rfl
  exact .text (.words (.inr (.inr rfl)) words)

end Value
end LeaseBook
