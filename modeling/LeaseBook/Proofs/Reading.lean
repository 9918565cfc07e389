import LeaseBook.Proofs.Spelling

/-!
The text of an address is the only text that is read as it. The reader takes no other spelling of an
octet than the one that is written, so it takes no other text than four of them between dots, and
every text that it refuses is refused for what it says and not for its shape.
-/

namespace LeaseBook

namespace Address

variable {n : Nat} {i : Int} {c : Char} {cs : List Char} {pieces : List (List Char)}
  {values : List Nat} {a : Address} {s : String}

/- Octets. -/

theorem digit?_eq_some (read : digit? c = some n) : n ≤ 9 ∧ digitChar n = c := by
  unfold digit? at read
  split at read
  · rename_i decimal
    have here : 0x30 + n = c.toNat := by
      cases read
      omega
    refine ⟨by omega, ?_⟩
    rw [digitChar, here, Char.ofNat_toNat]
  · cases read

/-- An octet is read from the digits that are written for it, and from no others. -/
theorem octet?_eq_some (read : octet? cs = some n) : n < 256 ∧ octetChars n = cs := by
  unfold octet? at read
  split at read
  · obtain ⟨small, rfl⟩ := digit?_eq_some read
    exact ⟨by omega, if_pos (by omega)⟩
  · split at read
    · rename_i x y first second
      obtain ⟨smallX, rfl⟩ := digit?_eq_some first
      obtain ⟨smallY, rfl⟩ := digit?_eq_some second
      split at read
      · cases read
      · cases read
        refine ⟨by omega, ?_⟩
        have tens : (10 * x + y) / 10 = x := by omega
        have ones : (10 * x + y) % 10 = y := by omega
        unfold octetChars
        rw [if_neg (by omega), if_pos (by omega), tens, ones]
    · cases read
  · split at read
    · rename_i x y z first second third
      obtain ⟨smallX, rfl⟩ := digit?_eq_some first
      obtain ⟨smallY, rfl⟩ := digit?_eq_some second
      obtain ⟨smallZ, rfl⟩ := digit?_eq_some third
      dsimp only at read
      split at read
      · cases read
      · cases read
        refine ⟨by omega, ?_⟩
        have hundreds : (100 * x + 10 * y + z) / 100 = x := by omega
        have tens : (100 * x + 10 * y + z) / 10 % 10 = y := by omega
        have ones : (100 * x + 10 * y + z) % 10 = z := by omega
        unfold octetChars
        rw [if_neg (by omega), if_neg (by omega), hundreds, tens, ones]
    · cases read
  · cases read

theorem octets_read (read : pieces.map octet? = values.map some) :
    (∀ n ∈ values, n < 256) ∧ pieces = values.map octetChars := by
  induction values generalizing pieces with
  | nil => exact ⟨nofun, List.map_eq_nil_iff.mp read⟩
  | cons n values ih =>
    obtain ⟨piece, rest, rfl, first, others⟩ := List.map_eq_cons_iff.mp read
    obtain ⟨small, here⟩ := octet?_eq_some first
    obtain ⟨below, there⟩ := ih others
    exact ⟨List.forall_mem_cons.mpr ⟨small, below⟩, by rw [there, ← here]; rfl⟩

/- Texts. -/

theorem ofNat?_eq_some_iff : ofNat? n = some a ↔ n = a.number := by
  unfold ofNat?
  split
  · rw [Option.some.injEq, Address.ext_iff]
  · rename_i large
    refine iff_of_false nofun fun same => large ?_
    rw [same]
    exact a.isLt

theorem ofInt?_eq_some_iff : ofInt? i = some a ↔ i = a.number := by
  unfold ofInt?
  split
  · rw [ofNat?_eq_some_iff]
    omega
  · exact iff_of_false nofun (by omega)

theorem eq_chars_of_ofChars? (read : ofChars? cs = some a) : cs = a.chars := by
  unfold ofChars? at read
  split at read
  · rename_i w x y z pieces
    have each : (Text.splitAt '.' cs).map octet? = [w, x, y, z].map some := pieces
    obtain ⟨small, there⟩ := octets_read each
    have number := ofNat?_eq_some_iff.mp read
    have octets : a.octets = [w, x, y, z] := by
      simp only [List.mem_cons, List.not_mem_nil, or_false, forall_eq_or_imp, forall_eq] at small
      simp only [Address.octets, List.cons.injEq, and_true]
      omega
    rw [chars, octets, ← there, Text.joinWith_splitAt]
  · cases read

theorem ofString?_eq_some_iff : ofString? s = some a ↔ s = a.text := by
  constructor
  · intro read
    rw [text, ← eq_chars_of_ofChars? read, String.ofList_toList]
  · rintro rfl
    exact a.ofString?_text

theorem replacement_not_mem_chars (a : Address) : '\uFFFD' ∉ a.chars := by
  have all : ∀ k ∈ List.range 256, '\uFFFD' ∉ octetChars k := by decide +kernel
  intro there
  rcases Text.mem_joinWith there with dot | ⟨piece, among, here⟩
  · cases dot
  · obtain ⟨n, octet, rfl⟩ := List.mem_map.mp among
    exact all n (List.mem_range.mpr (a.octet_lt n octet)) here

theorem octetChars_eq_toString (small : n < 256) : octetChars n = (toString n).toList := by
  have all : ∀ k ∈ List.range 256, octetChars k = Nat.toDigits 10 k := by decide +kernel
  rw [all n (List.mem_range.mpr small)]
  exact String.toList_ofList.symm

theorem text_eq (a : Address) :
    a.text = toString (a.number / 2 ^ 24) ++ "." ++ toString (a.number / 2 ^ 16 % 256) ++ "." ++
      toString (a.number / 2 ^ 8 % 256) ++ "." ++ toString (a.number % 256) := by
  have written (n : Nat) (octet : n ∈ a.octets) := octetChars_eq_toString (a.octet_lt n octet)
  have first := written (a.number / 2 ^ 24) (by simp [octets])
  have second := written (a.number / 2 ^ 16 % 256) (by simp [octets])
  have third := written (a.number / 2 ^ 8 % 256) (by simp [octets])
  have fourth := written (a.number % 256) (by simp [octets])
  rw [← String.toList_inj]
  simp only [text, chars, octets, List.map_cons, List.map_nil, Text.joinWith, first, second, third,
    fourth, String.toList_ofList, String.toList_append, List.append_assoc]
  rfl

end Address

namespace Value

variable {v : Value} {s : RawText} {i : Int} {a : Address}

theorem toAddress_text_iff_readable :
    toAddress (.text s) = .ok a ↔ Address.ofString? s.readable = some a := by
  simp only [toAddress, IpAddress.ofString?]
  cases Address.ofString? s.readable with
  | some b => simp
  | none => cases Address6.ofChars? s.readable.toList <;> simp

theorem toAddress_text_iff : toAddress (.text s) = .ok a ↔ s = .whole a.text := by
  rw [toAddress_text_iff_readable, Address.ofString?_eq_some_iff]
  cases s with
  | whole s => rw [RawText.whole.injEq]; rfl
  | broken points isBroken =>
    refine iff_of_false (fun same => ?_) nofun
    -- the half of a pair is read as a character that no address has
    obtain ⟨point, there, half⟩ := List.any_eq_true.mp isBroken
    have marked : RawText.pointChar point = '\uFFFD' := if_pos half
    have chars : points.map RawText.pointChar = a.chars := String.ofList_inj.mp same
    refine a.replacement_not_mem_chars ?_
    rw [← chars, ← marked]
    exact List.mem_map_of_mem there

theorem kind_of_toAddress_text {fault : Fault} (failed : toAddress (.text s) = .error fault) :
    fault.kind = .value := by
  simp only [toAddress] at failed
  split at failed <;> cases failed <;> rfl

theorem toAddress_of_int? (whole : v.int? = some i) :
    toAddress v = match Address.ofInt? i with
      | some a => .ok a
      | none => .error (.notAddress v) := by
  unfold int? at whole
  split at whole
  · cases whole
    rfl
  · cases whole
    rfl
  · cases whole

theorem toAddress_int_iff (whole : v.int? = some i) : toAddress v = .ok a ↔ i = a.number := by
  rw [toAddress_of_int? whole, ← Address.ofInt?_eq_some_iff]
  cases Address.ofInt? i with
  | some b => simp
  | none => simp

theorem kind_of_toAddress_int {fault : Fault} (whole : v.int? = some i)
    (failed : toAddress v = .error fault) : fault.kind = .value := by
  rw [toAddress_of_int? whole] at failed
  split at failed <;> cases failed
  rfl

/-- An address is written as its four octets in decimal with dots between them. That text is read as
the address and no other text is, and its number is and no other number, truth values counting as
numbers. So the numbers that are read are those below 2 ^ 32, and what else is text or a number is
refused as of the right shape but not acceptable. -/
theorem address_text_canonical :
    (∀ a : Address, a.text =
      toString (a.number / 2 ^ 24) ++ "." ++ toString (a.number / 2 ^ 16 % 256) ++ "." ++
        toString (a.number / 2 ^ 8 % 256) ++ "." ++ toString (a.number % 256)) ∧
    (∀ (s : RawText) (a : Address), toAddress (.text s) = .ok a ↔ s = .whole a.text) ∧
    (∀ (s : RawText) (fault : Fault), toAddress (.text s) = .error fault → fault.kind = .value) ∧
    ∀ (v : Value) (i : Int), v.int? = some i →
      (∀ a : Address, toAddress v = .ok a ↔ i = a.number) ∧
      ((∃ a : Address, toAddress v = .ok a) ↔ 0 ≤ i ∧ i < 2 ^ 32) ∧
      ∀ fault : Fault, toAddress v = .error fault → fault.kind = .value := by
  refine ⟨Address.text_eq, fun s a => toAddress_text_iff, fun s fault => kind_of_toAddress_text,
    fun v i whole => ⟨fun a => toAddress_int_iff whole, ?_, fun fault =>
      kind_of_toAddress_int whole⟩⟩
  constructor
  · rintro ⟨a, read⟩
    have number := (toAddress_int_iff whole).mp read
    have := a.isLt
    omega
  · rintro ⟨first, last⟩
    have below : i.toNat < 2 ^ 32 := by omega
    exact ⟨⟨i.toNat, below⟩, (toAddress_int_iff whole).mpr (Int.toNat_of_nonneg first).symm⟩

end Value
end LeaseBook
