import LeaseBook.Value.Reading

/-!
What is written can be read. The readers take many spellings of bytes and addresses, among them the
one that the writers choose, and read back from it what was written. For bytes that holds of none at
all as well, though their spelling is the empty text.
-/

namespace LeaseBook

namespace Text

variable {sep : Char} {c : Char} {piece : List Char} {pieces : List (List Char)}

/- Pieces between separators. -/

theorem splitAt_joinWith (some : pieces ≠ []) (free : ∀ piece ∈ pieces, sep ∉ piece) :
    splitAt sep (joinWith [sep] pieces) = pieces := by
  induction pieces with
  | nil => exact absurd rfl some
  | cons piece pieces ih =>
    obtain ⟨first, others⟩ := List.forall_mem_cons.mp free
    cases pieces with
    | nil => exact splitAt_of_not_mem first
    | cons next rest =>
      have shape : joinWith [sep] (piece :: next :: rest) =
          piece ++ sep :: joinWith [sep] (next :: rest) := by
        simp [joinWith]
      rw [shape, splitAt_append first, ih (List.cons_ne_nil _ _) others]

theorem not_mem_of_mem_splitAt (among : piece ∈ splitAt sep cs) : sep ∉ piece := by
  induction cs generalizing piece with
  | nil => simp_all [splitAt]
  | cons c cs ih =>
    simp only [splitAt] at among
    split at among
    · rcases List.mem_cons.mp among with rfl | later
      · exact List.not_mem_nil
      · exact ih later
    · rename_i other
      have single : sep ∉ [c] := by simpa using Ne.symm other
      split at among
      · rw [List.mem_singleton.mp among]
        exact single
      · rename_i front pieces found
        rcases List.mem_cons.mp among with rfl | later
        · have behind : sep ∉ front := ih (found ▸ List.mem_cons_self)
          simpa using ⟨Ne.symm other, behind⟩
        · exact ih (found ▸ List.mem_cons_of_mem _ later)

theorem mem_joinWith (there : c ∈ joinWith [sep] pieces) :
    c = sep ∨ ∃ piece ∈ pieces, c ∈ piece := by
  induction pieces with
  | nil => cases there
  | cons piece pieces ih =>
    cases pieces with
    | nil => exact .inr ⟨piece, List.mem_cons_self, there⟩
    | cons next rest =>
      simp only [joinWith, List.append_assoc, List.mem_append, List.mem_singleton] at there
      rcases there with here | between | later
      · exact .inr ⟨piece, List.mem_cons_self, here⟩
      · exact .inl between
      · rcases ih later with between | ⟨other, among, here⟩
        · exact .inl between
        · exact .inr ⟨other, List.mem_cons_of_mem _ among, here⟩

/- Pairs of hexadecimal digits. -/

theorem hexPad_two (n : Nat) : hexPad 2 n = [hexDigit (n / 16 % 16), hexDigit (n % 16)] := rfl

theorem hexDigit_plain {n : Nat} (small : n < 16) :
    (hexDigit n).toNat < 0x80 ∧ isAsciiSpace (hexDigit n) = false := by
  have all : ∀ k ∈ List.range 16,
      (hexDigit k).toNat < 0x80 ∧ isAsciiSpace (hexDigit k) = false := by decide
  exact all n (List.mem_range.mpr small)

theorem exists_hexDigit {n : Nat} (there : c ∈ hexPad 2 n) : ∃ k, k < 16 ∧ c = hexDigit k := by
  rw [hexPad_two] at there
  simp only [List.mem_cons, List.not_mem_nil, or_false] at there
  rcases there with rfl | rfl
  · exact ⟨_, Nat.mod_lt _ (by decide), rfl⟩
  · exact ⟨_, Nat.mod_lt _ (by decide), rfl⟩

theorem hexPairs_hexPad (pos : Nat) (b : UInt8) (rest : List Char) :
    hexPairs pos (hexPad 2 b.toNat ++ rest) = (hexPairs (pos + 2) rest).map (b :: ·) := by
  have high : b.toNat / 16 % 16 < 16 := Nat.mod_lt _ (by decide)
  have low : b.toNat % 16 < 16 := Nat.mod_lt _ (by decide)
  have whole : 16 * (b.toNat / 16 % 16) + b.toNat % 16 = b.toNat := by
    have := b.toNat_lt
    omega
  rw [hexPad_two, List.cons_append, List.cons_append, List.nil_append, hexPairs,
    (hexDigit_plain high).2, hexValue?_hexDigit high, hexValue?_hexDigit low]
  simp only [Bool.false_eq_true, if_false, whole, UInt8.ofNat_toNat]
  cases hexPairs (pos + 2) rest with
  | ok bytes => rfl
  | error place => rfl

theorem hexPairs_flatMap (pos : Nat) (bytes : List UInt8) :
    hexPairs pos (bytes.flatMap fun b => hexPad 2 b.toNat) = .ok bytes := by
  induction bytes generalizing pos with
  | nil => rfl
  | cons b rest ih =>
    rw [List.flatMap_cons, hexPairs_hexPad, ih]
    rfl

theorem readHex_writeHex (bytes : List UInt8) : readHex (writeHex bytes) = .ok bytes := by
  have ascii : (bytes.flatMap fun b => hexPad 2 b.toNat).findIdx?
      (fun c => decide (0x80 ≤ c.toNat)) = none := by
    rw [List.findIdx?_eq_none_iff]
    intro c there
    obtain ⟨b, _, here⟩ := List.mem_flatMap.mp there
    obtain ⟨k, small, rfl⟩ := exists_hexDigit here
    exact decide_eq_false (Nat.not_le.mpr (hexDigit_plain small).1)
  unfold readHex writeHex
  rw [String.toList_ofList, ascii]
  exact hexPairs_flatMap 0 bytes

theorem writeHex_isEmpty (bytes : List UInt8) : (writeHex bytes).isEmpty = bytes.isEmpty := by
  cases bytes with
  | nil => rfl
  | cons b rest => simp [writeHex, hexPad_two]

end Text

/- Addresses. -/

namespace Address

theorem dot_not_mem_octetChars {n : Nat} (small : n < 256) : '.' ∉ octetChars n := by
  have all : ∀ k ∈ List.range 256, '.' ∉ octetChars k := by decide +kernel
  exact all n (List.mem_range.mpr small)

theorem octet_lt (a : Address) : ∀ n ∈ a.octets, n < 256 := by
  have := a.isLt
  simp only [octets, List.mem_cons, List.not_mem_nil, or_false, forall_eq_or_imp, forall_eq]
  omega

theorem ofString?_text (a : Address) : ofString? a.text = some a := by
  have free : ∀ piece ∈ a.octets.map octetChars, '.' ∉ piece := by
    intro piece there
    obtain ⟨n, among, rfl⟩ := List.mem_map.mp there
    exact dot_not_mem_octetChars (a.octet_lt n among)
  have read : (a.octets.map octetChars).map octet? = a.octets.map some := by
    rw [List.map_map]
    apply List.map_congr_left
    intro n among
    exact octet?_octetChars (a.octet_lt n among)
  have whole : (((a.number / 2 ^ 24) * 256 + a.number / 2 ^ 16 % 256) * 256 +
      a.number / 2 ^ 8 % 256) * 256 + a.number % 256 = a.number := by omega
  unfold ofString? text
  rw [String.toList_ofList]
  unfold ofChars? chars
  rw [Text.splitAt_joinWith (by simp [octets]) free, read]
  simp only [octets, List.map_cons, List.map_nil, whole]
  exact dif_pos a.isLt

theorem text_isEmpty (a : Address) : a.text.isEmpty = false := by
  rw [Bool.eq_false_iff]
  intro empty
  have read := a.ofString?_text
  rw [String.isEmpty_iff.mp empty] at read
  cases read

end Address

theorem Value.toAddress_text (a : Address) : toAddress (.text a.text) = .ok a := by
  simp only [toAddress, RawText.readable, IpAddress.ofString?, a.ofString?_text]

theorem Value.toBytes_text (bytes : List UInt8) :
    toBytes (.text (Text.writeHex bytes)) = .ok bytes := by
  simp only [toBytes, RawText.readable, Text.readHex_writeHex]

end LeaseBook
