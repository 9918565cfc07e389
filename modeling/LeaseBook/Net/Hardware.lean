import LeaseBook.Number.Power
import LeaseBook.Text.Quoted
import LeaseBook.Text.Split
import LeaseBook.Number.Integer

/-!
Hardware addresses: 48-bit identifiers, and the 64-bit ones that are recognised only to be told
apart. Many spellings are read, all by one rule: groups of hexadecimal digits, right-aligned in
equal parts of the identifier, with one separator between them. A whole number is read too.
-/

namespace LeaseBook

structure Hardware where
  number : Nat
  isLt : number < 2 ^ 48
  deriving DecidableEq

inductive Identifier where
  | short (hardware : Hardware)
  | long (number : Nat)
  deriving DecidableEq

namespace Hardware

def ofNat? (n : Nat) : Option Hardware :=
  if h : n < 2 ^ 48 then some ⟨n, h⟩ else none

def octets (h : Hardware) : List Nat :=
  (List.range 6).map fun i => h.number / 2 ^ (8 * (5 - i)) % 256

def bytes (h : Hardware) : List UInt8 := h.octets.map UInt8.ofNat

def ofBytes? (bytes : List UInt8) : Option Hardware :=
  if bytes.length = 6 then ofNat? (bytes.foldl (fun acc b => acc * 256 + b.toNat) 0) else none

def chars (h : Hardware) : List Char :=
  Text.joinWith [':'] (h.octets.map (Text.hexPad 2))

/-- The text of a hardware address: octets in lower case between colons. -/
def text (h : Hardware) : String := String.ofList h.chars

instance : ToString Hardware := ⟨text⟩

end Hardware

namespace Identifier

def number : Identifier → Nat
  | .short h => h.number
  | .long n => n

def hexNumber? (cs : List Char) : Option Nat :=
  cs.foldl (fun acc c => acc.bind fun n => (Text.hexValue? c).map (16 * n + ·)) (some 0)

/-- Reads `count` groups of `least` to `most` digits; each fills `most` digits of the number. -/
def grouped? (sep : Char) (count least most : Nat) (cs : List Char) : Option Nat :=
  let groups := Text.splitAt sep cs
  if groups.length = count ∧ groups.all fun g => least ≤ g.length && g.length ≤ most then
    groups.foldl (fun acc g => acc.bind fun n => (hexNumber? g).map (16 ^ most * n + ·)) (some 0)
  else none

def bare? (length : Nat) (cs : List Char) : Option Nat :=
  if cs.length = length then hexNumber? cs else none

def spelled48? (cs : List Char) : Option Nat :=
  grouped? ':' 6 1 2 cs <|> grouped? '-' 6 1 2 cs <|>
  grouped? ':' 3 1 4 cs <|> grouped? '-' 3 1 4 cs <|> grouped? '.' 3 1 4 cs <|>
  grouped? '-' 2 5 6 cs <|> grouped? ':' 2 5 6 cs <|>
  bare? 12 cs <|> bare? 11 cs

def spelled64? (cs : List Char) : Option Nat :=
  grouped? ':' 8 1 2 cs <|> grouped? '-' 8 1 2 cs <|>
  grouped? ':' 4 1 4 cs <|> grouped? '-' 4 1 4 cs <|> grouped? '.' 4 1 4 cs <|>
  bare? 16 cs

def number? (bound : Nat) (cs : List Char) : Option Nat :=
  match Numeral.ofChars cs with
  | .ok i => if 0 ≤ i ∧ i < bound then some i.toNat else none
  | .error _ => none

/-- The identifier of a number: the shorter kind as long as it fits. -/
def ofInt? (i : Int) : Option Identifier :=
  if i < 0 then none
  else
    match Hardware.ofNat? i.toNat with
    | some h => some (.short h)
    | none => if i < 2 ^ 64 then some (.long i.toNat) else none

def dropLineEnd (cs : List Char) : List Char :=
  if cs.getLast? = some '\n' then cs.dropLast else cs

/-- The identifier that a list of characters spells. A spelling of the shorter kind comes first,
then a number that fits it, then the longer kind in the same order. -/
def ofChars? (cs : List Char) : Option Identifier :=
  let spelling := dropLineEnd cs
  match (spelled48? spelling <|> number? (2 ^ 48) cs).bind Hardware.ofNat? with
  | some h => some (.short h)
  | none => (spelled64? spelling <|> number? (2 ^ 64) cs).map .long

def ofString? (s : String) : Option Identifier := ofChars? s.toList

/-- The text of an identifier: octets in upper case between hyphens. -/
def text : Identifier → String
  | .short h =>
    String.ofList (Text.joinWith ['-'] (h.octets.map fun n => (Text.hexPad 2 n).map Char.toUpper))
  | .long n =>
    String.ofList (Text.joinWith ['-']
      ((List.range 8).map fun i => (Text.hexPad 2 (n / 2 ^ (8 * (7 - i)) % 256)).map Char.toUpper))

end Identifier
end LeaseBook
