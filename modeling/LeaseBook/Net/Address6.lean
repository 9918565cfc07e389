import LeaseBook.Text.Quoted
import LeaseBook.Net.Address

/-!
IPv6 addresses as numbers below 2 ^ 128. They are never served; they are read so that a message
can tell an address of the other family from no address at all, and written to show them.
-/

namespace LeaseBook.Address6

def group? (cs : List Char) : Option Nat :=
  if cs.isEmpty ∨ 4 < cs.length then none
  else cs.foldl (fun acc c => acc.bind fun n => (Text.hexValue? c).map (16 * n + ·)) (some 0)

/-- The 16-bit groups that pieces between colons spell. The last piece may be an IPv4 address,
which stands for two groups. -/
def groups? : List (List Char) → Option (List Nat)
  | [] => some []
  | [piece] =>
    match group? piece with
    | some n => some [n]
    | none => (Address.ofChars? piece).map fun a => [a.number / 2 ^ 16, a.number % 2 ^ 16]
  | piece :: pieces =>
    match group? piece, groups? pieces with
    | some n, some rest => some (n :: rest)
    | _, _ => none

/-- The groups on one side of a double colon, where there may be none. -/
def side? (cs : List Char) : Option (List Nat) :=
  if cs.isEmpty then some [] else groups? (Text.splitAt ':' cs)

def cutDouble : List Char → Option (List Char × List Char)
  | [] => none
  | ':' :: ':' :: rest => some ([], rest)
  | c :: rest => (cutDouble rest).map fun p => (c :: p.1, p.2)

/-- The eight groups of an address. A double colon stands for at least one group of zero; in
front of it an IPv4 tail has no place. -/
def words? (cs : List Char) : Option (List Nat) :=
  match cutDouble cs with
  | none => do
    let ws ← groups? (Text.splitAt ':' cs)
    if ws.length = 8 then some ws else none
  | some (front, back) => do
    if front.contains '.' then none
    else
      let left ← side? front
      let right ← side? back
      if left.length + right.length ≤ 7 then
        some (left ++ List.replicate (8 - left.length - right.length) 0 ++ right)
      else none

def ofWords (ws : List Nat) : Nat :=
  ws.foldl (fun acc w => acc * 2 ^ 16 + w) 0

def ofChars? (cs : List Char) : Option Nat :=
  (words? cs).map ofWords

def words (n : Nat) : List Nat :=
  (List.range 8).map fun i => n / 2 ^ (16 * (7 - i)) % 2 ^ 16

def zeroRun : List Nat → Nat
  | 0 :: ws => zeroRun ws + 1
  | _ => 0

/-- Where the longest run of zero groups starts and how long it is, the first of equal ones. -/
def longestZeros (ws : List Nat) : Nat × Nat :=
  (List.range ws.length).foldl
    (fun best i => if best.2 < zeroRun (ws.drop i) then (i, zeroRun (ws.drop i)) else best) (0, 0)

def groupChars (w : Nat) : List Char :=
  match (Text.hexPad 4 w).dropWhile (· == '0') with
  | [] => ['0']
  | cs => cs

/-- The text of an address. The longest run of two or more zero groups becomes a double colon,
and addresses that embed an IPv4 address end in its text. -/
def chars (n : Nat) : List Char :=
  let ws := words n
  let (start, length) := longestZeros ws
  let colons (gs : List Nat) : List Char := Text.joinWith [':'] (gs.map groupChars)
  let embedded := start = 0 ∧ (length = 6 ∨ (length = 5 ∧ (ws.drop 5).head? = some 0xFFFF))
  if embedded then
    let tail : List Char :=
      match Address.ofNat? (n % 2 ^ 32) with
      | some a => a.chars
      | none => []
    (if length = 6 then [':', ':'] else [':', ':', 'f', 'f', 'f', 'f', ':']) ++ tail
  else if length < 2 then colons ws
  else colons (ws.take start) ++ [':', ':'] ++ colons (ws.drop (start + length))

def text (n : Nat) : String := String.ofList (chars n)

end LeaseBook.Address6
