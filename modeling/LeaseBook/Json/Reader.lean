import LeaseBook.Number.Integer
import LeaseBook.Value.Basic

/-!
Reading JSON. The grammar is the standard one with three more numbers, `NaN`, `Infinity` and
`-Infinity`. Whole numbers are unbounded up to the longest numeral that is read at all; a number
with a fraction or an exponent becomes the nearest binary one. Of two fields of one name the
later value wins, in the earlier place. Lists and objects may lie in each other only so deep.
-/

namespace LeaseBook.Json

inductive Problem where
  | malformed
  | tooLong (digits : Nat)
  | tooDeep
  deriving DecidableEq, Repr

def isSpace (c : Char) : Bool :=
  c == ' ' || c == '\t' || c == '\n' || c == '\r'

def skip (cs : List Char) : List Char := cs.dropWhile isSpace

def isDigit (c : Char) : Bool := 0x30 ≤ c.toNat && c.toNat ≤ 0x39

def decimal (ds : List Char) : Nat :=
  ds.foldl (fun n d => 10 * n + (d.toNat - 0x30)) 0

def hex4? (a b c d : Char) : Option Nat := do
  let w ← Text.hexValue? a
  let x ← Text.hexValue? b
  let y ← Text.hexValue? c
  let z ← Text.hexValue? d
  some (((w * 16 + x) * 16 + y) * 16 + z)

def escape? : Char → Option Char
  | '"' => some '"'
  | '\\' => some '\\'
  | '/' => some '/'
  | 'b' => some '\x08'
  | 'f' => some '\x0c'
  | 'n' => some '\n'
  | 'r' => some '\r'
  | 't' => some '\t'
  | _ => none

/-- The code point of a pair of surrogates, if the two are one. -/
def pair? (high low : Nat) : Option Nat :=
  if 0xD800 ≤ high ∧ high < 0xDC00 ∧ 0xDC00 ≤ low ∧ low < 0xE000 then
    some (0x10000 + (high - 0xD800) * 0x400 + (low - 0xDC00))
  else none

/-- Reads a string behind its opening quote. `taken` holds its code points so far, last first. A
surrogate without its partner is one of them. -/
def stringBody (taken : List Nat) : List Char → Option (List Nat × List Char)
  | [] => none
  | '"' :: rest => some (taken.reverse, rest)
  | '\\' :: 'u' :: a :: b :: c :: d :: '\\' :: 'u' :: e :: f :: g :: h :: rest =>
    match hex4? a b c d with
    | none => none
    | some high =>
      match (hex4? e f g h).bind (pair? high) with
      | some joined => stringBody (joined :: taken) rest
      | none => stringBody (high :: taken) ('\\' :: 'u' :: e :: f :: g :: h :: rest)
  | '\\' :: 'u' :: a :: b :: c :: d :: rest =>
    match hex4? a b c d with
    | none => none
    | some unit => stringBody (unit :: taken) rest
  | '\\' :: c :: rest =>
    match escape? c with
    | none => none
    | some shown => stringBody (shown.toNat :: taken) rest
  | c :: rest => if c.toNat < 0x20 then none else stringBody (c.toNat :: taken) rest
termination_by cs => cs.length

/-- The whole part of a number without its sign: a zero alone, or digits that start with none. -/
def wholePart : List Char → Option (List Char × List Char)
  | [] => none
  | '0' :: rest => some (['0'], rest)
  | c :: rest =>
    if isDigit c then some (c :: rest.takeWhile isDigit, rest.dropWhile isDigit) else none

def fractionPart : List Char → List Char × List Char
  | '.' :: c :: rest =>
    if isDigit c then (c :: rest.takeWhile isDigit, rest.dropWhile isDigit)
    else ([], '.' :: c :: rest)
  | cs => ([], cs)

def exponentPart (cs : List Char) : Option Int × List Char :=
  let digits (sign : Int) (tail : List Char) : Option Int × List Char :=
    match tail with
    | c :: rest =>
      if isDigit c then
        (some (sign * decimal (c :: rest.takeWhile isDigit)), rest.dropWhile isDigit)
      else (none, cs)
    | [] => (none, cs)
  match cs with
  | e :: '-' :: rest => if e = 'e' ∨ e = 'E' then digits (-1) rest else (none, cs)
  | e :: '+' :: rest => if e = 'e' ∨ e = 'E' then digits 1 rest else (none, cs)
  | e :: rest => if e = 'e' ∨ e = 'E' then digits 1 rest else (none, cs)
  | [] => (none, cs)

def number (negative : Bool) (cs : List Char) : Except Problem (Value × List Char) :=
  match wholePart cs with
  | none => .error .malformed
  | some (whole, rest) =>
    let (fraction, rest) := fractionPart rest
    let (exponent, rest) := exponentPart rest
    if fraction.isEmpty && exponent.isNone then
      if Numeral.maxDigits < whole.length then .error (.tooLong whole.length)
      else
        let n : Int := decimal whole
        .ok (.int (if negative then -n else n), rest)
    else
      .ok (.real (Binary64.ofDecimal negative (decimal (whole ++ fraction))
        (exponent.getD 0 - fraction.length)), rest)

def words : List (List Char × Value) := [
  ("null".toList, .null), ("true".toList, .bool true), ("false".toList, .bool false),
  ("NaN".toList, .real .nan), ("Infinity".toList, .real (.infinite false)),
  ("-Infinity".toList, .real (.infinite true))]

def scalar (cs : List Char) : Except Problem (Value × List Char) :=
  match words.findSome? fun w => (Text.dropWord? w.1 cs).map fun rest => (w.2, rest) with
  | some found => .ok found
  | none =>
    match cs with
    | '"' :: rest =>
      match stringBody [] rest with
      | some (points, rest) => .ok (.text (.ofPoints points), rest)
      | none => .error .malformed
    | '-' :: rest => number true rest
    | _ => number false cs

mutual

/-- Reads a value at the front of a text, in which lists and objects may lie `room` deep. Every
second step takes a character off the text, so twice its length is fuel enough. -/
def value : Nat → Nat → List Char → Except Problem (Value × List Char)
  | 0, _, _ => .error .malformed
  | _ + 1, 0, '[' :: _ => .error .tooDeep
  | _ + 1, 0, '\x7b' :: _ => .error .tooDeep
  | fuel + 1, room + 1, '[' :: rest =>
    match skip rest with
    | ']' :: rest => .ok (.list [], rest)
    | rest => items fuel room [] rest
  | fuel + 1, room + 1, '\x7b' :: rest =>
    match skip rest with
    | '\x7d' :: rest => .ok (.object [], rest)
    | rest => fields fuel room [] rest
  | _ + 1, _, cs => scalar cs

/-- Reads the items of a list up to its end. `taken` holds those so far, last first. -/
def items : Nat → Nat → List Value → List Char → Except Problem (Value × List Char)
  | 0, _, _, _ => .error .malformed
  | fuel + 1, room, taken, cs =>
    match value fuel room cs with
    | .error e => .error e
    | .ok (item, rest) =>
      match skip rest with
      | ',' :: rest => items fuel room (item :: taken) (skip rest)
      | ']' :: rest => .ok (.list (item :: taken).reverse, rest)
      | _ => .error .malformed

def fields : Nat → Nat → List (RawText × Value) → List Char →
    Except Problem (Value × List Char)
  | 0, _, _, _ => .error .malformed
  | fuel + 1, room, taken, '"' :: cs =>
    match stringBody [] cs with
    | none => .error .malformed
    | some (name, rest) =>
      match skip rest with
      | ':' :: rest =>
        match value fuel room (skip rest) with
        | .error e => .error e
        | .ok (item, rest) =>
          let taken := Value.setField (.ofPoints name) item taken
          match skip rest with
          | ',' :: rest => fields fuel room taken (skip rest)
          | '\x7d' :: rest => .ok (.object taken, rest)
          | _ => .error .malformed
      | _ => .error .malformed
  | _ + 1, _, _, _ => .error .malformed

end

def maxDepth : Nat := 990

def read (s : String) : Except Problem Value :=
  let cs := skip s.toList
  match value (2 * cs.length + 2) maxDepth cs with
  | .error e => .error e
  | .ok (v, rest) => if (skip rest).isEmpty then .ok v else .error .malformed

end LeaseBook.Json
