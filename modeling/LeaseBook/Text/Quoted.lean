import LeaseBook.Text.Digit
import LeaseBook.Text.Printable

/-!
Quoted text, as messages show it: one line, printable characters only, between quotes that are
chosen so that as little as possible has to be escaped.
-/

namespace LeaseBook.Text

/-- The lowest `width` hexadecimal digits of a number, leading zeros included. -/
def hexPad : Nat → Nat → List Char
  | 0, _ => []
  | width + 1, n => hexPad width (n / 16) ++ [hexDigit (n % 16)]

theorem length_hexPad (width n : Nat) : (hexPad width n).length = width := by
  induction width generalizing n with
  | zero => rfl
  | succ width ih => simp [hexPad, ih]

/-- The quote that surrounds a text: double when it holds single quotes and no double ones. -/
def quoteFor (cs : List Char) : Char :=
  if cs.contains '\'' && !cs.contains '"' then '"' else '\''

/-- One character between quotes `q`: the quote and the backslash behind a backslash, tab and the
line ends by their letters, whatever cannot be shown by its code point. -/
def escapeChar (q c : Char) : List Char :=
  if c = q ∨ c = '\\' then ['\\', c]
  else if c = '\t' then ['\\', 't']
  else if c = '\n' then ['\\', 'n']
  else if c = '\r' then ['\\', 'r']
  else if isPrintable c then [c]
  else if c.toNat < 0x100 then '\\' :: 'x' :: hexPad 2 c.toNat
  else if c.toNat < 0x10000 then '\\' :: 'u' :: hexPad 4 c.toNat
  else '\\' :: 'U' :: hexPad 8 c.toNat

def quoteChars (cs : List Char) : List Char :=
  let q := quoteFor cs
  q :: (cs.flatMap (escapeChar q) ++ [q])

def quoted (s : String) : String :=
  String.ofList (quoteChars s.toList)

/-- One byte between quotes `q`: as a character in ASCII, by its number beyond it. -/
def escapeByte (q : Char) (b : UInt8) : List Char :=
  if b.toNat < 0x80 then escapeChar q (Char.ofNat b.toNat) else '\\' :: 'x' :: hexPad 2 b.toNat

def quotedBytes (bytes : List UInt8) : String :=
  let q := quoteFor (bytes.map fun b => Char.ofNat b.toNat)
  String.ofList ('b' :: q :: (bytes.flatMap (escapeByte q) ++ [q]))

end LeaseBook.Text
