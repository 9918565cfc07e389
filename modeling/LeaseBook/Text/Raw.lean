import LeaseBook.Text.Quoted
import LeaseBook.Text.Upper

/-!
Text that may hold halves of surrogate pairs. A JSON document can spell such text, so what is read
from one carries it from end to end; all other text is made of characters. Text without halves is
always an ordinary string, so a text has one form only.
-/

namespace LeaseBook

def isSurrogate (n : Nat) : Bool := 0xD800 ≤ n && n < 0xE000

/-- A text: characters only, or code points some of which are halves of surrogate pairs. -/
inductive RawText where
  | whole (s : String)
  | broken (points : List Nat) (isBroken : points.any isSurrogate = true)
  deriving DecidableEq, Repr

namespace RawText

instance : Coe String RawText := ⟨whole⟩

instance : Inhabited RawText := ⟨whole ""⟩

def points : RawText → List Nat
  | whole s => s.toList.map Char.toNat
  | broken ps _ => ps

def ofPoints (ps : List Nat) : RawText :=
  if h : ps.any isSurrogate = true then broken ps h else whole (String.ofList (ps.map Char.ofNat))

def append : RawText → RawText → RawText
  | whole s, whole t => whole (s ++ t)
  | a, b => ofPoints (a.points ++ b.points)

instance : Append RawText := ⟨append⟩

def isEmpty : RawText → Bool
  | whole s => s.isEmpty
  | broken _ _ => false

def isWhole : RawText → Bool
  | whole _ => true
  | broken _ _ => false

def pointChar (n : Nat) : Char := if isSurrogate n then '\uFFFD' else Char.ofNat n

/-- The text with U+FFFD in the place of every half of a pair. No reader takes that character for
anything, and it stands where the half stood, so a fault that is found here is where it was. -/
def readable : RawText → String
  | whole s => s
  | broken ps _ => String.ofList (ps.map pointChar)

def escapePoint (q : Char) (n : Nat) : List Char :=
  if isSurrogate n then '\\' :: 'u' :: Text.hexPad 4 n else Text.escapeChar q (Char.ofNat n)

def quoted : RawText → String
  | whole s => Text.quoted s
  | broken ps _ =>
    let q := Text.quoteFor (ps.map pointChar)
    String.ofList (q :: (ps.flatMap (escapePoint q) ++ [q]))

def upper : RawText → RawText
  | whole s => whole (Text.upper s)
  | broken ps _ => ofPoints (ps.flatMap fun n =>
      if isSurrogate n then [n] else (Text.upperChar (Char.ofNat n)).map Char.toNat)

def singles : RawText → List RawText
  | whole s => s.toList.map fun c => whole (String.singleton c)
  | broken ps _ => ps.map fun n => ofPoints [n]

end RawText
end LeaseBook
