import LeaseBook.Text.Quoted

/-!
Bytes as pairs of hexadecimal digits. Written form has nothing between the pairs; the reader also
takes ASCII white space around them, and says at which character it gave up.
-/

namespace LeaseBook.Text

def isAsciiSpace (c : Char) : Bool :=
  (0x09 ≤ c.toNat && c.toNat ≤ 0x0D) || c.toNat == 0x20

/-- Reads byte pairs from position `pos` on. A failure is the position where a digit was needed. -/
def hexPairs (pos : Nat) : List Char → Except Nat (List UInt8)
  | [] => .ok []
  | [c] =>
    if isAsciiSpace c then .ok []
    else if (hexValue? c).isSome then .error (pos + 1)
    else .error pos
  | c :: d :: rest =>
    if isAsciiSpace c then hexPairs (pos + 1) (d :: rest)
    else
      match hexValue? c with
      | none => .error pos
      | some high =>
        match hexValue? d with
        | none => .error (pos + 1)
        | some low =>
          match hexPairs (pos + 2) rest with
          | .ok bytes => .ok (UInt8.ofNat (16 * high + low) :: bytes)
          | .error e => .error e

/-- The bytes that a text spells. A character outside ASCII is reported before anything else. -/
def readHex (s : String) : Except Nat (List UInt8) :=
  match s.toList.findIdx? (fun c => 0x80 ≤ c.toNat) with
  | some i => .error i
  | none => hexPairs 0 s.toList

def writeHex (bytes : List UInt8) : String :=
  String.ofList (bytes.flatMap fun b => hexPad 2 b.toNat)

end LeaseBook.Text
