import LeaseBook.Text.Hex
import LeaseBook.Value.Basic

/-!
Writing JSON in ASCII: on one line, or with every item on a line of its own and two more spaces
of indentation at each level.
-/

namespace LeaseBook.Json

def unitEscape (n : Nat) : List Char := '\\' :: 'u' :: Text.hexPad 4 n

def charChars (c : Char) : List Char :=
  if c = '"' then ['\\', '"']
  else if c = '\\' then ['\\', '\\']
  else if c = '\n' then ['\\', 'n']
  else if c = '\r' then ['\\', 'r']
  else if c = '\t' then ['\\', 't']
  else if c = '\x08' then ['\\', 'b']
  else if c = '\x0c' then ['\\', 'f']
  else if 0x20 ≤ c.toNat ∧ c.toNat < 0x7F then [c]
  else if c.toNat < 0x10000 then unitEscape c.toNat
  else
    let n := c.toNat - 0x10000
    unitEscape (0xD800 + n / 0x400) ++ unitEscape (0xDC00 + n % 0x400)

def pointChars (n : Nat) : List Char :=
  if isSurrogate n then unitEscape n else charChars (Char.ofNat n)

def stringText : RawText → String
  | .whole s => String.ofList ('"' :: (s.toList.flatMap charChars ++ ['"']))
  | .broken ps _ => String.ofList ('"' :: (ps.flatMap pointChars ++ ['"']))

def realText : Binary64 → String
  | .nan => "NaN"
  | .infinite negative => if negative then "-Infinity" else "Infinity"
  | x => x.text

def leafText : Value → String
  | .null => "null"
  | .bool b => if b then "true" else "false"
  | .int i => toString i
  | .real x => realText x
  | .text s => stringText s
  | .address a => stringText a.text
  | .network n => stringText n.text
  | .identifier e => stringText e.text
  | .bytes b => stringText (Text.writeHex b)
  | .list _ => "[]"
  | .object _ => "\x7b\x7d"

/-- How the parts of a list or an object are set apart. -/
structure Layout where
  /-- What stands behind the opening bracket and behind each comma, at a depth. -/
  lead : Nat → String
  /-- What stands in front of the closing bracket, at a depth. -/
  close : Nat → String
  colon : String

def Layout.line : Layout := ⟨fun _ => "", fun _ => "", ":"⟩

def newLine (depth : Nat) : String :=
  String.ofList ('\n' :: List.replicate (2 * depth) ' ')

def Layout.indented : Layout := ⟨fun depth => newLine (depth + 1), newLine, ": "⟩

mutual

def layout (l : Layout) (depth : Nat) : Value → List String
  | .list [] => ["[]"]
  | .list (item :: items) =>
    "[" :: l.lead depth :: (layout l (depth + 1) item ++ layoutItems l depth items)
  | .object [] => ["\x7b\x7d"]
  | .object ((name, item) :: fields) =>
    "\x7b" :: l.lead depth :: stringText name :: l.colon ::
      (layout l (depth + 1) item ++ layoutFields l depth fields)
  | v => [leafText v]

/-- The parts of a list behind its first item. -/
def layoutItems (l : Layout) (depth : Nat) : List Value → List String
  | [] => [l.close depth, "]"]
  | item :: items =>
    "," :: l.lead depth :: (layout l (depth + 1) item ++ layoutItems l depth items)

/-- The parts of an object behind its first field. -/
def layoutFields (l : Layout) (depth : Nat) : List (RawText × Value) → List String
  | [] => [l.close depth, "\x7d"]
  | (name, item) :: fields =>
    "," :: l.lead depth :: stringText name :: l.colon ::
      (layout l (depth + 1) item ++ layoutFields l depth fields)

end

def lineText (v : Value) : String := String.join (layout .line 0 v)

def indentedText (v : Value) : String := String.join (layout .indented 0 v)

end LeaseBook.Json
