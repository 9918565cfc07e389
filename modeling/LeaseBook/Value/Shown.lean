import LeaseBook.Value.Basic

/-!
How values read in messages. A value on its own line of prose shows text as it is; a value that a
message points at, and everything inside a list or an object, shows text in quotes.
-/

namespace LeaseBook.Value

def shownLeaf : Value → String
  | .null => "None"
  | .bool b => if b then "True" else "False"
  | .int i => toString i
  | .real x => x.text
  | .text s => s.quoted
  | .list _ => "[]"
  | .object _ => "\x7b\x7d"
  | .address a => "IPAddress('" ++ a.text ++ "')"
  | .network n => "IPNetwork('" ++ n.text ++ "')"
  | .identifier e => "EUI('" ++ e.text ++ "')"
  | .bytes b => Text.quotedBytes b

mutual

def shown : Value → String
  | .list items => "[" ++ shownItems items ++ "]"
  | .object fields => "\x7b" ++ shownFields fields ++ "\x7d"
  | v => shownLeaf v

def shownItems : List Value → String
  | [] => ""
  | [item] => shown item
  | item :: items => shown item ++ ", " ++ shownItems items

def shownFields : List (RawText × Value) → String
  | [] => ""
  | [(name, value)] => name.quoted ++ ": " ++ shown value
  | (name, value) :: fields => name.quoted ++ ": " ++ shown value ++ ", " ++ shownFields fields

end

def prose : Value → RawText
  | .text s => s
  | .address a => a.text
  | .network n => n.text
  | .identifier e => e.text
  | v => v.shown

end LeaseBook.Value
