import LeaseBook.Fault

/-!
The levels of the journal. The higher a level, the more an event matters; a journal of a level
takes events of that level and above.
-/

namespace LeaseBook.Level

/-- The levels that have names. Of two names for a level the first is the one it is shown by. -/
def named : List (String × Int) := [
  ("CRITICAL", 50), ("FATAL", 50), ("ERROR", 40), ("WARNING", 30), ("WARN", 30), ("INFO", 20),
  ("DEBUG", 10), ("NOTSET", 0)]

def fallback : Int := 30

def ofValue (v : Value) : Except Fault Int :=
  match v with
  | .text s =>
    match named.find? fun n => s.upper == .whole n.1 with
    | some n => .ok n.2
    | none => .error (.unknownLevel s.readable)
  | _ => .error (.levelNotText v)

def text (level : Int) : String :=
  match named.find? fun n => n.2 == level with
  | some n => n.1
  | none => "Level " ++ toString level

/-- The level at which a logger takes events: its own, or the fallback if it has none. -/
def effective (level : Int) : Int := if level = 0 then fallback else level

end LeaseBook.Level
