import LeaseBook.Journal.Calendar
import LeaseBook.Journal.Level
import LeaseBook.Value.Basic

/-!
Entries of the journal, and how they are written on the console and in a file.
-/

namespace LeaseBook

/-- An entry: which part of the program it comes from, how much it matters, when it happened, in
seconds, where in the program, and what it says. -/
structure Entry where
  source : String
  level : Int
  time : Int
  line : Int
  function : String
  message : String

namespace Entry

/-- A text with blanks behind it up to a width. A longer text is not cut. -/
def padded (width : Nat) (s : String) : String :=
  s ++ String.ofList (List.replicate (width - s.length) ' ')

def consoleText (e : Entry) : String :=
  Calendar.text e.time ++ " [" ++ Level.text e.level ++ "] " ++ e.source ++ ": " ++ e.message

def fileText (e : Entry) : String :=
  Calendar.text e.time ++ " | " ++ padded 8 (Level.text e.level) ++ " | " ++
    padded 28 e.source ++ " | " ++ padded 28 e.function ++ " | " ++
    padded 4 (toString e.line) ++ " | " ++ e.message

end Entry
end LeaseBook
