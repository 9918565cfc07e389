import LeaseBook.Files
import LeaseBook.Journal.Entry
import LeaseBook.Journal.File
import LeaseBook.Journal.Note

/-!
The journal of a program: a console, a file, both or neither, and the level from which on it takes
entries. An entry of a foreign part of the program, and every entry of a journal that has nowhere
to go, is shown bare on the console if it is at least a warning.
-/

namespace LeaseBook

structure JournalOptions where
  level : Value
  /-- The path of the file, which goes before `logDirectory`. -/
  logFile : Option String
  logDirectory : Option String
  /-- The length at which a file is set aside. -/
  limit : Int
  kept : Int
  console : Bool
  file : Bool

namespace JournalOptions

def initial : JournalOptions where
  level := .text "INFO"
  logFile := none
  logDirectory := none
  limit := 10485760
  kept := 5
  console := true
  file := false

/-- The journal of a command: on the console, and in a file if one is named. Debugging overrides
the level. -/
def ofCommand (debug : Bool) (logFile : Option String) (level : Value) : JournalOptions :=
  { initial with
    level := if debug then .text "DEBUG" else level
    logFile := logFile
    file := logFile.isSome }

def homePath : String := ".leasekeeper/logs/leasekeeper.log"

/-- The path of the file. An empty path counts as none. -/
def path (o : JournalOptions) : String :=
  match o.logFile.filter (· != ""), o.logDirectory.filter (· != "") with
  | some path, _ => path
  | none, some directory => directory ++ "/leasekeeper.log"
  | none, none => homePath

end JournalOptions

inductive JournalFault where
  | level (fault : Fault)
  | file (fault : PathFault)

structure Journal where
  level : Int
  console : Bool
  file : Option JournalFile
  shown : String

namespace Journal

def fileLevel : Int := 10

/-- The level from which on entries are shown that have nowhere to go. -/
def bareLevel : Int := 30

def setUp (files : Files) (o : JournalOptions) : Except JournalFault (Journal × Files) := do
  let level ← (Level.ofValue o.level).mapError .level
  let files ← if o.file then (files.openEnd o.path).mapError .file else pure files
  let place := Place.ofPath o.path
  return ({
    level := level
    console := o.console
    file :=
      if o.file then some (.fresh place.path (files.isSink place) o.limit o.kept.toNat) else none
    shown := "" }, files)

def owner : String := "leasekeeper"

/-- Whether a source is part of the program: the program itself, or a name below it. Two dots in a
row separate nothing. -/
def isOwn (source : String) : Bool :=
  source == owner ||
    match Text.dropWord? owner.toList source.toList with
    | some below => (below.takeWhile (· == '.')).length % 2 == 1
    | none => false

def isTaken (j : Journal) (e : Entry) : Bool :=
  0 < e.level && (if isOwn e.source then Level.effective j.level else Level.fallback) ≤ e.level

def print (j : Journal) (text : String) : Journal := { j with shown := j.shown ++ text ++ "\n" }

def writeConsole (e : Entry) (j : Journal) : Journal :=
  if j.console && j.level ≤ e.level then j.print e.consoleText else j

def writeFile (e : Entry) (j : Journal) : Journal :=
  { j with file := j.file.map fun f => if fileLevel ≤ e.level then f.write e.fileText else f }

def write (j : Journal) (e : Entry) : Journal :=
  if !j.isTaken e then j
  else if isOwn e.source && (j.console || j.file.isSome) then (j.writeConsole e).writeFile e
  else if bareLevel ≤ e.level then j.print e.message
  else j

def takenLines (level : Int) (lines : List JournalLine) : List JournalLine :=
  lines.filter fun l => Level.effective level ≤ l.severity.level

end Journal
end LeaseBook
