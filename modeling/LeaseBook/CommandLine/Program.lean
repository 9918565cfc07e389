import LeaseBook.CommandLine.Command
import LeaseBook.CommandLine.Options
import LeaseBook.Config.Session
import LeaseBook.Journal.Basic

/-!
The program behind the command line: from the arguments and what they refer to, to what is
printed. The settings are read and the journal is opened once the command group is known to exist,
and before the rest of the arguments is looked at.
-/

namespace LeaseBook

structure Surroundings where
  session : Session
  files : Files
  terminal : Terminal
  now : Int

inductive Conclusion where
  | misused (fault : UsageFault)
  | ended (output : String) (ending : Ending)

/-- A call of the program with the journal that it opened, if it came that far: the path of the
file if there is one, the lines that were taken, and the files as they are then. -/
structure Concluded where
  conclusion : Conclusion
  logFile : Option String
  lines : List JournalLine
  files : Files

namespace Program

def name : String := "leasekeeper"

def version : String := name ++ ", version 0.1.0"

def helpForm : OptionForm := ⟨"--help", none, false⟩

def jsonForm : OptionForm := ⟨"--json-output", none, false⟩

def rootForms : List OptionForm :=
  [⟨"--version", none, false⟩, ⟨"--debug", none, false⟩, ⟨"--log-file", none, true⟩, helpForm]

def group : String := "dhcp"

def commandForms : List (String × List OptionForm) := [
  ("pool", [⟨"--reserved", some 'r', true⟩, jsonForm, helpForm]),
  ("seed", [⟨"--subnet", some 's', true⟩, jsonForm, helpForm]),
  ("replay", [jsonForm, helpForm])]

def usage : String :=
  "Usage: " ++ name ++ " [--version] [--debug] [--log-file FILE] dhcp COMMAND\n\n" ++
    "  pool [-r ADDRESS]... [--json-output] [CIDR]\n" ++
    "  seed [-s SUBNET] [--json-output] MAC\n" ++
    "  replay [--json-output] SCENARIO_FILE\n"

def page (text : String) : Conclusion := .ended text .success

def stopped (fault : PathFault) : Conclusion := .ended "" (.crash (.path fault))

/-- The page that an option asks for: the first such option counts. -/
def page? (a : Arguments) : Option String :=
  a.options.findSome? fun o =>
    if o.1 = "--version" then some (version ++ "\n")
    else if o.1 = "--help" then some usage
    else none

/-- Looks at the options in front of a name: one of them may ask for a page, and the file of the
journal must not be a directory. -/
def checkOptions (files : Files) (a : Arguments) : Except Conclusion Unit :=
  match page? a with
  | some text => .error (page text)
  | none =>
    match a.last? "--log-file" with
    | none => .ok ()
    | some path =>
      match files.find path with
      | .ok .directory => .error (.misused (.isDirectory "--log-file" path))
      | .error .embeddedNull => .error (stopped .embeddedNull)
      | _ => .ok ()

def sortGroup (files : Files) (forms : List OptionForm) (args : List String) :
    Except Conclusion Arguments := do
  if args.isEmpty then throw (.misused .nothingAsked)
  let a ← (Arguments.sort forms false none args).mapError .misused
  checkOptions files a
  return a

/-- What comes of a name that no command in a group has. One that looks like an option is read as an
option first. -/
def unknownName (files : Files) (forms : List OptionForm) (names : List String) (name : String)
    (args : List String) : Conclusion :=
  let unknown := .misused (.unknownCommand name (Text.closest name names))
  if Arguments.isOption name then
    match sortGroup files forms (name :: args) with
    | .error conclusion => conclusion
    | .ok _ => unknown
  else unknown

def single? (rest : List String) : Except Conclusion (Option String) :=
  match rest with
  | [] => .ok none
  | [arg] => .ok (some arg)
  | _ :: extra => .error (.misused (.extraArguments extra))

def readFile (files : Files) (parameter path : String) : Except Conclusion (List UInt8) :=
  match files.find path with
  | .ok (.file content) => .ok content
  | .ok .sink => .ok []
  | .ok .directory => .error (.misused (.isDirectory parameter path))
  | .error .embeddedNull => .error (stopped .embeddedNull)
  | .error _ => .error (.misused (.noSuchFile parameter path))

/-- The command of a name with its arguments. A missing argument and a missing file are noticed
before arguments that are too many. -/
def command (files : Files) (name : String) (a : Arguments) : Except Conclusion Command := do
  let json := a.has "--json-output"
  if name = "pool" then
    let cidr ← single? a.rest
    return .pool cidr (a.values "--reserved") json
  else
    match a.rest with
    | [] =>
      throw (.misused (.missingArgument (if name = "seed" then "MAC" else "SCENARIO_FILE")))
    | arg :: extra =>
      if name = "seed" then
        if extra.isEmpty then return .seed arg (a.last? "--subnet") json
        else throw (.misused (.extraArguments extra))
      else
        let content ← readFile files "SCENARIO_FILE" arg
        if extra.isEmpty then return .replay arg content json
        else throw (.misused (.extraArguments extra))

def findCommand (files : Files) (args : List String) : Except Conclusion Command := do
  let group ← sortGroup files [helpForm] args
  match group.rest with
  | [] => throw (.misused .missingCommand)
  | name :: args =>
    match commandForms.find? fun c => c.1 == name with
    | none => throw (unknownName files [helpForm] (commandForms.map Prod.fst) name args)
    | some (_, forms) =>
      let a ← (Arguments.sort forms true none args).mapError .misused
      match page? a with
      | some text => throw (page text)
      | none => command files name a

structure Opening where
  debug : Bool
  logFile : Option String
  args : List String

def opening (files : Files) (args : List String) : Except Conclusion Opening := do
  let root ← sortGroup files rootForms args
  match root.rest with
  | [] => throw (.misused .missingCommand)
  | name :: args =>
    if name = group then return ⟨root.has "--debug", root.last? "--log-file", args⟩
    else throw (unknownName files rootForms [group] name args)

structure OpenedJournal where
  config : Config
  level : Int
  path : Option String
  files : Files

def openJournal (w : Surroundings) (o : Opening) : Except Conclusion OpenedJournal := do
  let config ← w.session.config.1.mapError fun fault => .misused (.badSetting fault)
  match Journal.setUp w.files (.ofCommand o.debug o.logFile config.logLevel) with
  | .error (.level fault) => throw (.misused (.badSetting fault))
  | .error (.file fault) => throw (stopped fault)
  | .ok (journal, files) => return ⟨config, journal.level, journal.file.map (·.path), files⟩

/-- The bytes of a line in a file, its end with them. A line that is not made of characters has
none. -/
def lineBytes (now : Int) (l : JournalLine) : List UInt8 :=
  match l.message with
  | .whole message =>
    let entry : Entry := ⟨l.source, l.severity.level, now, 0, "-", message⟩
    (entry.fileText ++ "\n").toUTF8.toList
  | .broken _ _ => []

def record (now : Int) (path : Option String) (lines : List JournalLine) (files : Files) : Files :=
  match path with
  | none => files
  | some path => files.append path (lines.flatMap (lineBytes now))

def runCommand (w : Surroundings) (o : OpenedJournal) (args : List String) : Concluded :=
  let taken (notes : List Note) : List JournalLine :=
    Journal.takenLines o.level (notes.map Note.line)
  let first := taken [.configurationUsed o.config.shown]
  let files := record w.now o.path first o.files
  match findCommand files args with
  | .error conclusion => ⟨conclusion, o.path, first, files⟩
  | .ok command =>
    let run := command.run w.terminal o.config
    let later := taken run.notes
    ⟨.ended run.output run.ending, o.path, first ++ later, record w.now o.path later files⟩

def run (w : Surroundings) (args : List String) : Concluded :=
  match opening w.files args with
  | .error conclusion => ⟨conclusion, none, [], w.files⟩
  | .ok o =>
    match openJournal w o with
    | .error conclusion => ⟨conclusion, none, [], w.files⟩
    | .ok opened => runCommand w opened o.args

def exitCode : Conclusion → Nat
  | .misused _ => 2
  | .ended _ .success => 0
  | .ended _ _ => 1

end Program
end LeaseBook
