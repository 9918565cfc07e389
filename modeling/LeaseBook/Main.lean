import LeaseBook.CommandLine.Program
import Std.Time.DateTime.Timestamp

/-!
The command line itself: reads the environment and the files that the arguments refer to, runs the
program, and writes what it concludes.
-/

namespace LeaseBook.CommandLine

def look? (path : String) : IO (Option Node) := do
  try
    let content ← IO.FS.readBinFile path
    return some (.file content.toList)
  catch
    | .inappropriateType .. => return some .directory
    | _ => return none

def readText? (path : String) : IO (Option String) := do
  match ← look? path with
  | some (.file content) => return (Text.decodeUtf8 content).toOption
  | _ => return none

def variableNames : List String :=
  ["LEASEKEEPER_SUBNET", "LEASEKEEPER_RESERVED", "LEASEKEEPER_LEASE_TIME_MS",
    "LEASEKEEPER_LOG_LEVEL"]

def readHome : IO String := do
  return (← IO.getEnv "HOME").getD "."

def readSession : IO Session := do
  let found ← variableNames.filterMapM fun name => do
    return (← IO.getEnv name).map fun value => (name, value)
  let home ← readHome
  let files ← [home ++ "/.leasekeeper/.env", home ++ "/.config/leasekeeper/.env", ".env"].mapM
    readText?
  return ⟨Environment.ofList found, files, none⟩

/-- The paths on the way to the end of a path, and the path. -/
def pathsTo (path : String) : List String :=
  let names := Text.pathNames path
  (List.range names.length).map fun i => Text.joinPath (Text.pathRoot path) (names.take (i + 1))

/-- The paths that an argument can name: all of it, or what follows its first `=`. -/
def pathsIn (arg : String) : List String :=
  match (Text.cutAt '=' arg.toList).2 with
  | some value => [arg, String.ofList value]
  | none => [arg]

def readFiles (args : List String) : IO Files :=
  ((args.flatMap pathsIn).flatMap pathsTo).foldlM
    (fun files path => do
      match ← look? path with
      | some node => return files.put (Place.ofPath path) node
      | none => return files)
    Files.empty

def readWidth : IO Nat := do
  return ((← IO.getEnv "COLUMNS").bind String.toNat?).getD 80

def readClock : IO Int := do
  return (← Std.Time.Timestamp.now).toSecondsSinceUnixEpoch.val

def readSurroundings (args : List String) : IO Surroundings := do
  return ⟨← readSession, ← readFiles args, .plain (← readWidth), ← readClock⟩

def parent? (path : String) : Option String :=
  match (Text.pathNames path).dropLast with
  | [] => none
  | names => some (Text.joinPath (Text.pathRoot path) names)

def appendBytes (path : String) (bytes : List UInt8) : IO Unit := do
  if let some directory := parent? path then IO.FS.createDirAll directory
  IO.FS.withFile path .append fun file => file.write ⟨bytes.toArray⟩

def consoleText (now : Int) (l : JournalLine) : String :=
  Entry.consoleText ⟨l.source, l.severity.level, now, 0, "-", l.message.readable⟩

def writeJournal (now : Int) (c : Concluded) : IO Unit := do
  c.lines.forM fun line => IO.eprintln (consoleText now line)
  if let some path := c.logFile then
    let place ← if path = JournalOptions.homePath then do
        pure ((← readHome) ++ "/" ++ path)
      else pure path
    appendBytes place (c.lines.flatMap (Program.lineBytes now))

def writeConclusion : Conclusion → IO Unit
  | .misused fault =>
    match fault.message with
    | some message => IO.eprintln (Program.usage ++ "\nError: " ++ message)
    | none => IO.eprint Program.usage
  | .ended output ending => do
    IO.print output
    match ending with
    | .crash _ => IO.eprintln "The input has a value that no operation takes."
    | _ => return ()

end LeaseBook.CommandLine

open LeaseBook LeaseBook.CommandLine in
def main (args : List String) : IO UInt32 := do
  let surroundings ← readSurroundings args
  let concluded := Program.run surroundings args
  writeJournal surroundings.now concluded
  writeConclusion concluded.conclusion
  return (Program.exitCode concluded.conclusion).toUInt32
