import LeaseBook.Config.Basic

/-!
Where the configuration of a running program comes from: one that was set, or else the
environment, which is read once, after the first of a list of files that exists has been loaded
into it. What was read stays until it is set aside.
-/

namespace LeaseBook

/-- The state on which the configuration depends: the environment, the contents of the files in
the order in which they are tried, none for one that does not exist, and the configuration that is
in force already. -/
structure Session where
  environment : Environment
  files : List (Option String)
  current : Option Config

namespace Session

def empty : Session := ⟨.empty, [], none⟩

def firstFile? : List (Option String) → Option (Nat × String)
  | [] => none
  | some content :: _ => some (0, content)
  | none :: rest => (firstFile? rest).map fun found => (found.1 + 1, found.2)

def loadFile (s : Session) : Except Fault (Option Nat) × Session :=
  match firstFile? s.files with
  | none => (.ok none, s)
  | some (index, content) =>
    let (loaded, environment) := s.environment.load content
    (loaded.map fun _ => some index, { s with environment := environment })

/-- The configuration in force. One that cannot be read stays out of force, but what was loaded
for it stays loaded. -/
def config (s : Session) : Except Fault Config × Session :=
  match s.current with
  | some c => (.ok c, s)
  | none =>
    let (loaded, s) := s.loadFile
    match loaded.bind fun _ => Config.ofEnvironment s.environment with
    | .ok c => (.ok c, { s with current := some c })
    | .error fault => (.error fault, s)

def setConfig (s : Session) (c : Option Config) : Session := { s with current := c }

def validate (s : Session) : Except Fault Pool × Session :=
  let (config, s) := s.config
  (config.bind Config.pool, s)

end Session
end LeaseBook
