import LeaseBook.Text.Path

/-!
The files that a program can see, as a tree of named places. A path is followed name by name from
the working directory or from the root, and every place on the way has to be a directory; `..`
leads to the directory above. Directories and files can be made, and text is added to a file at
its end.
-/

namespace LeaseBook

/-- What a place holds. A sink is always empty, whatever is written to it. -/
inductive Node where
  | directory
  | file (content : List UInt8)
  | sink

inductive PathFault where
  | missing
  | occupied
  | notDirectory
  | isDirectory
  | tooLong
  | embeddedNull
  deriving DecidableEq, Repr

/-- The way to a place from the working directory, without detours. It can start with a number of
`..`, or with a slash that stands for the root. -/
abbrev Place := List String

namespace Place

def ofRoot (root : String) : Place := if root.isEmpty then [] else ["/"]

/-- Whether a place is the root, the working directory or a directory above it. -/
def isAnchor (p : Place) : Bool := p == ["/"] || p.all (· == "..")

/-- The directory above a place. Nothing is above the root. -/
def above (p : Place) : Place :=
  if p == ["/"] then p else if p.isAnchor then p ++ [".."] else p.dropLast

def next (p : Place) (name : String) : Place := if name = ".." then p.above else p ++ [name]

/-- The place that a path leads to, if all directories on the way exist. -/
def ofPath (path : String) : Place :=
  (Text.pathNames path).foldl next (ofRoot (Text.pathRoot path))

def path : Place → String
  | "/" :: names => Text.joinPath "/" names
  | names => Text.joinPath "" names

end Place

/-- Places with what they hold. No place occurs twice. -/
structure Files where
  nodes : List (Place × Node)

namespace Files

def maxName : Nat := 255

def maxPath : Nat := 4095

def empty : Files := ⟨[]⟩

/-- What a place holds, if it exists. The directories that every path starts from do. -/
def node? (f : Files) (p : Place) : Option Node :=
  if p.isAnchor then some .directory else (f.nodes.find? fun n => n.1 == p).map Prod.snd

def isSink (f : Files) (p : Place) : Bool :=
  match f.node? p with
  | some .sink => true
  | _ => false

def put (f : Files) (p : Place) (node : Node) : Files :=
  ⟨(p, node) :: f.nodes.filter fun n => n.1 != p⟩

def step (f : Files) (p : Place) (name : String) : Except PathFault Place :=
  match f.node? p with
  | none => .error .missing
  | some .directory =>
    if maxName < name.utf8ByteSize then .error .tooLong else .ok (p.next name)
  | some _ => .error .notDirectory

def checkPath (path : String) : Except PathFault Unit :=
  if path.toList.contains '\x00' then .error .embeddedNull
  else if maxPath < path.utf8ByteSize then .error .tooLong
  else .ok ()

/-- Whether a path says by its end that it leads to a directory. -/
def namesDirectory (path : String) : Bool := path.endsWith "/" || path.endsWith "/."

def find (f : Files) (path : String) : Except PathFault Node := do
  checkPath path
  if path.isEmpty then throw .missing
  let place ← (Text.pathNames path).foldlM f.step (Place.ofRoot (Text.pathRoot path))
  match f.node? place with
  | none => throw .missing
  | some .directory => return .directory
  | some node => if namesDirectory path then throw .notDirectory else return node

/-- Makes a directory behind a list of names, all but the last of which exist. -/
def makeDirectory (f : Files) (root : Place) (names : List String) : Except PathFault Files := do
  match names.getLast? with
  | none => throw .occupied
  | some name =>
    let place ← names.dropLast.foldlM f.step root
    let made ← f.step place name
    if name = ".." then throw .occupied
    match f.node? made with
    | some _ => throw .occupied
    | none => return f.put made .directory

def ensureDirectory (f : Files) (root : Place) (names : List String) : Except PathFault Files :=
  match f.makeDirectory root names with
  | .error .missing => .error .missing
  | .error fault =>
    match (names.foldlM f.step root).map f.node? with
    | .ok (some .directory) => .ok f
    | _ => .error fault
  | made => made

/-- Makes a directory and those above it, unless they exist. The last name comes first. -/
def ensureDirectories (f : Files) (root : Place) : List String → Except PathFault Files
  | [] => .ok f
  | name :: rest =>
    match f.ensureDirectory root (name :: rest).reverse with
    | .error .missing => do
      let f ← f.ensureDirectories root rest
      f.ensureDirectory root (name :: rest).reverse
    | made => made

/-- Opens a file to add to its end. The file is made if it does not exist, with the directories on
the way to it; the way itself is then the one without detours. -/
def openEnd (f : Files) (path : String) : Except PathFault Files := do
  checkPath path
  let root := Place.ofRoot (Text.pathRoot path)
  let f ← f.ensureDirectories root ((Text.pathNames path).dropLast.reverse)
  let place := Place.ofPath path
  match f.node? place with
  | some .directory => throw .isDirectory
  | some _ => return f
  | none =>
    if maxName < (place.getLastD "").utf8ByteSize then throw .tooLong
    else return f.put place (.file [])

def append (f : Files) (path : String) (bytes : List UInt8) : Files :=
  let place := Place.ofPath path
  match f.node? place with
  | some (.file content) => f.put place (.file (content ++ bytes))
  | _ => f

def add (f : Files) (path : String) (content : List UInt8) : Files :=
  let names := Text.pathNames path
  let root := Place.ofRoot (Text.pathRoot path)
  let withParents := (List.range names.length).foldl
    (fun (f : Files) count =>
      let place := (names.take count).foldl Place.next root
      if place.isAnchor then f else f.put place .directory) f
  withParents.put (Place.ofPath path) (.file content)

end Files
end LeaseBook
