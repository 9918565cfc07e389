import LeaseBook.Text.Blank
import LeaseBook.Text.Line
import LeaseBook.Text.Split

/-!
Files of environment variables: lines of the form `NAME=value`, where a name may follow the word
`export`, a value may stand between single or double quotes and then go on over several lines, and
a comment starts at a `#`. A line that does not have this form is passed over. Values may refer to
other variables as `${NAME}` or `${NAME:-default}`. A byte order mark may stand at the very front.
-/

namespace LeaseBook.EnvFile

def isInline (c : Char) : Bool := Text.isBlank c && c != '\n' && c != '\r'

def nextLine : List Char → List Char
  | [] => []
  | c :: rest => if c = '\n' then rest else nextLine rest

def dropExport (cs : List Char) : List Char :=
  match Text.dropWord? "export".toList cs with
  | some (c :: rest) => if isInline c then rest.dropWhile isInline else cs
  | _ => cs

/-- The name that a line starts with, between single quotes or up to white space, `=` or `#`. -/
def name? (cs : List Char) : Option (List Char × List Char) :=
  match cs with
  | '\'' :: rest =>
    let name := rest.takeWhile (· != '\'')
    match name, rest.drop name.length with
    | _ :: _, '\'' :: after => some (name, after)
    | _, _ => none
  | _ =>
    let inName (c : Char) : Bool := c != '=' && c != '#' && !Text.isBlank c
    let name := cs.takeWhile inName
    if name.isEmpty then none else some (name, cs.drop name.length)

/-- What stands in front of the closing quote, and behind it. A quote behind a backslash does not
close, unless that backslash is itself behind one. -/
def untilQuote (q : Char) : List Char → Option (List Char × List Char)
  | [] => none
  | '\\' :: c :: rest => (untilQuote q rest).map fun found => ('\\' :: c :: found.1, found.2)
  | c :: rest =>
    if c = q then some ([], rest)
    else (untilQuote q rest).map fun found => (c :: found.1, found.2)

/-- Replaces a backslash and the letter behind it by what the letter stands for, if it stands for
anything. -/
def unescape (meaning? : Char → Option Char) : List Char → List Char
  | '\\' :: c :: rest =>
    match meaning? c with
    | some shown => shown :: unescape meaning? rest
    | none => '\\' :: unescape meaning? (c :: rest)
  | c :: rest => c :: unescape meaning? rest
  | [] => []

def singleMeaning? (c : Char) : Option Char :=
  if c = '\\' ∨ c = '\'' then some c else none

def doubleMeaning? (c : Char) : Option Char :=
  match c with
  | 'a' => some '\x07'
  | 'b' => some '\x08'
  | 'f' => some '\x0c'
  | 'n' => some '\n'
  | 'r' => some '\r'
  | 't' => some '\t'
  | 'v' => some '\x0b'
  | '"' => some '"'
  | c => singleMeaning? c

/-- A value without quotes up to its comment: a `#` behind white space. -/
def beforeComment : List Char → List Char
  | [] => []
  | c :: rest =>
    match rest with
    | '#' :: _ => if Text.isBlank c then [] else c :: beforeComment rest
    | _ => c :: beforeComment rest

def value? (cs : List Char) : Option (List Char × List Char) :=
  match cs with
  | '\'' :: rest => (untilQuote '\'' rest).map fun found => (unescape singleMeaning? found.1, found.2)
  | '"' :: rest => (untilQuote '"' rest).map fun found => (unescape doubleMeaning? found.1, found.2)
  | _ =>
    let line := cs.takeWhile (· != '\n')
    some (Text.dropEndWhile Text.isBlank (beforeComment line), cs.drop line.length)

/-- The value between an `=` and the end of its line, and what follows it. A `#` behind white space
leaves no value in front of it. -/
def assigned? (cs : List Char) : Option (List Char × List Char) :=
  let start := cs.dropWhile isInline
  match start with
  | '#' :: _ => if start.length < cs.length then some ([], start) else value? start
  | _ => value? start

/-- What follows a line that ends here, after white space and a comment. -/
def lineEnd? (cs : List Char) : Option (List Char) :=
  let rest := cs.dropWhile isInline
  let rest := match rest with
    | '#' :: _ => rest.dropWhile (· != '\n')
    | _ => rest
  match rest with
  | [] => some []
  | '\n' :: after => some after
  | _ => none

/-- A name and its value, if it has one. -/
abbrev Assignment := String × Option String

/-- Reads a statement that starts here: the assignment in it, if it has the form of one, and what
follows. -/
def statement (cs : List Char) : Option Assignment × List Char :=
  match cs with
  | '#' :: _ => (none, nextLine cs)
  | _ =>
    match name? (dropExport cs) with
    | none => (none, nextLine (dropExport cs))
    | some (name, rest) =>
      let name := String.ofList name
      match rest.dropWhile isInline with
      | '=' :: rest =>
        match assigned? rest with
        | none => (none, nextLine rest)
        | some (value, rest) =>
          match lineEnd? rest with
          | some after => (some (name, some (String.ofList value)), after)
          | none => (none, nextLine rest)
      | rest =>
        match lineEnd? rest with
        | some after => (some (name, none), after)
        | none => (none, nextLine rest)

/-- All assignments. Every statement takes at least one character. -/
def statements : Nat → List Char → List Assignment
  | 0, _ => []
  | fuel + 1, cs =>
    match cs.dropWhile Text.isBlank with
    | [] => []
    | start =>
      let (found, rest) := statement start
      found.toList ++ statements fuel rest

def dropMark : List Char → List Char
  | '\uFEFF' :: rest => rest
  | cs => cs

def read (content : String) : List Assignment :=
  let cs := Text.unifyLineEnds (dropMark content.toList)
  statements cs.length cs

/-- The name and the default of a reference, and how many characters it takes behind its `$`. -/
def reference? : List Char → Option (List Char × List Char × Nat)
  | '\x7b' :: rest =>
    let name := rest.takeWhile fun c => c != '\x7d' && c != ':'
    match rest.drop name.length with
    | '\x7d' :: _ => some (name, [], name.length + 2)
    | ':' :: '-' :: more =>
      let default := more.takeWhile (· != '\x7d')
      if default.length < more.length then some (name, default, name.length + default.length + 4)
      else none
    | _ => none
  | _ => none

/-- Puts values in the place of references. `skip` characters belong to a reference already
replaced. -/
def expand (lookup : String → Option String) : Nat → List Char → List Char
  | _, [] => []
  | skip + 1, _ :: rest => expand lookup skip rest
  | 0, c :: rest =>
    match if c = '$' then reference? rest else none with
    | some (name, default, taken) =>
      let value := (lookup (String.ofList name)).getD (String.ofList default)
      value.toList ++ expand lookup taken rest
    | none => c :: expand lookup 0 rest

end LeaseBook.EnvFile
