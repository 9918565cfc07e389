/-!
Text on its way to a terminal: the characters and the sequences that steer a terminal instead of
being shown.
-/

namespace LeaseBook.Text

/-- Whether a character only steers a terminal: bell, backspace, the two feeds and the carriage
return. Such characters are not shown. -/
def isControl (c : Char) : Bool :=
  c == '\x07' || c == '\x08' || c == '\x0b' || c == '\x0c' || c == '\r'

def visible (s : String) : List Char := s.toList.filter fun c => !isControl c

def isParameter (c : Char) : Bool := '0' ≤ c && c ≤ '?'

def isIntermediate (c : Char) : Bool := ' ' ≤ c && c ≤ '/'

def isFinal (c : Char) : Bool := '@' ≤ c && c ≤ '~'

/-- How many characters behind the first belong to a sequence that steers a terminal, if a text
starts with one: an escape, a bracket, parameters, intermediate characters and a final one. -/
def sequence? : List Char → Option Nat
  | '\x1b' :: '[' :: rest =>
    let parameters := rest.takeWhile isParameter
    let behind := rest.drop parameters.length
    let intermediates := behind.takeWhile isIntermediate
    match behind.drop intermediates.length with
    | c :: _ => if isFinal c then some (parameters.length + intermediates.length + 2) else none
    | [] => none
  | _ => none

/-- A text without the sequences in it that steer a terminal. `skip` characters belong to one that
has begun. -/
def dropSequences : Nat → List Char → List Char
  | _, [] => []
  | skip + 1, _ :: rest => dropSequences skip rest
  | 0, c :: rest =>
    match sequence? (c :: rest) with
    | some length => dropSequences length rest
    | none => c :: dropSequences 0 rest

def plain (s : String) : String := String.ofList (dropSequences 0 s.toList)

end LeaseBook.Text
