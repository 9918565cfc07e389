import LeaseBook.Number.Power
import LeaseBook.Text.Blank
import LeaseBook.Text.Digit

/-!
Whole numbers as text. The reader takes surrounding white space, one sign and decimal digits of
any script, with single underscores between digits; a numeral of more than 4300 digits is
refused whatever its value and whatever follows it. The printer writes plain decimals, or groups
of three.
-/

namespace LeaseBook

inductive NumeralFault where
  | malformed
  | tooLong (digits : Nat)
  deriving DecidableEq, Repr

namespace Numeral

def maxDigits : Nat := 4300

def isWritable (i : Int) : Bool := i.natAbs < 10 ^ maxDigits

structure Run where
  count : Nat
  value : Nat
  rest : List Char

/-- Reads on after a digit: `count` digits so far, of value `value`. An underscore has to stand
between two digits. -/
def digitsAfter (count value : Nat) : List Char → Option Run
  | [] => some ⟨count, value, []⟩
  | ['_'] => none
  | '_' :: c :: rest =>
    match Text.digitValue? c with
    | some d => digitsAfter (count + 1) (value * 10 + d) rest
    | none => none
  | c :: rest =>
    match Text.digitValue? c with
    | some d => digitsAfter (count + 1) (value * 10 + d) rest
    | none => some ⟨count, value, c :: rest⟩

def unsigned : List Char → Option Run
  | [] => none
  | c :: rest =>
    match Text.digitValue? c with
    | some d => digitsAfter 1 d rest
    | none => none

/-- Whether a minus sign leads, and what follows the sign if there is one. -/
def splitSign : List Char → Bool × List Char
  | '-' :: rest => (true, rest)
  | '+' :: rest => (false, rest)
  | cs => (false, cs)

/-- White space around a numeral. In a text of ASCII and in any other it is the same class. -/
def trimmed (cs : List Char) : List Char :=
  Text.trimWhile Text.isWhite cs

def ofChars (cs : List Char) : Except NumeralFault Int :=
  let (negative, digits) := splitSign (trimmed cs)
  match unsigned digits with
  | none => .error .malformed
  | some run =>
    if maxDigits < run.count then .error (.tooLong run.count)
    else if run.rest.isEmpty then .ok (if negative then -(run.value : Int) else run.value)
    else .error .malformed

def ofString (s : String) : Except NumeralFault Int :=
  ofChars s.toList

/-- Puts a comma in front of every third digit, counted from the right. -/
def groupThrees : List Char → List Char
  | [] => []
  | c :: rest =>
    if rest.length % 3 = 0 ∧ rest ≠ [] then c :: ',' :: groupThrees rest
    else c :: groupThrees rest

def grouped (n : Nat) : String :=
  String.ofList (groupThrees (toString n).toList)

end Numeral
end LeaseBook
