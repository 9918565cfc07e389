import LeaseBook.CommandLine.Usage
import LeaseBook.Text.Similar
import LeaseBook.Text.Split

/-!
Sorting the arguments of a command into options and the rest. A long option takes its value behind
an `=` or from the next argument, a short one also from what follows its letter; `--` ends the
options.
-/

namespace LeaseBook

structure OptionForm where
  name : String
  letter : Option Char
  takesValue : Bool

/-- Arguments sorted out: the options by their long names, with empty values where they take none,
and the rest, both in order. -/
structure Arguments where
  options : List (String × String)
  rest : List String

namespace Arguments

def values (a : Arguments) (name : String) : List String :=
  a.options.filterMap fun o => if o.1 = name then some o.2 else none

def has (a : Arguments) (name : String) : Bool := !(a.values name).isEmpty

/-- The value of an option, the last if there are several. -/
def last? (a : Arguments) (name : String) : Option String := (a.values name).getLast?

/-- An option that waits for its value: its long name, and how it was written. -/
structure Waiting where
  name : String
  written : String

abbrev Found := List (String × String) × Option Waiting

def readLetters (forms : List OptionForm) : List Char → Except UsageFault Found
  | [] => .ok ([], none)
  | c :: cs =>
    let written := String.ofList ['-', c]
    match forms.find? fun f => f.letter == some c with
    | none => .error (.unknownOption written [])
    | some form =>
      if form.takesValue then
        if cs.isEmpty then .ok ([], some ⟨form.name, written⟩)
        else .ok ([(form.name, String.ofList cs)], none)
      else (readLetters forms cs).map fun found => ((form.name, "") :: found.1, found.2)

def readOption (forms : List OptionForm) (arg : String) : Except UsageFault Found :=
  let (front, back) := Text.cutAt '=' arg.toList
  let written := String.ofList front
  match forms.find? fun f => f.name == written with
  | some form =>
    match form.takesValue, back with
    | true, some value => .ok ([(form.name, String.ofList value)], none)
    | true, none => .ok ([], some ⟨form.name, written⟩)
    | false, some _ => .error (.takesNoValue written)
    | false, none => .ok ([(form.name, "")], none)
  | none =>
    match arg.toList with
    | '-' :: '-' :: _ =>
      .error (.unknownOption written (Text.closest written (forms.map OptionForm.name)))
    | _ :: letters => readLetters forms letters
    | [] => .ok ([], none)

def isOption (arg : String) : Bool :=
  match arg.toList with
  | '-' :: _ :: _ => true
  | _ => false

/-- Sorts arguments out. Where options may not follow other arguments, the first of those ends
them. -/
def sort (forms : List OptionForm) (mixed : Bool) (waiting : Option Waiting) :
    List String → Except UsageFault Arguments
  | [] =>
    match waiting with
    | some w => .error (.needsArgument w.written)
    | none => .ok ⟨[], []⟩
  | arg :: args =>
    match waiting with
    | some w =>
      (sort forms mixed none args).map fun a => { a with options := (w.name, arg) :: a.options }
    | none =>
      if arg = "--" then .ok ⟨[], args⟩
      else if isOption arg then
        match readOption forms arg with
        | .error fault => .error fault
        | .ok (found, waiting) =>
          (sort forms mixed waiting args).map fun a => { a with options := found ++ a.options }
      else if mixed then
        (sort forms mixed none args).map fun a => { a with rest := arg :: a.rest }
      else .ok ⟨[], arg :: args⟩

end Arguments
end LeaseBook
