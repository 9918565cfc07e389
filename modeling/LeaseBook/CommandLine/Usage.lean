import LeaseBook.Fault
import LeaseBook.Text.Quoted
import LeaseBook.Text.Terminal

/-!
What can be wrong with the way a command is called, and the words for it.
-/

namespace LeaseBook

inductive UsageFault where
  | unknownOption (name : String) (similar : List String)
  | needsArgument (name : String)
  | takesNoValue (name : String)
  | extraArguments (arguments : List String)
  | missingArgument (name : String)
  | missingCommand
  | unknownCommand (name : String) (similar : List String)
  | noSuchFile (parameter path : String)
  | isDirectory (parameter path : String)
  | badSetting (fault : Fault)
  /-- No arguments, where at least a command is meant. The usage is shown without a message. -/
  | nothingAsked

namespace UsageFault

def proposal : List String → String
  | [] => ""
  | [name] => " Did you mean " ++ Text.quoted name ++ "?"
  | names =>
    " (Did you mean one of: " ++ String.intercalate ", " (names.map Text.quoted) ++ "?)"

def words : UsageFault → Option String
  | unknownOption name similar =>
    some ("No such option " ++ Text.quoted name ++ "." ++ proposal similar)
  | needsArgument name => some ("Option " ++ Text.quoted name ++ " requires an argument.")
  | takesNoValue name => some ("Option " ++ Text.quoted name ++ " does not take a value.")
  | extraArguments arguments =>
    let noun := if arguments.length = 1 then "argument" else "arguments"
    some ("Got unexpected extra " ++ noun ++ " (" ++ String.intercalate " " arguments ++ ")")
  | missingArgument name => some ("Missing argument '" ++ name ++ "'.")
  | missingCommand => some "Missing command."
  | unknownCommand name similar =>
    some ("No such command " ++ Text.quoted name ++ "." ++ proposal similar)
  | noSuchFile parameter path =>
    some ("Invalid value for '" ++ parameter ++ "': File " ++ Text.quoted path ++
      " does not exist.")
  | isDirectory parameter path =>
    some ("Invalid value for '" ++ parameter ++ "': File " ++ Text.quoted path ++
      " is a directory.")
  | badSetting fault => some fault.message
  | nothingAsked => none

/-- The message for a fault, if it has any. What would steer a terminal is left out. -/
def message (f : UsageFault) : Option String := f.words.map Text.plain

end UsageFault
end LeaseBook
