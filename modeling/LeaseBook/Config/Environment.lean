import LeaseBook.Config.EnvFile
import LeaseBook.Fault
import LeaseBook.Text.Upper

/-!
Environment variables, and what loading a file of them does: variables that are set already keep
their values, and an environment can ask that files be left alone.
-/

namespace LeaseBook

/-- Variables with their values. No name occurs twice. -/
structure Environment where
  entries : List (String × String)

namespace Environment

def empty : Environment := ⟨[]⟩

def get? (e : Environment) (name : String) : Option String :=
  (e.entries.find? fun v => v.1 == name).map Prod.snd

def unset (e : Environment) (name : String) : Environment :=
  ⟨e.entries.filter fun v => v.1 != name⟩

def set (e : Environment) (name value : String) : Environment :=
  ⟨(name, value) :: (e.unset name).entries⟩

/-- The environment with variables that come later in a list overriding earlier ones. -/
def ofList (entries : List (String × String)) : Environment :=
  entries.foldl (fun e v => e.set v.1 v.2) empty

theorem get?_unset_self (e : Environment) (name : String) : (e.unset name).get? name = none := by
  simp [unset, get?]

theorem get?_unset_of_ne (e : Environment) {name other : String} (h : other ≠ name) :
    (e.unset name).get? other = e.get? other := by
  have drop : ∀ vs : List (String × String),
      (vs.filter fun v => v.1 != name).find? (fun v => v.1 == other) =
        vs.find? (fun v => v.1 == other) := by
    intro vs
    induction vs with
    | nil => rfl
    | cons v vs ih =>
      by_cases hv : v.1 = name
      · have : v.1 ≠ other := fun e => h (e.symm.trans hv)
        simp [hv, ih, h.symm]
      · simp [List.find?_cons, hv, ih]
  simp [unset, get?, drop]

theorem get?_set_self (e : Environment) (name value : String) :
    (e.set name value).get? name = some value := by
  simp [set, get?]

theorem get?_set_of_ne (e : Environment) {name other : String} (value : String)
    (h : other ≠ name) : (e.set name value).get? other = e.get? other := by
  have apart : (name == other) = false := beq_eq_false_iff_ne.mpr h.symm
  rw [← e.get?_unset_of_ne h]
  simp [set, get?, apart]

/-- The variable by which an environment asks that files be left alone. -/
def optOutName : String := "PYTHON_DOTENV_DISABLED"

/-- Whether an environment takes no variables from files: its variable for that says yes, in
letters of either case. -/
def ignoresFiles (e : Environment) : Bool :=
  match e.get? optOutName with
  | some value => ["1", "TRUE", "T", "YES", "Y"].contains (Text.upper value)
  | none => false

/-- The value that a reference in a file stands for: a variable that is set, or else one that the
file has assigned above. One that is only named there stands for nothing. -/
def lookup (e : Environment) (above : List EnvFile.Assignment) (name : String) : Option String :=
  match e.get? name with
  | some value => some value
  | none => (above.find? fun a => a.1 == name).map fun a => a.2.getD ""

/-- Notes an assignment: in the place of an earlier one to the same name, or last. -/
def note (a : EnvFile.Assignment) : List EnvFile.Assignment → List EnvFile.Assignment
  | [] => [a]
  | b :: rest => if b.1 = a.1 then a :: rest else b :: note a rest

/-- The assignments of a file with their references replaced, one to a name. The last one counts, in
the place of the first. -/
def resolve (e : Environment) (above : List EnvFile.Assignment) :
    List EnvFile.Assignment → List EnvFile.Assignment
  | [] => above
  | (name, value) :: rest =>
    let value := value.map fun v => String.ofList (EnvFile.expand (e.lookup above) 0 v.toList)
    e.resolve (note (name, value) above) rest

/-- What is wrong with a name and a value for it, if anything is: neither can hold U+0000, nor can a
name hold the sign that ends it. -/
def settingFault? (name value : String) : Option Fault :=
  if name.toList.contains '\x00' || value.toList.contains '\x00' then some .embeddedNull
  else if name.toList.contains '=' then some .variableName
  else none

/-- Sets a variable, if its name and value are such as it can have. -/
def assign (e : Environment) (name value : String) : Except Fault Environment :=
  match settingFault? name value with
  | some fault => .error fault
  | none => .ok (e.set name value)

/-- Carries assignments out: those with a value, to variables that are not set yet. The first that
cannot be carried out ends them, and those before it stay. -/
def assignAll (e : Environment) : List EnvFile.Assignment → Except Fault Unit × Environment
  | [] => (.ok (), e)
  | (_, none) :: rest => e.assignAll rest
  | (name, some value) :: rest =>
    if (e.get? name).isSome then e.assignAll rest
    else
      match e.assign name value with
      | .error fault => (.error fault, e)
      | .ok e => e.assignAll rest

/-- Sets the variables of a file that are not set yet. An environment that ignores files
stays as it is. -/
def load (e : Environment) (content : String) : Except Fault Unit × Environment :=
  if e.ignoresFiles then (.ok (), e) else e.assignAll (e.resolve [] (EnvFile.read content))

theorem load_of_ignoresFiles (e : Environment) (content : String) (h : e.ignoresFiles = true) :
    e.load content = (.ok (), e) := by
  simp [load, h]

end Environment
end LeaseBook
