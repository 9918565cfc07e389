import LeaseBook.Config.Session
import Mathlib.Data.List.Induction

/-!
What is read when a configuration that was set aside is asked for again. Loading a file leaves
variables behind in the environment, and they count as set from then on. So the configuration is the
one that a new process would read if no file was loaded before, and otherwise as long as each
setting that was left behind is what the file says now.
-/

namespace LeaseBook

/- Environments by their variables. -/

namespace Environment

variable {e e' : Environment} {name value : String}

/-- That two environments have the same variables with the same values. -/
def Same (e e' : Environment) : Prop := ∀ name, e.get? name = e'.get? name

theorem lookup_same (same : e.Same e') : e.lookup = e'.lookup := by
  funext above name
  simp only [lookup, same name]

theorem ignoresFiles_same (same : e.Same e') : e.ignoresFiles = e'.ignoresFiles := by
  simp only [ignoresFiles, same optOutName]

theorem resolve_same (same : e.Same e') (above as : List EnvFile.Assignment) :
    e.resolve above as = e'.resolve above as := by
  induction as generalizing above with
  | nil => rfl
  | cons a rest ih =>
    simp only [resolve, lookup_same same]
    exact ih _

theorem set_same (same : e.Same e') (name value : String) :
    (e.set name value).Same (e'.set name value) := by
  intro other
  by_cases here : other = name
  · rw [here, get?_set_self, get?_set_self]
  · rw [get?_set_of_ne _ _ here, get?_set_of_ne _ _ here, same]

theorem assignAll_same (same : e.Same e') (as : List EnvFile.Assignment) :
    (e.assignAll as).1 = (e'.assignAll as).1 ∧ (e.assignAll as).2.Same (e'.assignAll as).2 := by
  induction as generalizing e e' with
  | nil => exact ⟨rfl, same⟩
  | cons a rest ih =>
    obtain ⟨name, value⟩ := a
    cases value with
    | none => exact ih same
    | some value =>
      simp only [assignAll, assign, same name]
      split
      · exact ih same
      · cases settingFault? name value with
        | some fault => exact ⟨rfl, same⟩
        | none => exact ih (set_same same name value)

theorem load_same (same : e.Same e') (content : String) :
    (e.load content).1 = (e'.load content).1 ∧ (e.load content).2.Same (e'.load content).2 := by
  simp only [load, ignoresFiles_same same, resolve_same same]
  split
  · exact ⟨rfl, same⟩
  · exact assignAll_same same _

theorem assignAll_keeps (held : e.get? name = some value) (as : List EnvFile.Assignment) :
    (e.assignAll as).2.get? name = some value := by
  induction as generalizing e with
  | nil => exact held
  | cons a rest ih =>
    obtain ⟨other, assigned⟩ := a
    cases assigned with
    | none => exact ih held
    | some assigned =>
      simp only [assignAll, assign]
      split
      · exact ih held
      · rename_i unset
        cases settingFault? other assigned with
        | some fault => exact held
        | none =>
          refine ih ?_
          rw [get?_set_of_ne _ _ fun here => ?_, held]
          rw [← here, held] at unset
          exact unset rfl

theorem load_keeps (held : e.get? name = some value) (content : String) :
    (e.load content).2.get? name = some value := by
  unfold load
  split
  · exact held
  · exact assignAll_keeps held _

end Environment

/- Files whose values stand for themselves. -/

/-- Whether the values of a file refer to no variable and can all be set. -/
def EnvFile.Plain (content : String) : Prop :=
  ∀ a ∈ read content, ∀ value ∈ a.2,
    '$' ∉ value.toList ∧ Environment.settingFault? a.1 value = none

instance (content : String) : Decidable (EnvFile.Plain content) :=
  inferInstanceAs (Decidable (∀ a ∈ EnvFile.read content, ∀ value ∈ a.2, _ ∧ _))

theorem EnvFile.expand_of_plain (lookup : String → Option String) {cs : List Char}
    (plain : '$' ∉ cs) : expand lookup 0 cs = cs := by
  induction cs with
  | nil => rfl
  | cons c rest ih =>
    obtain ⟨other, later⟩ := not_or.mp (mt List.mem_cons.mpr plain)
    simp only [expand, Ne.symm other, if_false, ih later]

namespace Environment

variable {e : Environment} {name value : String} {as above : List EnvFile.Assignment}

/-- The first value that assignments give a variable. -/
def firstValue (name : String) (as : List EnvFile.Assignment) : Option String :=
  as.findSome? fun a => if a.1 = name then a.2 else none

theorem mem_note {a b : EnvFile.Assignment} (there : b ∈ note a above) : b = a ∨ b ∈ above := by
  induction above with
  | nil => exact .inl (List.mem_singleton.mp there)
  | cons c rest ih =>
    simp only [note] at there
    split at there
    · exact (List.mem_cons.mp there).imp_right (List.mem_cons_of_mem c)
    · rcases List.mem_cons.mp there with rfl | later
      · exact .inr List.mem_cons_self
      · exact (ih later).imp_right (List.mem_cons_of_mem c)

theorem resolve_of_plain
    (plain : ∀ a ∈ as, ∀ value ∈ a.2, '$' ∉ value.toList) (above : List EnvFile.Assignment) :
    e.resolve above as = as.foldl (fun above a => note a above) above := by
  induction as generalizing above with
  | nil => rfl
  | cons a rest ih =>
    obtain ⟨name, value⟩ := a
    obtain ⟨first, later⟩ := List.forall_mem_cons.mp plain
    have itself : value.map (fun v => String.ofList
        (EnvFile.expand (e.lookup above) 0 v.toList)) = value := by
      cases value with
      | none => rfl
      | some v =>
        simp only [Option.map_some, EnvFile.expand_of_plain _ (first v rfl), String.ofList_toList]
    simp only [resolve, itself, List.foldl_cons]
    exact ih later _

theorem mem_of_gathered {a : EnvFile.Assignment}
    (there : a ∈ as.foldl (fun above a => note a above) above) : a ∈ as ∨ a ∈ above := by
  induction as generalizing above with
  | nil => exact .inr there
  | cons b rest ih =>
    rcases ih there with later | noted
    · exact .inl (List.mem_cons_of_mem b later)
    · exact (mem_note noted).imp_left fun here => List.mem_cons.mpr (.inl here)

/-- Assignments that can all be made set the variables that are not set. -/
theorem assignAll_of_settable
    (settable : ∀ a ∈ as, ∀ value ∈ a.2, settingFault? a.1 value = none) :
    (e.assignAll as).1 = .ok () ∧
      ∀ name, (e.assignAll as).2.get? name = (e.get? name).or (firstValue name as) := by
  induction as generalizing e with
  | nil => exact ⟨rfl, fun name => (Option.or_none).symm⟩
  | cons a rest ih =>
    obtain ⟨other, assigned⟩ := a
    obtain ⟨first, later⟩ := List.forall_mem_cons.mp settable
    cases assigned with
    | none =>
      obtain ⟨done, found⟩ := ih (e := e) later
      refine ⟨done, fun name => (found name).trans ?_⟩
      simp [firstValue]
    | some assigned =>
      have good : settingFault? other assigned = none := first assigned rfl
      simp only [assignAll, assign, good]
      split
      · rename_i held
        obtain ⟨done, found⟩ := ih (e := e) later
        refine ⟨done, fun name => (found name).trans ?_⟩
        by_cases here : other = name
        · obtain ⟨value, set⟩ := Option.isSome_iff_exists.mp held
          rw [← here, set, Option.some_or, Option.some_or]
        · simp [firstValue, here]
      · rename_i unset
        obtain ⟨done, found⟩ := ih (e := e.set other assigned) later
        refine ⟨done, fun name => (found name).trans ?_⟩
        by_cases here : other = name
        · have vacant := Option.not_isSome_iff_eq_none.mp unset
          rw [← here, get?_set_self, vacant]
          simp [firstValue]
        · rw [get?_set_of_ne _ _ (Ne.symm here)]
          simp [firstValue, here]

end Environment

/-- What a plain file says of a variable. -/
def EnvFile.table (content name : String) : Option String :=
  Environment.firstValue name
    ((read content).foldl (fun above a => Environment.note a above) [])

theorem Environment.load_of_plain {e : Environment} {content : String}
    (plain : EnvFile.Plain content) (heeded : e.ignoresFiles = false) :
    (e.load content).1 = .ok () ∧
      ∀ name, (e.load content).2.get? name = (e.get? name).or (EnvFile.table content name) := by
  simp only [load, heeded, Bool.false_eq_true, if_false,
    resolve_of_plain fun a there value its => (plain a there value its).1]
  refine assignAll_of_settable fun a there value its => ?_
  exact (plain a ((mem_of_gathered there).resolve_right List.not_mem_nil) value its).2

/-- The variables that a configuration is read from. -/
def Config.settings : List String :=
  ["LEASEKEEPER_SUBNET", "LEASEKEEPER_RESERVED", "LEASEKEEPER_LEASE_TIME_MS",
    "LEASEKEEPER_LOG_LEVEL"]

theorem Config.ofEnvironment_congr {e e' : Environment}
    (same : ∀ name ∈ settings, e.get? name = e'.get? name) :
    ofEnvironment e = ofEnvironment e' := by
  simp only [settings, List.forall_mem_cons] at same
  obtain ⟨subnet, reserved, leaseTime, logLevel, _⟩ := same
  simp only [ofEnvironment, subnet, reserved, leaseTime, logLevel]

namespace Session

/-- What can happen to a session: variables are changed from outside, files are, or the program asks
for something. -/
inductive Event where
  | assign (name value : String)
  | unset (name : String)
  | replaceFiles (files : List (Option String))
  | loadFile
  | ofEnvironment
  | config
  | setConfig (c : Option Config)

namespace Event

/-- The session behind an event. Reading the environment leaves it as it is, and so does a variable
that cannot be set. -/
def run (s : Session) : Event → Session
  | assign name value =>
    match s.environment.assign name value with
    | .ok e => { s with environment := e }
    | .error _ => s
  | unset name => { s with environment := s.environment.unset name }
  | replaceFiles files => { s with files := files }
  | loadFile => s.loadFile.2
  | ofEnvironment => s
  | config => s.config.2
  | setConfig c => s.setConfig c

/-- What an event does to the variables that are set from outside. -/
def outside (e : Environment) : Event → Environment
  | assign name value =>
    match e.assign name value with
    | .ok e => e
    | .error _ => e
  | unset name => e.unset name
  | _ => e

/-- What an event makes of a variable from outside, if it changes it. -/
def change? (name : String) : Event → Option (Option String)
  | assign other value =>
    if other = name ∧ Environment.settingFault? other value = none then some (some value) else none
  | unset other => if other = name then some none else none
  | _ => none

/-- Whether an event loads a file. -/
def Loads (s : Session) : Event → Prop
  | loadFile => True
  | config => s.current = none
  | _ => False

/-- Whether an event asks for no configuration and puts none in force. -/
def LeavesAside : Event → Prop
  | config => False
  | setConfig c => c = none
  | _ => True

end Event

def after (s : Session) (events : List Event) : Session := events.foldl Event.run s

def outsideAfter (e : Environment) (events : List Event) : Environment :=
  events.foldl Event.outside e

/-- Whether an event loads a variable that was not set. -/
def Brings (s : Session) (u : Event) (name value : String) : Prop :=
  u.Loads s ∧ s.environment.get? name = none ∧
    s.loadFile.2.environment.get? name = some value

/-- Whether a variable has the value that a file gave it: it was loaded once, and was not changed
from outside since. -/
def LeavesBehind (s : Session) (events : List Event) (name value : String) : Prop :=
  ∃ before u later, events = before ++ u :: later ∧ (s.after before).Brings u name value ∧
    ∀ w ∈ later, w.change? name = none

variable {s t : Session} {e : Environment} {name value : String} {u : Event}
  {events before later : List Event} {files : List (Option String)}
  {table : String → Option String}

/- One load. -/

theorem loadFile_keeps (held : s.environment.get? name = some value) :
    s.loadFile.2.environment.get? name = some value := by
  unfold loadFile
  split
  · exact held
  · exact Environment.load_keeps held _

theorem loadFile_current (s : Session) : s.loadFile.2.current = s.current := by
  unfold loadFile
  split <;> rfl

theorem loadFile_same (files : s.files = t.files) (same : s.environment.Same t.environment) :
    s.loadFile.1 = t.loadFile.1 ∧ s.loadFile.2.environment.Same t.loadFile.2.environment := by
  unfold loadFile
  rw [files]
  split
  · exact ⟨rfl, same⟩
  · rename_i index content _
    obtain ⟨loaded, left⟩ := Environment.load_same same content
    exact ⟨congrArg (Except.map fun _ => some index) loaded, left⟩

/-- A load that succeeds says which file was the first. -/
theorem loadFile_place (done : ∃ place, s.loadFile.1 = .ok place) :
    s.loadFile.1 = .ok ((firstFile? s.files).map Prod.fst) := by
  obtain ⟨place, done⟩ := done
  unfold loadFile at done ⊢
  split at done
  · rename_i none
    simp only [none, Option.map_none]
  · rename_i index content found
    simp only [found, Option.map_some]
    cases loaded : (s.environment.load content).1 with
    | ok => rfl
    | error fault => simp [loaded, Except.map] at done

theorem config_environment (aside : s.current = none) :
    s.config.2.environment = s.loadFile.2.environment := by
  unfold config
  rw [aside]
  dsimp only
  split <;> rfl

theorem config_of_aside (aside : s.current = none) :
    s.config.1 =
      s.loadFile.1.bind fun _ => Config.ofEnvironment s.loadFile.2.environment := by
  unfold config
  rw [aside]
  dsimp only
  split
  · rename_i answered
    exact answered.symm
  · rename_i failed
    exact failed.symm

/-- What is asked for depends on the variables and the files, as long as no configuration is in
force. -/
theorem config_congr (aside : s.current = none) (aside' : t.current = none)
    (loaded : s.loadFile.1 = t.loadFile.1)
    (same : ∀ name ∈ Config.settings,
      s.loadFile.2.environment.get? name = t.loadFile.2.environment.get? name) :
    s.config.1 = t.config.1 := by
  rw [config_of_aside aside, config_of_aside aside', loaded, Config.ofEnvironment_congr same]

/- One event. -/

theorem outside_get? (u : Event) (e : Environment) (name : String) :
    (u.outside e).get? name = (u.change? name).getD (e.get? name) := by
  cases u with
  | assign other value =>
    simp only [Event.outside, Event.change?, Environment.assign]
    cases Environment.settingFault? other value with
    | some fault => simp
    | none =>
      by_cases here : other = name
      · simp [here, Environment.get?_set_self]
      · simp [here, Environment.get?_set_of_ne _ _ (Ne.symm here)]
  | unset other =>
    simp only [Event.outside, Event.change?]
    by_cases here : other = name
    · simp [here, Environment.get?_unset_self]
    · simp [here, Environment.get?_unset_of_ne _ (Ne.symm here)]
  | replaceFiles files => rfl
  | loadFile => rfl
  | ofEnvironment => rfl
  | config => rfl
  | setConfig c => rfl

theorem run_of_loads (loads : u.Loads s) :
    (u.run s).environment = s.loadFile.2.environment ∧ ∀ name, u.change? name = none := by
  cases u with
  | loadFile => exact ⟨rfl, fun _ => rfl⟩
  | config => exact ⟨config_environment loads, fun _ => rfl⟩
  | assign name value => exact loads.elim
  | unset name => exact loads.elim
  | replaceFiles files => exact loads.elim
  | ofEnvironment => exact loads.elim
  | setConfig c => exact loads.elim

/-- An event that loads nothing changes the environment from outside. -/
theorem run_of_not_loads (quiet : ¬ u.Loads s) :
    (u.run s).environment = u.outside s.environment := by
  cases u with
  | assign other value =>
    simp only [Event.run, Event.outside]
    split <;> rfl
  | config =>
    obtain ⟨c, current⟩ := Option.ne_none_iff_exists'.mp quiet
    simp only [Event.run, Event.outside, config, current]
  | loadFile => exact absurd trivial quiet
  | unset name => rfl
  | replaceFiles files => rfl
  | ofEnvironment => rfl
  | setConfig c => rfl

/- Runs. -/

theorem after_concat (s : Session) (events : List Event) (u : Event) :
    s.after (events ++ [u]) = u.run (s.after events) := by
  simp [after]

theorem outsideAfter_concat (e : Environment) (events : List Event) (u : Event) :
    outsideAfter e (events ++ [u]) = u.outside (outsideAfter e events) := by
  simp [outsideAfter]

theorem leavesBehind_concat : s.LeavesBehind (events ++ [u]) name value ↔
    s.LeavesBehind events name value ∧ u.change? name = none ∨
      (s.after events).Brings u name value := by
  constructor
  · rintro ⟨before, w, later, split, brings, kept⟩
    rcases List.eq_nil_or_concat later with rfl | ⟨rest, x, rfl⟩
    · obtain ⟨rfl, same⟩ := List.append_inj' split rfl
      cases same
      exact .inr brings
    · rw [List.concat_eq_append, ← List.cons_append, ← List.append_assoc] at split
      obtain ⟨rfl, same⟩ := List.append_inj' split rfl
      cases same
      rw [List.concat_eq_append] at kept
      obtain ⟨quiet, last⟩ := List.forall_mem_append.mp kept
      exact .inl ⟨⟨before, w, rest, rfl, brings, quiet⟩, last u List.mem_cons_self⟩
  · rintro (⟨⟨before, w, later, rfl, brings, quiet⟩, last⟩ | brings)
    · refine ⟨before, w, later ++ [u], by simp, brings, ?_⟩
      exact List.forall_mem_append.mpr ⟨quiet, List.forall_mem_singleton.mpr last⟩
    · exact ⟨events, u, [], rfl, brings, nofun⟩

/-- After a run the environment holds what is set from outside, and what was left behind. The two do
not overlap. -/
theorem environment_after (outer : Environment) (files : List (Option String))
    (current : Option Config) (events : List Event) (name : String) :
    let start : Session := ⟨outer, files, current⟩
    (∀ value, (start.after events).environment.get? name = some value ↔
      (outsideAfter outer events).get? name = some value ∨
        start.LeavesBehind events name value) ∧
    ∀ value, start.LeavesBehind events name value →
      (outsideAfter outer events).get? name = none := by
  intro start
  induction events using List.reverseRecOn with
  | nil =>
    have nothing (value : String) : ¬ start.LeavesBehind [] name value := by
      rintro ⟨before, u, later, split, _⟩
      exact List.append_ne_nil_of_right_ne_nil before (List.cons_ne_nil u later) split.symm
    exact ⟨fun value => (or_iff_left (nothing value)).symm,
      fun value left => absurd left (nothing value)⟩
  | append_singleton events u ih =>
    obtain ⟨holds, apart⟩ := ih
    simp only [leavesBehind_concat, after_concat, outsideAfter_concat, outside_get?]
    by_cases loads : u.Loads (start.after events)
    · obtain ⟨loaded, unchanged⟩ := run_of_loads loads
      simp only [loaded, unchanged, and_true, Option.getD_none]
      cases held : (start.after events).environment.get? name with
      | some found =>
        -- what is set already is not loaded over
        have nothing (value : String) : ¬ (start.after events).Brings u name value :=
          fun brings => nomatch held.symm.trans brings.2.1
        simp only [nothing, or_false, loadFile_keeps held]
        exact ⟨fun value => held ▸ holds value, apart⟩
      | none =>
        have free : (outsideAfter outer events).get? name = none := by
          refine Option.eq_none_iff_forall_ne_some.mpr fun value set => ?_
          exact nomatch held.symm.trans ((holds value).mpr (.inl set))
        have unleft (value : String) : ¬ start.LeavesBehind events name value :=
          fun left => nomatch held.symm.trans ((holds value).mpr (.inr left))
        simp only [free, unleft, Brings, loads, held, true_and, false_or, reduceCtorEq,
          implies_true, and_true]
    · have nothing (value : String) : ¬ (start.after events).Brings u name value :=
        fun brings => loads brings.1
      simp only [run_of_not_loads loads, outside_get?, nothing, or_false]
      cases u.change? name with
      | some found => simp
      | none => simpa using ⟨holds, apart⟩

theorem current_of_leavesAside (aside : s.current = none) (quiet : ∀ w ∈ later, w.LeavesAside) :
    (s.after later).current = none := by
  induction later generalizing s with
  | nil => exact aside
  | cons u later ih =>
    obtain ⟨first, others⟩ := List.forall_mem_cons.mp quiet
    refine ih ?_ others
    cases u with
    | assign name value =>
      simp only [Event.run]
      split
      · exact aside
      · exact aside
    | loadFile => exact (loadFile_current s).trans aside
    | setConfig c => exact first
    | config => exact first.elim
    | unset name => exact aside
    | replaceFiles files => exact aside
    | ofEnvironment => exact aside

/- The configuration that is read anew. -/

/-- That loading sets exactly the variables of a table that are not set yet. -/
structure Takes (s : Session) (table : String → Option String) : Prop where
  done : ∃ place, s.loadFile.1 = .ok place
  sets : ∀ name, s.loadFile.2.environment.get? name = (s.environment.get? name).or (table name)

theorem takes_of_plain {place : Nat} {content : String}
    (found : firstFile? s.files = some (place, content)) (plain : EnvFile.Plain content)
    (heeded : s.environment.ignoresFiles = false) : s.Takes (EnvFile.table content) := by
  obtain ⟨done, sets⟩ := Environment.load_of_plain plain heeded
  constructor
  · exact ⟨some place, by simp only [loadFile, found, done, Except.map]⟩
  · simpa only [loadFile, found] using sets

section
variable {left : String → Prop}
  (holds : ∀ value, s.environment.get? name = some value ↔
    t.environment.get? name = some value ∨ left value)
include holds

theorem get?_of_not_left (clean : ∀ value, ¬ left value) :
    s.environment.get? name = t.environment.get? name := by
  refine Option.ext fun value => ?_
  rw [holds, or_iff_left (clean value)]

/-- A variable is loaded alike with and without what was left behind exactly if the file says the
same. -/
theorem loaded_alike_iff (apart : ∀ value, left value → t.environment.get? name = none)
    (takes : s.Takes table) (takes' : t.Takes table) :
    s.loadFile.2.environment.get? name = t.loadFile.2.environment.get? name ↔
      ∀ value, left value → table name = some value := by
  rw [takes.sets, takes'.sets]
  constructor
  · intro alike value behind
    rw [(holds value).mpr (.inr behind), apart value behind] at alike
    exact alike.symm
  · intro fresh
    by_cases clean : ∀ value, ¬ left value
    · rw [get?_of_not_left holds clean]
    · obtain ⟨value, behind⟩ := not_forall_not.mp clean
      rw [(holds value).mpr (.inr behind), apart value behind, fresh value behind]
      rfl

end

/-- The configuration that is asked for after one was set aside is read from what is set from
outside and from what was left behind. If nothing was, then a new process reads the same. If loading
sets exactly the variables of a file that are not set, then the settings are loaded as in a new
process exactly if whatever was left behind of them is what the file says now, and then so is the
configuration read. -/
theorem reloaded_after_set_aside (outer : Environment) (files : List (Option String))
    (before between : List Event) (quiet : ∀ u ∈ between, u.LeavesAside) :
    let start : Session := ⟨outer, files, none⟩
    let events := before ++ .setConfig none :: between
    let s := start.after events
    let new : Session := ⟨outsideAfter outer events, s.files, none⟩
    (∀ name value, s.environment.get? name = some value ↔
      new.environment.get? name = some value ∨ start.LeavesBehind events name value) ∧
    ((∀ name value, ¬ start.LeavesBehind events name value) → s.config.1 = new.config.1) ∧
    ∀ table, s.Takes table → new.Takes table →
      let fresh := ∀ name ∈ Config.settings, ∀ value,
        start.LeavesBehind events name value → table name = some value
      (fresh ↔ ∀ name ∈ Config.settings,
        s.loadFile.2.environment.get? name = new.loadFile.2.environment.get? name) ∧
      (fresh → s.config.1 = new.config.1) := by
  intro start events s new
  have holds (name : String) := (environment_after outer files none events name).1
  have apart (name : String) := (environment_after outer files none events name).2
  have aside : s.current = none := by
    have parts : s = ((start.after before).setConfig none).after between := by
      simp only [s, events, after, List.foldl_append, List.foldl_cons, Event.run]
    exact parts ▸ current_of_leavesAside rfl quiet
  refine ⟨fun name value => holds name value, fun clean => ?_, fun table takes takes' => ?_⟩
  · have same : s.environment.Same new.environment :=
      fun name => get?_of_not_left (holds name) (clean name)
    obtain ⟨loaded, left⟩ := loadFile_same (s := s) (t := new) rfl same
    exact config_congr aside rfl loaded fun name _ => left name
  · intro fresh
    have alike (name : String) :=
      loaded_alike_iff (t := new) (holds name) (apart name) takes takes'
    refine ⟨forall₂_congr fun name _ => (alike name).symm, fun kept => ?_⟩
    have loaded : s.loadFile.1 = new.loadFile.1 :=
      (loadFile_place takes.done).trans (loadFile_place takes'.done).symm
    exact config_congr aside rfl loaded fun name its => (alike name).mpr (kept name its)

/-- Reloading a file that did not change gives what a new process reads. -/
theorem unchanged_file_reloaded :
    let before : List Event := [.replaceFiles [some "LEASEKEEPER_SUBNET=10.1.0.0/24\n"], .config]
    let between : List Event := [.assign "LEASEKEEPER_LOG_LEVEL" "debug"]
    let events := before ++ .setConfig none :: between
    let s := (⟨.empty, [], none⟩ : Session).after events
    let new : Session := ⟨outsideAfter .empty events, s.files, none⟩
    (∀ u ∈ between, u.LeavesAside) ∧ s.environment.get? "LEASEKEEPER_SUBNET" = some "10.1.0.0/24" ∧
      s.config.1 = new.config.1 := by
  intro before between events s new
  have quiet : ∀ u ∈ between, u.LeavesAside := List.forall_mem_singleton.mpr trivial
  obtain ⟨holds, _, reads⟩ := reloaded_after_set_aside .empty [] before between quiet
  have plain : EnvFile.Plain "LEASEKEEPER_SUBNET=10.1.0.0/24\n" := by decide +kernel
  have takes : s.Takes _ := takes_of_plain rfl plain (by decide +kernel)
  have takes' : new.Takes _ := takes_of_plain rfl plain (by decide +kernel)
  refine ⟨quiet, by decide +kernel, (reads _ takes takes').2 fun name its value behind => ?_⟩
  have held : s.environment.get? name = some value := (holds name value).mpr (.inr behind)
  have free : new.environment.get? name = none :=
    (environment_after .empty [] none events name).2 value behind
  have same : ∀ name ∈ Config.settings, new.environment.get? name = none →
      s.environment.get? name =
        EnvFile.table "LEASEKEEPER_SUBNET=10.1.0.0/24\n" name := by decide +kernel
  rw [← same name its free, held]

/-- A setting that a file gave and that the file changes stays as it was. -/
theorem changed_file_not_reloaded :
    let first : Option String := some "LEASEKEEPER_SUBNET=10.1.0.0/24\n"
    let second : Option String := some "LEASEKEEPER_SUBNET=10.2.0.0/24\n"
    let events : List Event :=
      [.replaceFiles [first], .config, .replaceFiles [second], .setConfig none]
    let s := (⟨.empty, [], none⟩ : Session).after events
    let new : Session := ⟨outsideAfter .empty events, s.files, none⟩
    s.config.1.toOption.map (·.subnet.shown) = some "'10.1.0.0/24'" ∧
      new.config.1.toOption.map (·.subnet.shown) = some "'10.2.0.0/24'" ∧
      s.config.1 ≠ new.config.1 := by
  intro first second events s new
  have stale : s.config.1.toOption.map (·.subnet.shown) = some "'10.1.0.0/24'" := by
    decide +kernel
  have read : new.config.1.toOption.map (·.subnet.shown) = some "'10.2.0.0/24'" := by
    decide +kernel
  refine ⟨stale, read, fun same => ?_⟩
  rw [same, read] at stale
  exact absurd stale (by decide)

end Session
end LeaseBook
