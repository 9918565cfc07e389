import LeaseBook.CommandLine.Command
import LeaseBook.Proofs.Replaying
import Mathlib.Data.Set.List

/-!
Which faults a replay keeps from the user. A bad value in a scenario is put into a message, unless
it is of a shape that its reader does not look into at all: no number where a lease time is meant,
nothing to go through where reserved addresses are, a list or an object for an address, no text for
an identifier, and neither a number nor a text for an instant, or an infinite one.
-/

namespace LeaseBook

/-- Whether something ends with a fault that is not put to the user. -/
def Escapes {α : Type} (r : Except Fault α) : Prop :=
  ∃ fault, r = .error fault ∧ fault.isReported = false

instance {α : Type} : (r : Except Fault α) → Decidable (Escapes r)
  | .ok _ => isFalse nofun
  | .error fault =>
    decidable_of_iff (fault.isReported = false)
      ⟨fun kept => ⟨fault, rfl, kept⟩, fun ⟨_, same, kept⟩ => Except.error.inj same ▸ kept⟩

/-- Whether something ends without a fault. -/
def Reads {α : Type} (r : Except Fault α) : Prop := ∃ a, r = .ok a

instance {α : Type} : (r : Except Fault α) → Decidable (Reads r)
  | .ok a => isTrue ⟨a, rfl⟩
  | .error _ => isFalse nofun

section
variable {α β : Type} {r : Except Fault α} {g : α → Except Fault β} {fault : Fault}

@[simp] theorem not_escapes_ok (a : α) : ¬ Escapes (.ok a) := nofun

@[simp] theorem not_escapes_pure (a : α) : ¬ Escapes (pure a : Except Fault α) := nofun

@[simp] theorem escapes_error :
    Escapes (.error fault : Except Fault α) ↔ fault.isReported = false :=
  ⟨fun ⟨_, same, kept⟩ => Except.error.inj same ▸ kept, fun kept => ⟨fault, rfl, kept⟩⟩

theorem not_escapes_error (told : fault.isReported = true) :
    ¬ Escapes (.error fault : Except Fault α) := by
  rw [escapes_error, told]
  exact Bool.true_eq_false.mp

theorem escapes_bind : Escapes (r >>= g) ↔ Escapes r ∨ ∃ a, r = .ok a ∧ Escapes (g a) := by
  cases r with
  | error fault => simp [bind, Except.bind]
  | ok a => simp [bind, Except.bind]

theorem reads_ok (a : α) : Reads (.ok a) := ⟨a, rfl⟩

theorem reads_bind : Reads (r >>= g) ↔ ∃ a, r = .ok a ∧ Reads (g a) := by
  cases r with
  | error fault => simp [Reads, bind, Except.bind]
  | ok a => simp [bind, Except.bind]

theorem escapes_map {f : α → β} : Escapes (r.map f) ↔ Escapes r := by
  cases r with
  | error fault => simp [Except.map]
  | ok a => simp [Except.map]

/-- The places of a list are its head and the places of its tail. -/
theorem exists_split_cons {a : α} {rest : List α} {P : List α → α → Prop} :
    (∃ before x after, a :: rest = before ++ x :: after ∧ P before x) ↔
      P [] a ∨ ∃ before x after, rest = before ++ x :: after ∧ P (a :: before) x := by
  constructor
  · rintro ⟨before, x, after, split, here⟩
    cases before with
    | nil =>
      cases split
      exact .inl here
    | cons b before =>
      cases split
      exact .inr ⟨before, x, after, rfl, here⟩
  · rintro (here | ⟨before, x, after, rfl, later⟩)
    · exact ⟨[], a, rest, rfl, here⟩
    · exact ⟨a :: before, x, after, rfl, later⟩

end

namespace Value

variable {v : Value} {items : List Value}

/-- Whether a value is none that an address is looked for in: a list or an object without a colon,
or an identifier. -/
def isShapeless (v : Value) : Bool :=
  match v with
  | .list _ | .object _ | .identifier _ => !v.hasColon
  | _ => false

/-- Whether a value is none that a whole number is looked for in, or an infinity. -/
def isUnwhole : Value → Bool
  | .int _ | .bool _ | .identifier _ | .text _ => false
  | .real (.infinite _) => true
  | .real _ => false
  | _ => true

def isText : Value → Bool
  | .text _ => true
  | _ => false

/-- Whether a value is a number, or an identifier, which counts as one. -/
def isNumber : Value → Bool
  | .int _ | .bool _ | .real _ | .identifier _ => true
  | _ => false

/-- Whether a value can be gone through. -/
def hasItems : Value → Bool
  | .null | .bool _ | .int _ | .real _ | .address _ => false
  | _ => true

theorem escapes_toAddress : Escapes v.toAddress ↔ v.isShapeless = true := by
  have shapeless : Escapes (α := Address)
      (if v.hasColon then .error (.notAddress v) else .error (.shapelessAddress v)) ↔
      (!v.hasColon) = true := by
    cases v.hasColon with
    | true => simp [Fault.isReported, Fault.kind]
    | false => simp [Fault.isReported, Fault.kind]
  cases v with
  | list items => exact shapeless
  | object fields => exact shapeless
  | identifier e => exact shapeless
  | text s =>
    refine iff_of_false ?_ Bool.false_ne_true
    simp only [toAddress]
    cases IpAddress.ofString? s.readable with
    | none => exact not_escapes_error rfl
    | some found =>
      cases found with
      | v4 a => exact not_escapes_ok a
      | v6 n => exact not_escapes_error rfl
  | address a =>
    refine iff_of_false ?_ Bool.false_ne_true
    cases a with
    | v4 a => exact not_escapes_ok a
    | v6 n => exact not_escapes_error rfl
  | network n =>
    refine iff_of_false ?_ Bool.false_ne_true
    cases n with
    | v4 p => exact not_escapes_ok _
    | v6 n length => exact not_escapes_error rfl
  | _ =>
    refine iff_of_false ?_ Bool.false_ne_true
    simp only [toAddress]
    split
    · exact not_escapes_ok _
    · exact not_escapes_error rfl

theorem escapes_toWhole : Escapes v.toWhole ↔ v.isUnwhole = true := by
  cases v with
  | real x =>
    cases x with
    | finite negative mantissa exponent => simp [toWhole, wholeOfReal, isUnwhole]
    | infinite negative => simp [toWhole, wholeOfReal, isUnwhole, Fault.isReported, Fault.kind]
    | nan => simp [toWhole, wholeOfReal, isUnwhole, Fault.isReported, Fault.kind]
  | text s =>
    refine iff_of_false ?_ Bool.false_ne_true
    simp only [toWhole]
    cases Numeral.ofString s.readable with
    | ok i => exact not_escapes_ok i
    | error fault =>
      cases fault with
      | malformed => exact not_escapes_error rfl
      | tooLong digits => exact not_escapes_error rfl
  | _ => simp [toWhole, isUnwhole, Fault.isReported, Fault.kind]

theorem escapes_toBytes : Escapes v.toBytes ↔ v.isText = false := by
  cases v with
  | text s =>
    refine iff_of_false ?_ Bool.true_eq_false.mp
    simp only [toBytes]
    cases Text.readHex s.readable with
    | ok found => exact not_escapes_ok found
    | error position => exact not_escapes_error rfl
  | _ => simp [toBytes, isText, Fault.isReported, Fault.kind]

theorem escapes_toItems : Escapes v.toItems ↔ v.hasItems = false := by
  cases v with
  | network n => cases n <;> simp [toItems, hasItems]
  | identifier e => cases e <;> simp [toItems, hasItems]
  | _ => simp [toItems, hasItems, Fault.isReported, Fault.kind]

theorem not_escapes_toSubnet (v : Value) : ¬ Escapes v.toSubnet := by
  have known (n : IpNetwork) : ¬ Escapes (subnetOf v n) := by
    cases n with
    | v4 p => exact not_escapes_ok _
    | v6 n length => exact not_escapes_error rfl
  cases v with
  | text s =>
    simp only [toSubnet]
    cases IpNetwork.ofString? s.readable with
    | some n => exact known n
    | none => exact not_escapes_error rfl
  | network n => exact known n
  | address a => exact known (.ofAddress a)
  | _ => exact not_escapes_error rfl

theorem not_escapes_toHardware (v : Value) : ¬ Escapes v.toHardware := by
  have known (shown : String) (e : Identifier) : ¬ Escapes (hardwareOf shown e) := by
    cases e with
    | short h => exact not_escapes_ok h
    | long n => exact not_escapes_error rfl
  cases v with
  | identifier e => exact known _ e
  | bytes b =>
    unfold toHardware
    dsimp only
    cases Hardware.ofBytes? b with
    | some h => exact not_escapes_ok h
    | none => exact not_escapes_error rfl
  | _ =>
    unfold toHardware
    dsimp only
    split
    · exact known _ _
    · exact not_escapes_error rfl

end Value

/- The parameters of a pool. -/

namespace Pool

variable {subnet reserved leaseTime v : Value} {items : List Value}

theorem escapes_checkLeaseTime :
    Escapes (checkLeaseTime leaseTime) ↔ leaseTime.isNumber = false := by
  have compared (number : leaseTime.isNumber = true) : ¬ Escapes (checkLeaseTime leaseTime) := by
    unfold checkLeaseTime
    dsimp only
    split
    · next unread =>
      cases leaseTime with
      | int i => cases unread
      | bool b => cases unread
      | real x => cases unread
      | identifier e => cases e <;> cases unread
      | _ => cases number
    · exact not_escapes_error rfl
    · exact not_escapes_ok ()
  cases leaseTime with
  | int i => exact iff_of_false (compared rfl) Bool.true_eq_false.mp
  | bool b => exact iff_of_false (compared rfl) Bool.true_eq_false.mp
  | real x => exact iff_of_false (compared rfl) Bool.true_eq_false.mp
  | identifier e => exact iff_of_false (compared rfl) Bool.true_eq_false.mp
  | _ => simp [checkLeaseTime, Value.int?, Value.isNumber, Fault.isReported, Fault.kind]

theorem reads_readReserved : Reads (readReserved items) ↔ ∀ v ∈ items, Reads v.toAddress := by
  induction items with
  | nil => exact iff_of_true ⟨[], rfl⟩ (List.forall_mem_nil _)
  | cons v rest ih =>
    rw [List.forall_mem_cons, ← ih, readReserved]
    cases v.toAddress with
    | error fault => simp [Reads]
    | ok a =>
      cases readReserved rest with
      | error fault => simp [Reads, Except.map]
      | ok others => simp [Reads, Except.map]

/-- Of several values the first that is no address counts. -/
theorem escapes_readReserved : Escapes (readReserved items) ↔
    ∃ (before : List Value) (v : Value) (after : List Value), items = before ++ v :: after ∧
      (∀ w ∈ before, Reads w.toAddress) ∧ v.isShapeless = true := by
  induction items with
  | nil => simp [readReserved]
  | cons v rest ih =>
    rw [exists_split_cons, readReserved, ← Value.escapes_toAddress]
    cases read : v.toAddress with
    | error fault => simp [read, Reads]
    | ok a => simp [read, reads_ok, escapes_map, ih]

/-- Which parameters make no pool for a fault that is not put to the user. Of several faults the one
that is found first counts. -/
def Breaks (subnet reserved leaseTime : Value) : Prop :=
  (∃ s, subnet.toSubnet = .ok s ∧ s.length ≤ maxLength) ∧
    (leaseTime.isNumber = false ∨
      Reads (checkLeaseTime leaseTime) ∧
        (reserved.hasItems = false ∨
          ∃ items, reserved.toItems = .ok items ∧
            ((∃ (before : List Value) (v : Value) (after : List Value),
                items = before ++ v :: after ∧ (∀ w ∈ before, Reads w.toAddress) ∧
                  v.isShapeless = true) ∨
              (∀ w ∈ items, Reads w.toAddress) ∧ leaseTime.isUnwhole = true)))

theorem escapes_ofValues :
    Escapes (ofValues subnet reserved leaseTime) ↔ Breaks subnet reserved leaseTime := by
  unfold ofValues Breaks
  rw [escapes_bind, or_iff_right (Value.not_escapes_toSubnet subnet)]
  simp only [← exists_and_right, and_assoc]
  refine exists_congr fun s => and_congr_right fun _ => ?_
  by_cases room : s.length ≤ maxLength
  · rw [dif_pos room, and_iff_right room]
    simp only [escapes_bind, escapes_checkLeaseTime, Value.escapes_toItems, escapes_readReserved,
      Value.escapes_toWhole, ← reads_readReserved, not_escapes_pure, and_false, exists_false,
      or_false, exists_and_right]
    rfl
  · rw [dif_neg room]
    exact iff_of_false (mt escapes_error.mp nofun) fun other => room other.1

end Pool

/- Messages. -/

theorem MessageKind.not_escapes_ofValue (v : Value) : ¬ Escapes (ofValue v) := by
  have numbered : ¬ Escapes (ofNumber v) := by
    unfold ofNumber
    dsimp only
    split
    · exact not_escapes_ok _
    · exact not_escapes_error rfl
  cases v with
  | text s =>
    simp only [ofValue]
    split
    · exact not_escapes_ok _
    · exact not_escapes_error rfl
  | _ => exact numbered

namespace ClientMessage

variable {α : Type} {fields : List (RawText × Value)} {name : String}
  {read : Value → Except Fault α}

/-- Whether a field that is filled has a value of some shape. -/
def Misfills (fields : List (RawText × Value)) (name : String) (shape : Value → Bool) : Prop :=
  ∃ v, Value.field? name fields = some v ∧ v.isTrue = true ∧ shape v = true

theorem not_escapes_required : ¬ Escapes (required name fields) := by
  unfold required
  split
  · exact not_escapes_error rfl
  · exact not_escapes_ok _

theorem escapes_optional {shape : Value → Bool}
    (escapes : ∀ v, Escapes (read v) ↔ shape v = true) :
    Escapes (optional read name fields) ↔ Misfills fields name shape := by
  unfold optional Misfills
  cases Value.field? name fields with
  | none => simp
  | some v =>
    dsimp only
    by_cases filled : v.isTrue = true
    · simp [filled, escapes_map, escapes]
    · simp [filled]

/-- Which fields describe no message for a fault that is not put to the user. Of several faults the
one that is found first counts. -/
def Breaks (fields : List (RawText × Value)) : Prop :=
  Reads (required "type" fields >>= MessageKind.ofValue) ∧
    Reads (required "mac" fields >>= Value.toHardware) ∧
    (Misfills fields "client_id" (!·.isText) ∨
      Reads (optional Value.toBytes "client_id" fields) ∧
        (Misfills fields "src" Value.isShapeless ∨
          Reads (optional Value.toAddress "src" fields) ∧
            (Misfills fields "relay" Value.isShapeless ∨
              Reads (optional Value.toAddress "relay" fields) ∧
                Misfills fields "requested" Value.isShapeless)))

theorem escapes_ofFields : Escapes (ofFields fields) ↔ Breaks fields := by
  have identifier (v : Value) : Escapes v.toBytes ↔ (!v.isText) = true := by
    rw [Value.escapes_toBytes, Bool.not_eq_true']
  unfold ofFields Breaks
  simp only [escapes_bind, not_escapes_required, MessageKind.not_escapes_ofValue,
    Value.not_escapes_toHardware, escapes_optional identifier,
    escapes_optional fun _ => Value.escapes_toAddress, not_escapes_pure, and_false, exists_false,
    false_or, or_false, exists_and_right]
  simp only [reads_bind, ← and_assoc, exists_and_right]
  rfl

end ClientMessage

/- Events. -/

theorem Clock.not_escapes_set (clock : Clock) (time : Int) : ¬ Escapes (clock.set time) := by
  unfold set
  split
  · exact not_escapes_error rfl
  · exact not_escapes_ok _

namespace Play

variable {clock : Clock} {l : Ledger} {items : List Value} {fields : List (RawText × Value)}
  {events : List (List (RawText × Value))}

/-- The value that says when an event happens. -/
def instant (clock : Clock) (fields : List (RawText × Value)) : Value :=
  (Value.field? "at" fields).getD (.int clock.now)

/-- Which event cannot be read for a fault that is not put to the user. -/
def Breaks (clock : Clock) (fields : List (RawText × Value)) : Prop :=
  (instant clock fields).isUnwhole = true ∨
    Reads ((instant clock fields).toWhole >>= clock.set) ∧ ClientMessage.Breaks fields

theorem escapes_readEvent :
    Escapes (readEvent clock (.object fields)) ↔ Breaks clock fields := by
  unfold Breaks
  simp only [readEvent, escapes_bind, Value.escapes_toWhole, Clock.not_escapes_set,
    ClientMessage.escapes_ofFields, not_escapes_pure, and_false, exists_false, or_false, false_or,
    reads_bind, exists_and_right, ← and_assoc]
  rfl

/-- A play that came to its end, or else the fault that ended it. -/
def whole (p : Play) : Except Fault Play :=
  match p.fault with
  | some fault => .error fault
  | none => .ok p

theorem escapes_whole {p : Play} :
    Escapes p.whole ↔ ∃ fault, p.fault = some fault ∧ fault.isReported = false := by
  unfold whole
  cases p.fault with
  | none => simp
  | some fault => simp

/-- A play of events ends with a fault that is not put to the user if and only if it comes to an
event that cannot be read for one. -/
theorem escapes_events :
    Escapes (Play.events clock l (events.map .object)).whole ↔
      ∃ before fields after, events = before ++ fields :: after ∧
        (Play.events clock l (before.map .object)).fault = none ∧
        Breaks (Play.events clock l (before.map .object)).clock fields := by
  rw [escapes_whole]
  -- Either the first event is the one, or it is read, handled, and the rest is played behind it.
  induction events generalizing clock l with
  | nil => simp [Play.events]
  | cons event rest ih =>
    have here : (Play.events clock l []).fault = none ∧
        Breaks (Play.events clock l []).clock event ↔ Escapes (readEvent clock (.object event)) :=
      (and_iff_right rfl).trans escapes_readEvent.symm
    rw [exists_split_cons, List.map_nil, here]
    simp only [List.map_cons]
    cases read : readEvent clock (.object event) with
    | error fault => simp [events_of_unread read]
    | ok found =>
      obtain ⟨later, m⟩ := found
      rw [or_iff_right (not_escapes_ok _)]
      cases handled : (Delivery.handle ⟨later.now, m⟩ l).answer with
      | error fault =>
        obtain rfl := Delivery.fault_of_handle handled
        simp [events_of_unhandled read handled, Fault.isReported, Fault.kind]
      | ok reply => simp [events_of_handled read handled, ih]

end Play

/- Scenarios. -/

namespace Scenario

variable {subnet leaseTime : Value} {s : Scenario} {path : String} {bytes : List UInt8}
  {fields : List (RawText × Value)} {events : List (List (RawText × Value))}

/-- A scenario that is played to its end, or else the first fault. -/
def playWhole (subnet leaseTime : Value) (s : Scenario) : Except Fault Play :=
  s.play subnet leaseTime >>= Play.whole

/-- Which scenario ends with a fault that is not put to the user: one whose parameters make no pool
for such a fault, or one in which such an event comes up. None comes up on a pool that cannot be
put into words. -/
def Breaks (subnet leaseTime : Value) (s : Scenario) (events : List (List (RawText × Value))) :
    Prop :=
  Pool.Breaks (s.subnet.getD subnet) (s.reserved.getD (.list [])) (s.leaseTime.getD leaseTime) ∨
    ∃ pool, Pool.ofValues (s.subnet.getD subnet) (s.reserved.getD (.list []))
        (s.leaseTime.getD leaseTime) = .ok pool ∧ Numeral.isWritable pool.leaseTime = true ∧
      ∃ before fields after, events = before ++ fields :: after ∧
        let played := Play.events ⟨0⟩ (Ledger.opening pool).ledger (before.map .object)
        played.fault = none ∧ Play.Breaks played.clock fields

theorem objects_of_strayEvent? {items : List Value} (none : strayEvent? items = none) :
    ∃ events : List (List (RawText × Value)), events.map .object = items := by
  rw [← Set.mem_range, Set.range_list_map]
  intro v there
  have object := List.findIdx?_eq_none_iff.mp none v there
  cases v with
  | object fields => exact ⟨fields, rfl⟩
  | _ => cases object

/-- The events of a document that is a scenario are objects. -/
theorem events_of_document (read : document path bytes = .ok fields) :
    ∃ events : List (List (RawText × Value)),
      (ofFields fields).events = some (.list (events.map .object)) := by
  unfold document at read
  split at read
  · cases read
  · split at read
    · cases read
    · cases read
    · cases read
    · split at read
      · rename_i events listed
        split at read
        · cases read
        · rename_i none
          cases read
          obtain ⟨events, rfl⟩ := objects_of_strayEvent? none
          exact ⟨events, listed⟩
      · cases read
    · cases read

theorem escapes_onPool {pool : Pool} {v : Option Value} :
    Escapes (Play.onPool pool v >>= Play.whole) ↔ Numeral.isWritable pool.leaseTime = true ∧
      Escapes (Play.eventsOf ⟨0⟩ (Ledger.opening pool).ledger v).whole := by
  rw [Play.onPool_eq]
  by_cases lasts : Numeral.isWritable pool.leaseTime = true
  · rw [if_pos lasts, and_iff_right lasts, Play.escapes_whole]
    exact Play.escapes_whole
  · rw [if_neg lasts]
    exact iff_of_false (not_escapes_error rfl) fun other => lasts other.1

theorem escapes_playWhole (listed : s.events = some (.list (events.map .object))) :
    Escapes (s.playWhole subnet leaseTime) ↔ s.Breaks subnet leaseTime events := by
  unfold playWhole play Breaks
  rw [bind_assoc, escapes_bind, Pool.escapes_ofValues]
  refine or_congr_right (exists_congr fun pool => and_congr_right fun _ => ?_)
  rw [listed, escapes_onPool, ← Play.escapes_events]
  rfl

/-- A replay ends with its first fault. -/
theorem report_of_playWhole {fault : Fault} (failed : s.playWhole subnet leaseTime = .error fault) :
    (s.report subnet leaseTime).1 = .error fault := by
  unfold playWhole at failed
  unfold report
  cases played : s.play subnet leaseTime with
  | error other =>
    rw [played] at failed
    cases failed
    rfl
  | ok p =>
    rw [played] at failed
    change p.whole = _ at failed
    unfold Play.whole at failed
    cases ended : p.fault with
    | none =>
      rw [ended] at failed
      cases failed
    | some other =>
      rw [ended] at failed
      cases failed
      simp only [Play.report, ended]

end Scenario

/-- What a replay of a document that is a scenario ends with. A fault that ends it is put to the
user, unless it comes from one of the values that break the scenario, and then it never is. Put to
the user means that a message is printed, unless what the message quotes makes its markup wrong. -/
theorem Command.replay_contained (terminal : Terminal) (config : Config) (path : String)
    (content : List UInt8) (json : Bool) {fields : List (RawText × Value)}
    (read : Scenario.document (Text.cleanPath path) content = .ok fields) :
    let s := Scenario.ofFields fields
    let run := runReplay terminal config path content json
    ∃ events, s.events = some (.list (events.map .object)) ∧
      (Escapes (s.playWhole config.subnet config.leaseTime) ↔
        s.Breaks config.subnet config.leaseTime events) ∧
      ∀ fault, s.playWhole config.subnet config.leaseTime = .error fault →
        (fault.isReported = true →
          let printed := terminal.print? ("[red]Error:[/red] " ++ fault.message)
          (∀ output, printed = some output → run.ending = .failure ∧ run.output = output) ∧
          (printed = none → run.ending = .crash .markup)) ∧
        (fault.isReported = false → run.ending = .crash (.fault fault.kind)) := by
  intro s run
  obtain ⟨events, listed⟩ := Scenario.events_of_document read
  refine ⟨events, listed, Scenario.escapes_playWhole listed, fun fault failed => ?_⟩
  have reported := Scenario.report_of_playWhole failed
  have ended : ∃ notes, run = .failed terminal fault notes := by
    simp only [run, runReplay, read]
    split
    · rename_i other notes answered
      rw [answered] at reported
      cases reported
      exact ⟨notes, rfl⟩
    · rename_i report notes answered
      rw [answered] at reported
      cases reported
  obtain ⟨notes, ended⟩ := ended
  rw [ended, Run.failed]
  refine ⟨fun told => ?_, fun kept => ?_⟩
  · rw [if_pos told]
    dsimp only
    refine ⟨fun output printed => ?_, fun garbled => ?_⟩
    · rw [printed]
      exact ⟨rfl, rfl⟩
    · rw [garbled]
      rfl
  · rw [kept, if_neg Bool.false_ne_true]

theorem Text.showSpans_error (tail : List Char) :
    showSpans [] [.plain [], .plain [], .tag "red".toList, .plain "Error:".toList, .plain [],
      .tag "/red".toList, .plain tail] = some ("Error:".toList ++ showPlain tail) := by
  have opens : (cutAt '=' ['r', 'e', 'd']).1 = ['r', 'e', 'd'] := by decide
  have closes : (cutAt '=' ['/', 'r', 'e', 'd']).1 = ['/', 'r', 'e', 'd'] := by decide
  have close : closeStyle? ['r', 'e', 'd'] [styleName ['r', 'e', 'd']] = some [] := by
    decide +kernel
  have nothing : showPlain [] = [] := by decide +kernel
  have front : showPlain ['E', 'r', 'r', 'o', 'r', ':'] = ['E', 'r', 'r', 'o', 'r', ':'] := by
    decide +kernel
  simp [showSpans, opens, closes, close, nothing, front]

theorem Text.shown?_error {message : String} (unmarked : '[' ∉ message.toList) :
    shown? ("[red]Error:[/red] " ++ message) =
      some ("Error:" ++ String.ofList (showPlain (' ' :: message.toList))) := by
  let tail := ' ' :: message.toList
  have free : '[' ∉ "/red]".toList ++ tail := by
    simp only [tail, List.mem_append, List.mem_cons, not_or]
    exact ⟨by decide, by decide, unmarked⟩
  have parts : splitAt '[' ("[red]Error:[/red] " ++ message).toList =
      [[], "red]Error:".toList, "/red]".toList ++ tail] := by
    have cut := splitAt_append (show '[' ∉ "red]Error:".toList by decide) ("/red]".toList ++ tail)
    rw [splitAt_of_not_mem free] at cut
    rw [String.toList_append, ← cut]
    rfl
  have cut : spans [] ["red]Error:".toList, "/red]".toList ++ tail] =
      [.plain [], .plain [], .tag "red".toList, .plain "Error:".toList, .plain [],
        .tag "/red".toList, .plain tail] := rfl
  unfold shown?
  rw [parts]
  dsimp only
  rw [cut, showSpans_error, Option.map_some, String.ofList_append, String.ofList_toList]

/-- On a plain terminal a message without brackets and names of pictures is printed as it stands. -/
theorem Run.failed_of_unmarked {fault : Fault} (told : fault.isReported = true)
    (unmarked : '[' ∉ fault.message.toList)
    (unnamed : ∀ name ∈ (Text.splitAt ':' fault.message.toList).tail, Text.picture? name = none)
    (width : Nat) (notes : List Note) :
    failed (.plain width) fault notes =
      ⟨onTerminal width ("Error: " ++ fault.message), .failure, notes⟩ := by
  have plain : Text.showPlain (' ' :: fault.message.toList) = ' ' :: fault.message.toList := by
    refine Text.showPlain_of_unnamed (List.not_mem_cons_of_ne_of_not_mem (by decide) unmarked) ?_
    rw [Text.splitAt_cons_of_ne (by decide)]
    exact unnamed
  have whole : "Error:" ++ String.ofList (' ' :: fault.message.toList) =
      "Error: " ++ fault.message := by
    refine String.toList_inj.mp ?_
    simp only [String.toList_append, String.toList_ofList]
    rfl
  have shown := Text.shown?_error unmarked
  rw [plain, whole] at shown
  unfold failed printing Terminal.print? Terminal.plain
  rw [if_pos told]
  dsimp only
  rw [shown]
  rfl

example : (Run.failed (.plain 80) (.notHardware (.text "[/x]")) []).ending = .crash .markup := by
  decide +kernel

/-- A hardware address that is none is put to the user. -/
theorem Command.garbled_hardware_contained :
    let content :=
      ("\x7b\"events\": [\x7b\"type\": \"discover\", \"mac\": \"zz\"\x7d]\x7d").toUTF8.toList
    let run := runReplay (.plain 80) .initial "s.json" content true
    ∃ fields events, Scenario.document (Text.cleanPath "s.json") content = .ok fields ∧
      (Scenario.ofFields fields).events = some (.list (events.map .object)) ∧
      ¬ (Scenario.ofFields fields).Breaks Config.initial.subnet Config.initial.leaseTime events ∧
      run.ending = .failure ∧ run.output = "Error: Invalid hardware address: 'zz'\n" := by
  intro content run
  have failed : run.ending = .failure ∧
      run.output = "Error: Invalid hardware address: 'zz'\n" := by
    decide +kernel
  have readable : Reads (Scenario.document (Text.cleanPath "s.json") content) := by decide +kernel
  obtain ⟨fields, read⟩ := readable
  obtain ⟨events, listed, breaks, ended⟩ :=
    replay_contained (.plain 80) .initial "s.json" content true read
  refine ⟨fields, events, read, listed, fun broken => ?_, failed⟩
  obtain ⟨fault, first, kept⟩ := breaks.mpr broken
  cases failed.1.symm.trans ((ended fault first).2 kept)

/-- An instant that is null is not put to the user. -/
theorem Command.null_instant_escapes :
    let content := ("\x7b\"events\": [\x7b\"at\": null\x7d]\x7d").toUTF8.toList
    let played := Scenario.document (Text.cleanPath "s.json") content >>= fun fields =>
      (Scenario.ofFields fields).playWhole Config.initial.subnet Config.initial.leaseTime
    Reads (Scenario.document (Text.cleanPath "s.json") content) ∧
      Reads (Pool.ofValues Config.initial.subnet (.list []) Config.initial.leaseTime) ∧
      Escapes played ∧
      (runReplay (.plain 80) .initial "s.json" content true).ending = .crash (.fault .shape) := by
  decide +kernel

end LeaseBook
