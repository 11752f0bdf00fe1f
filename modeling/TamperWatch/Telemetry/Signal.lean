import TamperWatch.Data.SortedMap
import TamperWatch.Json.Basic
import TamperWatch.Telemetry.SignalKind

/-!
# Signals

The state of one signal of one device, and how an update changes it. A sticky signal that is on
stays on: only an update that asserts it again has an effect. Any other signal is replaced by every
update. Main statements: what an update does to a sticky signal (`fold_sticky_on`,
`fold_sticky_off`) and to any other (`fold_replacing`).
-/

namespace TamperWatch

/-- Details that go with a signal, by name. -/
abbrev Attributes := SortedMap String Json

/-- A point in time, in milliseconds since 1970. -/
abbrev Moment := Nat

/-- The value of a signal. -/
inductive SignalValue where
  | flag (b : Bool)
  | count (n : Nat)
  | text (s : String)
  deriving DecidableEq, Repr

namespace SignalValue

def flag? : SignalValue → Option Bool
  | flag b => some b
  | _ => none

def count? : SignalValue → Option Nat
  | count n => some n
  | _ => none

def text? : SignalValue → Option String
  | text s => some s
  | _ => none

def toJson : SignalValue → Json
  | flag b => .bool b
  | count n => .int n
  | text s => .string s

end SignalValue

/-- What a message says about one signal. -/
structure Update where
  kind : SignalKind
  value : SignalValue
  attributes : Attributes

/-- The update turns a sticky signal on. -/
def Update.asserts (u : Update) : Bool :=
  u.value == .flag true

/-- The state of one signal of one device. -/
structure Signal where
  device : String
  kind : SignalKind
  value : SignalValue
  attributes : Attributes
  /-- When a sticky signal was last asserted. -/
  lastTriggered : Option Moment
  /-- When the state last changed. -/
  updatedAt : Moment

namespace Signal

/-- The state after a first update. A sticky signal may begin in the off state. -/
def start (device : String) (u : Update) (now : Moment) : Signal where
  device := device
  kind := u.kind
  value := u.value
  attributes := u.attributes
  lastTriggered := if u.kind.latch = .sticky ∧ u.asserts then some now else none
  updatedAt := now

/-- The signal takes the update up. -/
def accepts (s : Signal) (u : Update) : Bool :=
  s.kind.latch ≠ .sticky || u.asserts

/-- The state after one more update. -/
def fold (s : Signal) (u : Update) (now : Moment) : Signal :=
  match s.kind.latch with
  | .sticky =>
    if u.asserts then
      { s with
        value := .flag true
        attributes := if u.attributes.isEmpty then s.attributes else u.attributes
        lastTriggered := some now
        updatedAt := now }
    else s
  | .instantaneous | .integrity =>
    { s with value := u.value, attributes := u.attributes, updatedAt := now }

/-- The signal is a flag that is on. -/
def isOn (s : Signal) : Bool :=
  s.value.flag?.getD false

def toJson (s : Signal) : Json :=
  .object
    [("attributes", .ofMap s.attributes),
     ("device_id", .string s.device),
     ("kind", .string s.kind.key),
     ("last_triggered", match s.lastTriggered with
       | some t => .int t
       | none => .null),
     ("updated_at", .int s.updatedAt),
     ("value", s.value.toJson)]

/-- A sticky signal is left as it is by an update that does not assert it. -/
theorem fold_sticky_off {s : Signal} {u : Update} {now : Moment} (h : s.kind.latch = .sticky)
    (hu : u.asserts = false) : s.fold u now = s := by
  simp [fold, h, hu]

/-- An update that asserts a sticky signal turns it on and dates it. -/
theorem fold_sticky_on {s : Signal} {u : Update} {now : Moment} (h : s.kind.latch = .sticky)
    (hu : u.asserts = true) :
    s.fold u now =
      { s with
        value := .flag true
        attributes := if u.attributes.isEmpty then s.attributes else u.attributes
        lastTriggered := some now
        updatedAt := now } := by
  simp [fold, h, hu]

/-- A signal takes no trace of an update that it does not take up. -/
theorem fold_of_accepts_eq_false {s : Signal} {u : Update} {now : Moment}
    (h : s.accepts u = false) : s.fold u now = s := by
  simp only [accepts, ne_eq, decide_not, Bool.or_eq_false_iff, Bool.not_eq_false',
    decide_eq_true_eq] at h
  exact fold_sticky_off h.1 h.2

/-- A signal that is not sticky is replaced by an update, apart from its name. -/
theorem fold_replacing {s : Signal} {u : Update} {now : Moment} (h : s.kind.latch ≠ .sticky) :
    s.fold u now = { s with value := u.value, attributes := u.attributes, updatedAt := now } := by
  unfold fold
  split
  · exact absurd ‹_› h
  all_goals rfl

/-- An update leaves the kind of a signal as it is. -/
@[simp] theorem kind_fold (s : Signal) (u : Update) (now : Moment) :
    (s.fold u now).kind = s.kind := by
  unfold fold
  split
  · split <;> rfl
  all_goals rfl

/-- An update leaves the device of a signal as it is. -/
@[simp] theorem device_fold (s : Signal) (u : Update) (now : Moment) :
    (s.fold u now).device = s.device := by
  unfold fold
  split
  · split <;> rfl
  all_goals rfl

end Signal

end TamperWatch
