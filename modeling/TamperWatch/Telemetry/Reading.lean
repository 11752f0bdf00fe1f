import TamperWatch.Telemetry.Condition
import TamperWatch.Telemetry.Signal
import TamperWatch.Text.Numeral

/-!
# Readings

How a payload is turned into the value of a signal. A reading may have no value for a payload; the
signal is then left as it is.
-/

namespace TamperWatch

/-- How a device is doing, best first. -/
inductive HealthLevel where
  | healthy
  | warning
  | critical
  deriving DecidableEq, Repr

def HealthLevel.name : HealthLevel → String
  | healthy => "healthy"
  | warning => "warning"
  | critical => "critical"

/-- The bounds between the health levels. -/
structure LevelBounds where
  batteryCritical : Float
  batteryWarning : Float
  memoryFreeCritical : Float

namespace LevelBounds

/-- The battery reading; a battery that is not reported counts as full. -/
def battery (o : Json.Members) : Float :=
  ((o.lookup "battery").bind Json.asNumber?).getD 100

/-- Free memory is reported and low. Memory that is not reported does not count as low. -/
def memoryLow (b : LevelBounds) (o : Json.Members) : Bool :=
  ((o.lookup "memory_free").bind Json.asNumber?).any fun x => decide (x < b.memoryFreeCritical)

/-- The health level of a payload. -/
def level (b : LevelBounds) (o : Json.Members) : HealthLevel :=
  if battery o < b.batteryCritical ∨ b.memoryLow o then .critical
  else if battery o < b.batteryWarning then .warning
  else .healthy

end LevelBounds

/-- How a rule turns a payload into a value. -/
inductive Reading where
  /-- Whether a condition holds. -/
  | flag (condition : Condition)
  /-- The state of a link: the entry itself, or its member `connected`. -/
  | link (entry : String)
  /-- A count, zero where the field is absent. -/
  | count (field : Field)
  /-- A text, with a default where the field is absent. -/
  | text (field : Field) (default : String)
  | healthLevel (bounds : LevelBounds)
  /-- The kind of satellite fix. -/
  | gpsFix

namespace Reading

/-- The count that a value denotes. A double is cut to a whole number and held within 64 bits. -/
def toCount? : Json → Option Nat
  | .number (.int n) => if 0 ≤ n then some n.toNat else none
  | .number (.real x) => if 0 ≤ x then some x.toUInt64.toNat else none
  | .string s => Numeral.word? (Text.trim s).toList
  | .null => some 0
  | .bool _ | .array _ | .object _ => none

/-- The state of a link from its entry. -/
def linkState? : Option Json → Option Bool
  | some (.object entry) => some ((entry.lookup "connected").any Json.isTruthy)
  | some (.bool b) => some b
  | _ => none

/-- The kind of satellite fix from the entry `gps`. -/
def fix : Option Json → String
  | some (.object gps) => ((gps.lookup "fix_type").map Json.asText).getD "no_fix"
  | some v => if v.isTruthy then v.asText else "no_fix"
  | none => "no_fix"

/-- The value that a payload gives, if it gives one. -/
def read? : Reading → Json.Members → Option SignalValue
  | flag condition, o => some (.flag (condition.holds o))
  | link entry, o => (linkState? (o.lookup entry)).map .flag
  | count field, o =>
    match field.find? o with
    | none => some (.count 0)
    | some v => (toCount? v).map .count
  | text field default, o => some (.text (((field.find? o).map Json.asText).getD default))
  | healthLevel bounds, o => some (.text (bounds.level o).name)
  | gpsFix, o => some (.text (fix (o.lookup "gps")))

end Reading

end TamperWatch
