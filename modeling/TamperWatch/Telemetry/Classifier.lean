import TamperWatch.Telemetry.Catalogue
import TamperWatch.Telemetry.Payload
import TamperWatch.Telemetry.Store

/-!
# Classification

One message under the rules: its payload is decoded, the updates within a scope are stored, and the
stored state of the kinds in scope is reported. A payload that cannot be decoded changes nothing.
-/

namespace TamperWatch

/-- What became of one message. -/
structure Classification where
  /-- The payload could be decoded. -/
  applied : Bool
  /-- The state of the kinds that the category may write. -/
  signals : List Signal

def Classification.toJson (c : Classification) : Json :=
  .object [("applied", .bool c.applied), ("signals", .array (c.signals.map Signal.toJson))]

/-- The signal kinds that a message may write and report. -/
abbrev Scope := SignalKind → Bool

/-- All signal kinds. -/
def Scope.unlimited : Scope := fun _ => true

namespace Store

/-- The kinds of a category that are in scope. -/
def scopedKinds (t : Thresholds) (scope : Scope) (category : Category) : List SignalKind :=
  (Catalogue.affected t category).filter scope

/-- Takes up a decoded payload of a device. -/
def classifyPayload (store : Store) (t : Thresholds) (scope : Scope) (device : String)
    (category : Category) (payload : Payload) (now : Moment) : Classification × Store :=
  let updates := (Catalogue.updates t category payload.members).filter fun u => scope u.kind
  let store := store.record device updates now
  (⟨true, store.select device (scopedKinds t scope category)⟩, store)

/-- Takes up the bytes that a device sent under a category. -/
def classify (store : Store) (t : Thresholds) (scope : Scope) (device : String)
    (category : Category) (raw : ByteArray) (now : Moment) : Classification × Store :=
  match Payload.decode category raw with
  | .ok payload => store.classifyPayload t scope device category payload now
  | .error _ => (⟨false, store.select device (scopedKinds t scope category)⟩, store)

/-- A payload that cannot be decoded leaves the store as it is. -/
theorem classify_of_error {store : Store} {t : Thresholds} {scope : Scope} {device : String}
    {category : Category} {raw : ByteArray} {now : Moment} {e : DecodeError}
    (h : Payload.decode category raw = .error e) :
    (store.classify t scope device category raw now).2 = store := by
  simp [classify, h]

end Store

end TamperWatch
