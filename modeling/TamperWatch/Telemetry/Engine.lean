import TamperWatch.Settings.Basic
import TamperWatch.Telemetry.Classifier
import TamperWatch.Telemetry.Sightings
import TamperWatch.Telemetry.Topic

/-!
# The engine

The state that messages run through: which pairs of device and category were seen, and what signals
are stored. The first message of a pair announces the signals that the category owns. A message is
registered before it is classified, and it writes only signals whose owner its device has been seen
under, so that no signal is stored before it was announced.
-/

namespace TamperWatch

structure Message where
  device : String
  category : Category
  payload : ByteArray
  time : Moment

/-- What came of one message. -/
structure Dispatch where
  device : String
  category : Category
  /-- It was the first message of its device under its category. -/
  firstSighting : Bool
  /-- The signals announced by it, none unless it was the first. -/
  monitors : List SignalKind
  classification : Classification

def Dispatch.toJson (d : Dispatch) : Json :=
  .object
    [("category", .string d.category.name),
     ("classification", d.classification.toJson),
     ("device_id", .string d.device),
     ("first_sighting", .bool d.firstSighting),
     ("monitors", .array (d.monitors.map fun k => .string k.key))]

/-- Counts of the engine's state. -/
structure Diagnostics where
  devices : Nat
  discoveredPairs : Nat
  signals : Nat
  deriving DecidableEq, Repr

def Diagnostics.toJson (d : Diagnostics) : Json :=
  .object
    [("devices", .int d.devices), ("discovered_pairs", .int d.discoveredPairs),
     ("signals", .int d.signals)]

/-- The state of the engine. -/
structure Engine where
  thresholds : Thresholds
  /-- The root of the topics, without slashes at its ends. -/
  topicRoot : String
  seen : Sightings
  store : Store

namespace Engine

/-- An engine that has handled no message. -/
def fresh (thresholds : Thresholds) (root : String) : Engine :=
  ⟨thresholds, Topic.cleanRoot root, ∅, ∅⟩

/-- The fresh engine of some settings. -/
def ofSettings (settings : TelemetrySettings) : Engine :=
  fresh settings.thresholds settings.topicRoot

/-- The same engine for another root of the topics. -/
def withRoot (e : Engine) (root : String) : Engine :=
  { e with topicRoot := Topic.cleanRoot root }

/-- The kinds that messages of a device may write: those of the categories it was seen under. -/
def scope (seen : Sightings) (device : String) : Scope :=
  fun kind => seen.knows device kind.owner

/-- Handles one message. A message without a device leaves the engine as it is. -/
def handle (e : Engine) (m : Message) : Except RoutingError Dispatch × Engine :=
  if m.device = "" then (.error .emptyDevice, e)
  else
    let first := !e.seen.knows m.device m.category
    let seen := e.seen.register m.device m.category
    let (classification, store) :=
      e.store.classify e.thresholds (scope seen m.device) m.device m.category m.payload m.time
    let monitors := if first then SignalKind.ownedBy m.category else []
    (.ok ⟨m.device, m.category, first, monitors, classification⟩, { e with seen, store })

/-- Handles one message whose category is given by its name. -/
def handleNamed (e : Engine) (device category : String) (payload : ByteArray) (time : Moment) :
    Except RoutingError Dispatch × Engine :=
  match Category.parse category with
  | .ok category => e.handle ⟨device, category, payload, time⟩
  | .error fault => (.error fault, e)

def handleTopic (e : Engine) (topic : String) (payload : ByteArray) (time : Moment) :
    Except RoutingError Dispatch × Engine :=
  match Topic.split e.topicRoot topic with
  | .ok a => e.handle ⟨a.device, a.category, payload, time⟩
  | .error fault => (.error fault, e)

/-- Handles messages one after the other: what came of each, and the engine after all. -/
def run (e : Engine) : List Message → List (Except RoutingError Dispatch) × Engine
  | [] => ([], e)
  | m :: ms =>
    let (result, e) := e.handle m
    let (results, e) := e.run ms
    (result :: results, e)

def diagnostics (e : Engine) : Diagnostics :=
  ⟨e.seen.deviceCount, e.seen.pairCount, e.store.signalCount⟩

/-- To run more messages is to run the first and then the others. -/
theorem run_append (e : Engine) (ms more : List Message) :
    e.run (ms ++ more) =
      ((e.run ms).1 ++ ((e.run ms).2.run more).1, ((e.run ms).2.run more).2) := by
  induction ms generalizing e with
  | nil => rfl
  | cons m ms ih => simp [run, ih]

end Engine

end TamperWatch
