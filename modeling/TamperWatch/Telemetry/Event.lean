import TamperWatch.Json.Reader
import TamperWatch.Json.Writer
import TamperWatch.Telemetry.Engine

/-!
# Recorded events

One line of a recording: a JSON object, or an array, that addresses a payload by topic or by device
and category. Members that mean nothing to an event are passed over, whatever they hold; a member
that does mean something stands at most once.
-/

namespace TamperWatch

/-- A recorded message before it is routed. -/
structure Event where
  topic : Option String := none
  device : Option String := none
  category : Option String := none
  payload : Json := .null

namespace Event

inductive Part where
  | topic (s : Option String)
  | device (s : Option String)
  | category (s : Option String)
  | payload (v : Json)
  | other

/-- What was read of an event so far: each part only once it is given. -/
structure Parts where
  topic : Option (Option String) := none
  device : Option (Option String) := none
  category : Option (Option String) := none
  payload : Option Json := none

/-- Takes one more part in, if it is not there yet. -/
def Parts.add (p : Parts) : Part → Option Parts
  | .topic s => if p.topic.isSome then none else some { p with topic := some s }
  | .device s => if p.device.isSome then none else some { p with device := some s }
  | .category s => if p.category.isSome then none else some { p with category := some s }
  | .payload v => if p.payload.isSome then none else some { p with payload := some v }
  | .other => some p

def Parts.toEvent (p : Parts) : Event where
  topic := p.topic.join
  device := p.device.join
  category := p.category.join
  payload := p.payload.getD .null

/-- A string or null. -/
def textOrNull : Reader (Option String)
  | 'n' :: 'u' :: 'l' :: 'l' :: rest => some (none, rest)
  | cs => (Json.Reader.string cs).map fun (s, rest) => (some s, rest)

def partFor (key : String) : Reader Part := fun cs =>
  if key = "topic" then (textOrNull cs).map fun (s, rest) => (.topic s, rest)
  else if key = "device_id" then (textOrNull cs).map fun (s, rest) => (.device s, rest)
  else if key = "category" then (textOrNull cs).map fun (s, rest) => (.category s, rest)
  else if key = "payload" then
    (Json.Reader.value (Json.Reader.maxDepth - 1) cs).map fun (v, rest) => (.payload v, rest)
  else (Json.Reader.skip cs).map fun (_, rest) => (.other, rest)

def part : Reader Part := fun cs =>
  match Json.Reader.string cs with
  | none => none
  | some (key, cs) =>
    match Json.Reader.afterBlanks cs with
    | ':' :: cs => partFor key (Json.Reader.afterBlanks cs)
    | _ => none

/-- An optional string from its JSON form. -/
def textOrNull? : Json → Option (Option String)
  | .string s => some (some s)
  | .null => some none
  | _ => none

/-- The event that an array of three or four items stands for. -/
def ofItems? (items : List Json) : Option Event := do
  let (topic, device, category, payload) ← match items with
    | [t, d, c] => some (t, d, c, Json.null)
    | [t, d, c, p] => some (t, d, c, p)
    | _ => none
  return {
    topic := ← textOrNull? topic
    device := ← textOrNull? device
    category := ← textOrNull? category
    payload }

def read : Reader Event := fun cs =>
  match cs with
  | '\x7b' :: rest => do
    let (parts, rest) ← Json.Reader.items part '\x7d' rest
    let parts ← parts.foldlM Parts.add {}
    return (parts.toEvent, rest)
  | '[' :: _ =>
    match Json.Reader.value Json.Reader.maxDepth cs with
    | some (.array items, rest) => (ofItems? items).map fun e => (e, rest)
    | _ => none
  | _ => none

def parse (line : String) : Option Event :=
  Json.Reader.all read line.toList

/-- The bytes that the device sent: a string is sent as it is, null as nothing, and any other value
as JSON text. -/
def payloadBytes (e : Event) : ByteArray :=
  match e.payload with
  | .string s => s.toUTF8
  | .null => ByteArray.empty
  | v => v.compact.toUTF8

end Event

/-- Handles an event: by its topic if it has one, else by its device and category. -/
def Engine.handleEvent (e : Engine) (event : Event) (now : Moment) :
    Except RoutingError Dispatch × Engine :=
  match event.topic, event.device, event.category with
  | some topic, _, _ => e.handleTopic topic event.payloadBytes now
  | none, some device, some category => e.handleNamed device category event.payloadBytes now
  | none, _, _ => (.error (.invalidTopic "" .unaddressed), e)

end TamperWatch
