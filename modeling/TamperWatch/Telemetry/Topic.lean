import TamperWatch.Telemetry.Category
import TamperWatch.Text.Blank
import TamperWatch.Text.Search

/-!
# Topics

A device publishes on topics of the form `root/device/category`. The root may itself have slashes
inside; the device has none.
-/

namespace TamperWatch

/-- What is wrong with a topic. -/
inductive TopicFault where
  /-- It does not begin with the root and a slash. -/
  | otherRoot (root : String)
  /-- What follows the root is not two parts. -/
  | otherShape
  /-- An event names neither a topic nor a device with a category. -/
  | unaddressed
  deriving DecidableEq, Repr

def TopicFault.message : TopicFault → String
  | otherRoot root => "expected prefix '" ++ root ++ "'"
  | otherShape => "expected <prefix>/<device_id>/<category>"
  | unaddressed => "event needs a topic or a device_id and category"

/-- Why a message cannot be routed. -/
inductive RoutingError where
  | unknownCategory (name : String)
  | emptyDevice
  | invalidTopic (topic : String) (fault : TopicFault)
  deriving DecidableEq, Repr

def RoutingError.message : RoutingError → String
  | unknownCategory name => "Unknown telemetry category: " ++ name
  | emptyDevice => "Device id must not be empty"
  | invalidTopic topic fault => "Invalid topic '" ++ topic ++ "': " ++ fault.message

/-- The category with a name, or an error that quotes the name. -/
def Category.parse (name : String) : Except RoutingError Category :=
  match ofName? name with
  | some c => .ok c
  | none => .error (.unknownCategory name)

/-- Where a message comes from and what it reports on. -/
structure Address where
  device : String
  category : Category
  deriving DecidableEq, Repr

namespace Topic

/-- A root without the slashes at its ends. -/
def cleanRoot (root : String) : String :=
  Text.strip (· == '/') root

/-- The topic of an address. -/
def render (root : String) (a : Address) : String :=
  root ++ "/" ++ a.device ++ "/" ++ a.category.name

/-- The part of a topic after the root and its slash. -/
def afterRoot? (root topic : String) : Option String :=
  (Text.after? root topic).bind (Text.after? "/")

/-- The address that a topic names. -/
def split (root topic : String) : Except RoutingError Address :=
  match afterRoot? root topic with
  | none => .error (.invalidTopic topic (.otherRoot root))
  | some rest =>
    match Text.pieces '/' rest with
    | [device, name] =>
      if device = "" then .error .emptyDevice
      else (Category.parse name).map fun category => ⟨device, category⟩
    | _ => .error (.invalidTopic topic .otherShape)

end Topic

end TamperWatch
