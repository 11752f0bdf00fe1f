import TamperWatch.Data.SortedMap
import TamperWatch.Fuse.Value
import TamperWatch.Json.Reader

/-!
# Fuse attributes

The values of all fuses of a device by name, as read from the JSON summary of a tool. Tools print
other text around the summary, so everything outside of the outermost braces is set aside.
-/

namespace TamperWatch

/-- The values of fuses by name. -/
abbrev FuseAttributes := SortedMap String FuseValue

/-- Why a text gives no attributes. -/
inductive AttributesError where
  /-- There is no opening brace with a closing one after it. -/
  | noObject
  /-- What stands between the braces is no JSON. -/
  | malformed
  /-- A JSON value is no object. -/
  | notAnObject
  deriving DecidableEq, Repr

def AttributesError.message : AttributesError → String
  | noObject => "Invalid attribute input: no JSON object found in attribute input"
  | malformed => "Invalid attribute input: malformed attribute JSON:"
  | notAnObject => "Invalid attribute input: expected a JSON object of eFuse name to value"

namespace FuseAttributes

/-- What was read from a fuse; a fuse without a value was not found. -/
def read (attributes : FuseAttributes) (name : String) : FuseValue :=
  (attributes.find? name).getD .notFound

/-- The attributes of a decoded summary. -/
def ofJson : Json → Except AttributesError FuseAttributes
  | .object members => .ok (.ofList (members.map fun (name, v) => (name, .ofJson v)))
  | _ => .error .notAnObject

/-- The part of a text from its first opening to its last closing brace. -/
def braced? (cs : List Char) : Option (List Char) :=
  let opened := cs.dropWhile (· ≠ '\x7b')
  let body := (opened.reverse.dropWhile (· ≠ '\x7d')).reverse
  if body.isEmpty then none else some body

/-- The attributes in the output of a tool. -/
def parse (text : String) : Except AttributesError FuseAttributes :=
  match braced? text.toList with
  | none => .error .noObject
  | some body =>
    match Json.parse (String.ofList body) with
    | none => .error .malformed
    | some v => ofJson v

def toJson (attributes : FuseAttributes) : Json :=
  .object (attributes.entries.map fun (name, v) => (name, v.toJson))

end FuseAttributes

end TamperWatch
