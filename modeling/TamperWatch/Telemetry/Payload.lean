import TamperWatch.Json.Reader
import TamperWatch.Telemetry.Category

/-!
# Payloads

What the bytes of a message say. A JSON object is accepted under every category. Some categories
also have a bare textual form, which is brought into the shape of an object so that rules read
fields only.
-/

namespace TamperWatch

inductive Payload where
  /-- A JSON object as it was sent. -/
  | structured (members : Json.Members)
  /-- A bare status token, without quotes and in lower case. -/
  | statusToken (token : String)
  /-- Free text about tampering. -/
  | tamperText (text : String)
  /-- A bare count. -/
  | count (n : Nat)
  /-- Free text about an event, cut to its greatest length. -/
  | eventText (text : String)

/-- Why bytes cannot be understood. -/
inductive DecodeError where
  | empty
  | notUtf8
  | notAnObject (category : Category)
  | notAnInteger
  deriving DecidableEq, Repr

def DecodeError.message : DecodeError → String
  | empty => "payload is empty"
  | notUtf8 => "payload is not valid UTF-8"
  | notAnObject category => category.name ++ " payloads must be JSON objects"
  | notAnInteger => "counts payload is neither a JSON object nor an integer"

namespace Payload

/-- The number of characters kept of a bare event text. -/
def maxEventText : Nat := 255

/-- The payload is an object as it was sent. -/
def isStructured : Payload → Bool
  | structured _ => true
  | _ => false

/-- The members that rules read. -/
def members : Payload → Json.Members
  | structured members => members
  | statusToken token => [("status", .string token)]
  | tamperText text => [("detail", .string text), ("type", .string "unknown")]
  | count n => [("count", .int n)]
  | eventText text => [("event_type", .string text)]

/-- The bare form of a category: what a text that is no JSON object says. `trimmed` is the text
without the blanks around it. -/
def ofBareText (category : Category) (text trimmed : String) : Except DecodeError Payload :=
  match category with
  | .status => .ok (.statusToken (Text.strip (· == '"') trimmed).toLower)
  | .tamper => .ok (.tamperText trimmed)
  | .counts =>
    match Numeral.word? trimmed.toList with
    | some n => .ok (.count n)
    | none => .error .notAnInteger
  | .events => .ok (.eventText (String.ofList (text.toList.take maxEventText)))
  | .chain | .health | .transport | .mesh | .chirp => .error (.notAnObject category)

/-- What the bytes of a message of a category say. -/
def decode (category : Category) (raw : ByteArray) : Except DecodeError Payload :=
  match String.fromUTF8? raw with
  | none => .error .notUtf8
  | some text =>
    let trimmed := Text.trim text
    if trimmed = "" then .error .empty
    else
      match Json.parse trimmed with
      | some (.object members) => .ok (.structured members)
      | _ => ofBareText category text trimmed

end Payload

end TamperWatch
