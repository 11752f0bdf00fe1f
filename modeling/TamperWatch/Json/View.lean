import TamperWatch.Json.Writer
import TamperWatch.Text.Blank

/-!
# Views of JSON values

How rules look at a value whose type the sender chose: as a truth value, as a number, as a token to
compare, and as text.
-/

namespace TamperWatch.Json

/-- A number as a double. -/
def Number.toFloat : Number → Float
  | .int n => Float.ofInt n
  | .real x => x

/-- Null, false, zero and everything empty are false; all else is true. -/
def isTruthy : Json → Bool
  | .null => false
  | .bool b => b
  | .number n => n.toFloat != 0
  | .string s => s ≠ ""
  | .array xs => !xs.isEmpty
  | .object ms => !ms.isEmpty

/-- The numeric view: an array counts its items, and true is one. -/
def asNumber? : Json → Option Float
  | .number n => some n.toFloat
  | .bool b => some (if b then 1 else 0)
  | .array xs => some (Float.ofNat xs.length)
  | .null | .string _ | .object _ => none

/-- The view for comparing tokens: trimmed, in ASCII lower case. -/
def asToken? : Json → Option String
  | .string s => some (Text.trim s).toLower
  | .bool b => some (toString b)
  | .number n => some n.text
  | .null | .array _ | .object _ => none

/-- The textual view: a string is itself, null is empty, and all else is its JSON text. -/
def asText : Json → String
  | .string s => s
  | .null => ""
  | v => v.compact

end TamperWatch.Json
