import TamperWatch.Json.Basic
import TamperWatch.Text.Search

/-!
# Paths into JSON objects

A path names a member of a member of an object, its keys separated by dots. Main statement: going
down two paths one after the other is going down their concatenation (`descend_append`).
-/

namespace TamperWatch.Json

/-- The value reached from `v` by going into objects along `keys`. -/
def descend : Json → List String → Option Json
  | v, [] => some v
  | .object members, key :: keys => (members.lookup key).bind (descend · keys)
  | _, _ :: _ => none

/-- The value at a dotted path inside an object. Every path has at least one key, perhaps the empty
one. -/
def atPath? (members : Members) (path : String) : Option Json :=
  descend (.object members) (Text.pieces '.' path)

/-- To go down two lists of keys is to go down the first and then the second. -/
theorem descend_append (v : Json) (keys more : List String) :
    descend v (keys ++ more) = (descend v keys).bind (descend · more) := by
  induction keys generalizing v with
  | nil => rfl
  | cons key keys ih =>
    cases v with
    | object members =>
      cases h : members.lookup key with
      | none => simp [descend, h]
      | some w => simp [descend, h, ih]
    | _ => rfl

end TamperWatch.Json
