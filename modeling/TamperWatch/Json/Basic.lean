import TamperWatch.Data.SortedMap

/-!
# JSON values

Values as the JSON grammar has them. A number is exact where it is a whole number of a 64-bit word,
and a double otherwise. The members of an object keep the order in which they are written; the
reader puts them in ascending key order.
-/

namespace TamperWatch

inductive Json.Number where
  /-- A whole number between `-2 ^ 63` and `2 ^ 64 - 1`. -/
  | int (n : Int)
  /-- Any other number. -/
  | real (x : Float)
  deriving DecidableEq

inductive Json where
  | null
  | bool (b : Bool)
  | number (n : Json.Number)
  | string (s : String)
  | array (items : List Json)
  | object (members : List (String × Json))

namespace Json

abbrev Members := List (String × Json)

instance : Inhabited Json := ⟨null⟩

def int (n : Int) : Json := .number (.int n)

/-- An object with its members in ascending key order; of two members with one key the later
counts. -/
def ofMembers (members : Members) : Json :=
  .object (members.foldl (fun ms m => insertEntry m.1 m.2 ms) [])

/-- An object that holds the entries of a map. -/
def ofMap (m : SortedMap String Json) : Json :=
  .object m.entries

/-- The text of an optional string, or null. -/
def ofText? : Option String → Json
  | some s => .string s
  | none => .null

def members? : Json → Option Members
  | .object members => some members
  | _ => none

end Json

end TamperWatch
