import TamperWatch.Json.Basic
import TamperWatch.Text.Blank
import TamperWatch.Text.Numeral
import TamperWatch.Text.Search

/-!
# Fuse values

What was read from one fuse. Tools that read fuses write their values in many ways: numbers in three
bases, truth values, or names; a value that looks like a number and is none counts as not found.
-/

namespace TamperWatch

/-- What was read from one fuse. -/
inductive FuseValue where
  /-- A signed 64-bit number. -/
  | int (n : Int)
  | text (s : String)
  /-- The fuse is missing or could not be read. -/
  | notFound
  deriving DecidableEq, Repr

namespace FuseValue

def notFoundText : String := "NOT_FOUND"

/-- A number that could be read, or nothing found. -/
def ofInt? : Option Int → FuseValue
  | some n => int n
  | none => notFound

/-- The token is a decimal number, perhaps after a minus sign. -/
def looksDecimal (token : List Char) : Bool :=
  let digits := match token with
    | '-' :: rest => rest
    | _ => token
  !digits.isEmpty && digits.all Char.isDigit

/-- The value of a token. Letter case matters for names only. -/
def ofToken (token : String) : FuseValue :=
  let lower := token.toLower
  if lower = "true" then int 1
  else if lower = "false" then int 0
  else
    match Text.dropHead? ['0', 'x'] lower.toList, Text.dropHead? ['0', 'b'] lower.toList with
    | some digits, _ => ofInt? (Numeral.signed? 16 digits)
    | none, some digits => ofInt? (Numeral.signed? 2 digits)
    | none, none =>
      if looksDecimal token.toList then ofInt? (Numeral.signed? 10 token.toList) else text token

/-- The value of a text, blanks around it set aside. -/
def ofText (s : String) : FuseValue :=
  ofToken (Text.trim s)

/-- The value of a JSON value that is no wrapper. -/
def ofPlainJson : Json → FuseValue
  | .bool b => int (if b then 1 else 0)
  | .number (.int n) => if Numeral.fitsSigned n then int n else notFound
  | .string s => ofText s
  | .number (.real _) | .null | .array _ | .object _ => notFound

/-- The value of a JSON value. An object wraps the value of its member `value`, one level deep. -/
def ofJson : Json → FuseValue
  | .object members =>
    match members.lookup "value" with
    | some v => ofPlainJson v
    | none => notFound
  | v => ofPlainJson v

def isFound : FuseValue → Bool
  | notFound => false
  | _ => true

def int? : FuseValue → Option Int
  | int n => some n
  | _ => none

def text? : FuseValue → Option String
  | text s => some s
  | _ => none

def display : FuseValue → String
  | int n => toString n
  | text s => s
  | notFound => notFoundText

def toJson : FuseValue → Json
  | int n => .int n
  | text s => .string s
  | notFound => .string notFoundText

example : ofText " 0X1f " = int 31 := by decide +kernel
example : ofText "0b2" = notFound := by decide +kernel
example : ofText "-" = text "-" := by decide +kernel

end FuseValue

end TamperWatch
