import TamperWatch.Json.Basic
import TamperWatch.Decimal.Layout

/-!
# Writing JSON

The compact form, without blanks, and the indented form, two spaces a level. Both write members in
the order in which an object holds them and escape only quotes, backslashes and control characters.
-/

namespace TamperWatch.Json

/-- Doubles are positional for decimal exponents from -5 to 15, whole ones end in `.0`, and of two
equally near decimals the even one is written. -/
def layout : Decimal.Layout := ⟨fun e => -5 ≤ e && e ≤ 15, ".0", .toEven⟩

/-- The text of a number; JSON has no infinities and writes null for them. -/
def Number.text : Number → String
  | .int n => toString n
  | .real x => if x.isFinite then layout.write x else "null"

/-- A character of a string, escaped where JSON asks for it. -/
def escape (c : Char) : List Char :=
  match c with
  | '"' => ['\\', '"']
  | '\\' => ['\\', '\\']
  | '\x08' => ['\\', 'b']
  | '\x0c' => ['\\', 'f']
  | '\n' => ['\\', 'n']
  | '\r' => ['\\', 'r']
  | '\t' => ['\\', 't']
  | c =>
    if c.toNat < 0x20 then
      ['\\', 'u', '0', '0', Nat.digitChar (c.toNat / 16), Nat.digitChar (c.toNat % 16)]
    else [c]

def quote (s : String) : String :=
  String.ofList ('"' :: s.toList.flatMap escape ++ ['"'])

mutual

/-- The text of a value without blanks. -/
def compact : Json → String
  | .null => "null"
  | .bool b => toString b
  | .number n => n.text
  | .string s => quote s
  | .array xs => "[" ++ compactItems xs ++ "]"
  | .object ms => "\x7b" ++ compactMembers ms ++ "\x7d"

/-- The items of an array, between commas. -/
def compactItems : List Json → String
  | [] => ""
  | [x] => compact x
  | x :: xs => compact x ++ "," ++ compactItems xs

/-- The members of an object, between commas. -/
def compactMembers : List (String × Json) → String
  | [] => ""
  | [(k, x)] => quote k ++ ":" ++ compact x
  | (k, x) :: ms => quote k ++ ":" ++ compact x ++ "," ++ compactMembers ms

end

/-- The start of a line at a level. -/
def newline (level : Nat) : String :=
  "\n" ++ String.ofList (List.replicate (2 * level) ' ')

mutual

/-- The text of a value with its items on lines of their own; empty containers stay on one line. -/
def indented (level : Nat) : Json → String
  | .null => "null"
  | .bool b => toString b
  | .number n => n.text
  | .string s => quote s
  | .array [] => "[]"
  | .array xs => "[" ++ indentedItems (level + 1) xs ++ newline level ++ "]"
  | .object [] => "\x7b\x7d"
  | .object ms => "\x7b" ++ indentedMembers (level + 1) ms ++ newline level ++ "\x7d"

/-- The items of an array, each on its line. -/
def indentedItems (level : Nat) : List Json → String
  | [] => ""
  | [x] => newline level ++ indented level x
  | x :: xs => newline level ++ indented level x ++ "," ++ indentedItems level xs

/-- The members of an object, each on its line. -/
def indentedMembers (level : Nat) : List (String × Json) → String
  | [] => ""
  | [(k, x)] => newline level ++ quote k ++ ": " ++ indented level x
  | (k, x) :: ms =>
    newline level ++ quote k ++ ": " ++ indented level x ++ "," ++ indentedMembers level ms

end

def pretty (v : Json) : String :=
  indented 0 v

end TamperWatch.Json
