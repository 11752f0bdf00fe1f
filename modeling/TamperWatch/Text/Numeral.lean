import TamperWatch.Text.Blank

/-!
# Numerals

Reading whole numbers written in a base up to sixteen, with or without a sign, within the limits of
64-bit words. A numeral needs at least one digit and nothing but digits after its sign.
-/

namespace TamperWatch.Numeral

/-- One more than the largest unsigned 64-bit number. -/
def wordLimit : Nat := Nat.pow 2 64

/-- The whole numbers of a signed 64-bit word. -/
def fitsSigned (n : Int) : Bool :=
  -Int.pow 2 63 ≤ n && n < Int.pow 2 63

/-- The value of a character as a digit of a base up to sixteen, in either letter case. -/
def digit? (base : Nat) (c : Char) : Option Nat :=
  let value? :=
    if '0' ≤ c ∧ c ≤ '9' then some (c.toNat - '0'.toNat)
    else if 'a' ≤ c ∧ c ≤ 'f' then some (c.toNat - 'a'.toNat + 10)
    else if 'A' ≤ c ∧ c ≤ 'F' then some (c.toNat - 'A'.toNat + 10)
    else none
  value?.filter (· < base)

/-- The number that digits denote when they follow a number already read. -/
def extend? (base : Nat) : Nat → List Char → Option Nat
  | n, [] => some n
  | n, c :: cs => (digit? base c).bind fun d => extend? base (base * n + d) cs

/-- The number denoted by one or more digits. -/
def natural? (base : Nat) (cs : List Char) : Option Nat :=
  if cs.isEmpty then none else extend? base 0 cs

/-- An unsigned 64-bit number: decimal digits, perhaps after one plus sign. -/
def word? (cs : List Char) : Option Nat :=
  let digits := match cs with
    | '+' :: rest => rest
    | _ => cs
  (natural? 10 digits).filter (· < wordLimit)

/-- A signed 64-bit number: digits of a base, perhaps after one sign. -/
def signed? (base : Nat) (cs : List Char) : Option Int :=
  let value? : Option Int := match cs with
    | '+' :: rest => (natural? base rest).map Int.ofNat
    | '-' :: rest => (natural? base rest).map fun n => -(n : Int)
    | _ => (natural? base cs).map Int.ofNat
  value?.filter fitsSigned

example : word? "+007".toList = some 7 := by decide
example : word? "18446744073709551616".toList = none := by decide
example : signed? 16 "-1F".toList = some (-31) := by decide
example : signed? 2 "".toList = none := by decide

end TamperWatch.Numeral
