import TamperWatch.Json.Basic
import TamperWatch.Text.Numeral

/-!
# JSON numerals

Reading the numerals of JSON. A numeral without fraction and exponent that fits a 64-bit word stays
exact. Any other becomes a double in two steps: its leading digits, as many as fit an unsigned word,
are rounded to a double, and that is multiplied or divided by a power of ten. A numeral that gets
too large for a double in this way has no value; one that gets too small is zero.
-/

namespace TamperWatch.Json

/-- Reads on the digits of a word until one more would not fit: the word and the digits left. -/
def gather : Nat → List Char → Nat × List Char
  | word, [] => (word, [])
  | word, c :: cs =>
    let next := 10 * word + (c.toNat - '0'.toNat)
    if next < Numeral.wordLimit then gather next cs else (word, c :: cs)

/-- A power of ten up to `10 ^ 308`, as a double. -/
def powerOfTen (n : Nat) : Float :=
  Float.ofScientific 1 false n

/-- The double `word · 10 ^ exponent`, by one rounded multiplication, or by at most two rounded
divisions; there is none if it would be infinite. -/
def scale? (word : Nat) (exponent : Int) : Option Float :=
  let x := Float.ofNat word
  let n := exponent.natAbs
  if word = 0 then some 0
  else if 0 ≤ exponent then
    if n ≤ 308 then
      let y := x * powerOfTen n
      if y.isInf then none else some y
    else none
  else if n ≤ 308 then some (x / powerOfTen n)
  else if n ≤ 616 then some (x / powerOfTen 308 / powerOfTen (n - 308))
  else some 0

/-- The value of a numeral with the digits `whole` and no fraction or exponent. -/
def wholeNumber? (negative : Bool) (whole : List Char) : Option Number :=
  match gather 0 whole with
  | (word, []) =>
    if !negative then some (.int word)
    else if word = 0 then some (.real (-0.0))
    else if word ≤ Nat.pow 2 63 then some (.int (-(word : Int)))
    else some (.real (-(Float.ofNat word)))
  | (word, left) =>
    (scale? word left.length).map fun x => .real (if negative then -x else x)

/-- The value of a numeral with a fraction or an exponent. -/
def realNumber? (negative : Bool) (whole fraction : List Char) (exponent : Int) : Option Number :=
  let (word, left) := gather 0 whole
  let (word, unread) := gather word fraction
  let places := fraction.length - unread.length
  (scale? word (left.length - places + exponent)).map fun x => .real (if negative then -x else x)

/-- The digits at the start of a text, and what follows them. -/
def digitsThen (cs : List Char) : List Char × List Char :=
  (cs.takeWhile Char.isDigit, cs.dropWhile Char.isDigit)

/-- The exponent at the start of a text, if there is one, and what follows it. An exponent mark
without digits is an error. -/
def exponent? : List Char → Option (Option Int × List Char)
  | c :: cs =>
    if c = 'e' ∨ c = 'E' then
      let (negative, cs) := match cs with
        | '+' :: rest => (false, rest)
        | '-' :: rest => (true, rest)
        | _ => (false, cs)
      let (digits, rest) := digitsThen cs
      (Numeral.natural? 10 digits).map fun n => (some (if negative then -(n : Int) else n), rest)
    else some (none, c :: cs)
  | [] => some (none, [])

/-- The fraction at the start of a text, if there is one, and what follows it. A point without
digits is an error. -/
def fraction? : List Char → Option (Option (List Char) × List Char)
  | '.' :: cs =>
    let (digits, rest) := digitsThen cs
    if digits.isEmpty then none else some (some digits, rest)
  | cs => some (none, cs)

/-- The parts of a numeral. -/
structure Spelling where
  negative : Bool
  whole : List Char
  fraction : Option (List Char)
  exponent : Option Int

/-- The numeral at the start of a text, and what follows it. Its whole part has no leading zero. -/
def spelling? (cs : List Char) : Option (Spelling × List Char) := do
  let (negative, cs) := match cs with
    | '-' :: rest => (true, rest)
    | _ => (false, cs)
  let (whole, cs) := digitsThen cs
  guard !whole.isEmpty
  guard (whole.head? ≠ some '0' || whole.length = 1)
  let (fraction, cs) ← fraction? cs
  let (exponent, cs) ← exponent? cs
  return (⟨negative, whole, fraction, exponent⟩, cs)

/-- The number that a numeral denotes, if doubles reach that far. -/
def Spelling.number? (s : Spelling) : Option Number :=
  match s.fraction, s.exponent with
  | none, none => wholeNumber? s.negative s.whole
  | fraction, exponent => realNumber? s.negative s.whole (fraction.getD []) (exponent.getD 0)

example : (spelling? "18446744073709551615,".toList).bind (·.1.number?) =
    some (.int 18446744073709551615) := by decide +kernel
example : (spelling? "-0".toList).bind (·.1.number?) = some (.real (-0.0)) := by decide +kernel
example : (spelling? "1e400".toList).bind (·.1.number?) = none := by decide +kernel

end TamperWatch.Json
