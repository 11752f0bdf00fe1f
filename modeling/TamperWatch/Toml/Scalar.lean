import TamperWatch.Text.Numeral
import TamperWatch.Text.Reader
import TamperWatch.Toml.Value

/-!
# TOML scalars

Readers for strings in their four forms, numbers, and dates and times. Underscores stand between
digits only. A float is the double nearest to it; one that is too large above is refused.
-/

namespace TamperWatch.Toml

/-- Blanks inside a line. -/
def isBlank (c : Char) : Bool := c = ' ' || c = '\t'

/-- The text after its leading blanks. -/
def afterBlanks (cs : List Char) : List Char := cs.dropWhile isBlank

/-- The text after a line end: a line feed, perhaps after a carriage return. -/
def afterNewline? : List Char → Option (List Char)
  | '\n' :: rest => some rest
  | '\r' :: '\n' :: rest => some rest
  | _ => none

/-- A character that may stand in comments and strings: no control character but the tab. -/
def isPlain (c : Char) : Bool := c = '\t' || (0x20 ≤ c.toNat && c.toNat ≠ 0x7f)

/-- The character of a code point written in exactly `width` hexadecimal digits. -/
def codePoint (width : Nat) : Reader Char := fun cs =>
  let digits := cs.take width
  if digits.length = width then
    (Numeral.natural? 16 digits).bind fun n =>
      if n.isValidChar then some (Char.ofNat n, cs.drop width) else none
  else none

/-- The character of an escape, after its backslash. -/
def escape : Reader Char
  | 'b' :: rest => some ('\x08', rest)
  | 't' :: rest => some ('\t', rest)
  | 'n' :: rest => some ('\n', rest)
  | 'f' :: rest => some ('\x0c', rest)
  | 'r' :: rest => some ('\r', rest)
  | '"' :: rest => some ('"', rest)
  | '\\' :: rest => some ('\\', rest)
  | 'u' :: rest => codePoint 4 rest
  | 'U' :: rest => codePoint 8 rest
  | _ => none

/-- A string in double quotes after the opening one. Each step takes at least one character, so
`more` never runs out when it begins as the length of the text; `read` holds the characters read,
the last one first. -/
def basicBody : (more : Nat) → (read : List Char) → Reader String
  | 0, _, _ => none
  | _ + 1, _, [] => none
  | _ + 1, read, '"' :: rest => some (String.ofList read.reverse, rest)
  | more + 1, read, '\\' :: rest =>
    match escape rest with
    | some (c, rest) => basicBody more (c :: read) rest
    | none => none
  | more + 1, read, c :: rest => if isPlain c then basicBody more (c :: read) rest else none

/-- The text after blanks and line ends. -/
def afterBlankLines : Nat → List Char → List Char
  | 0, cs => cs
  | more + 1, cs =>
    let cs := afterBlanks cs
    match afterNewline? cs with
    | some rest => afterBlankLines more rest
    | none => cs

/-- The text after a line end that is escaped, when the escape's backslash stands before `cs`. -/
def afterContinuation? (cs : List Char) : Option (List Char) :=
  (afterNewline? (afterBlanks cs)).map fun rest => afterBlankLines rest.length.succ rest

/-- A string in three double quotes after the opening ones. Up to two quotes may stand before the
closing ones. -/
def multilineBody : (more : Nat) → (read : List Char) → Reader String
  | 0, _, _ => none
  | _ + 1, read, '"' :: '"' :: '"' :: '"' :: '"' :: rest =>
    some (String.ofList ('"' :: '"' :: read).reverse, rest)
  | _ + 1, read, '"' :: '"' :: '"' :: '"' :: rest =>
    some (String.ofList ('"' :: read).reverse, rest)
  | _ + 1, read, '"' :: '"' :: '"' :: rest => some (String.ofList read.reverse, rest)
  | _ + 1, _, [] => none
  | more + 1, read, '\\' :: rest =>
    match afterContinuation? rest with
    | some rest => multilineBody more read rest
    | none =>
      match escape rest with
      | some (c, rest) => multilineBody more (c :: read) rest
      | none => none
  | more + 1, read, c :: rest =>
    match afterNewline? (c :: rest) with
    | some rest => multilineBody more ('\n' :: read) rest
    | none => if isPlain c then multilineBody more (c :: read) rest else none

/-- A string in single quotes after the opening one. -/
def literalBody (read : List Char) : Reader String
  | [] => none
  | '\'' :: rest => some (String.ofList read.reverse, rest)
  | c :: rest => if isPlain c then literalBody (c :: read) rest else none

/-- A string in three single quotes after the opening ones. Up to two quotes may stand before the
closing ones. -/
def multilineLiteralBody (read : List Char) : Reader String
  | '\'' :: '\'' :: '\'' :: '\'' :: '\'' :: rest =>
    some (String.ofList ('\'' :: '\'' :: read).reverse, rest)
  | '\'' :: '\'' :: '\'' :: '\'' :: rest => some (String.ofList ('\'' :: read).reverse, rest)
  | '\'' :: '\'' :: '\'' :: rest => some (String.ofList read.reverse, rest)
  | [] => none
  | '\r' :: '\n' :: rest => multilineLiteralBody ('\n' :: read) rest
  | c :: rest =>
    if c = '\n' || isPlain c then multilineLiteralBody (c :: read) rest else none

/-- The text after one line end, if it begins with one. -/
def afterFirstNewline (cs : List Char) : List Char :=
  (afterNewline? cs).getD cs

/-- A string that may not run over lines. -/
def lineString : Reader String
  | '"' :: rest => basicBody rest.length.succ [] rest
  | '\'' :: rest => literalBody [] rest
  | _ => none

/-- A string. A line end right after three opening quotes does not count. -/
def string : Reader String
  | '"' :: '"' :: '"' :: rest =>
    let rest := afterFirstNewline rest
    multilineBody rest.length.succ [] rest
  | '\'' :: '\'' :: '\'' :: rest => multilineLiteralBody [] (afterFirstNewline rest)
  | cs => lineString cs

/-- More digits of a number, `read` being those already read, the last one first. -/
def moreDigits (isDigit : Char → Bool) (read : List Char) : Reader (List Char)
  | '_' :: c :: rest => if isDigit c then moreDigits isDigit (c :: read) rest else none
  | c :: rest =>
    if isDigit c then moreDigits isDigit (c :: read) rest else some (read.reverse, c :: rest)
  | [] => some (read.reverse, [])

/-- One or more digits, with single underscores between them. -/
def digits (isDigit : Char → Bool) : Reader (List Char)
  | c :: rest => if isDigit c then moreDigits isDigit [c] rest else none
  | [] => none

/-- A sign, if there is one: whether it is a minus. -/
def sign : List Char → Bool × List Char
  | '-' :: rest => (true, rest)
  | '+' :: rest => (false, rest)
  | cs => (false, cs)

/-- The digits of a decimal number, of which only zero itself begins with a zero. -/
def wholeDigits : Reader (List Char)
  | '0' :: rest => some (['0'], rest)
  | cs => digits Char.isDigit cs

/-- A fraction, with its point. -/
def fraction : Reader (List Char)
  | '.' :: rest => digits Char.isDigit rest
  | _ => none

/-- An exponent, with its mark. -/
def exponent : Reader Int
  | c :: rest =>
    if c = 'e' ∨ c = 'E' then
      let (negative, rest) := sign rest
      match digits Char.isDigit rest with
      | some (ds, rest) =>
        (Numeral.natural? 10 ds).map fun n => (if negative then -(n : Int) else n, rest)
      | none => none
    else none
  | [] => none

/-- The double nearest to a decimal number. Exponents far outside of the doubles are not
computed. -/
def nearest (negative : Bool) (ds : List Char) (exponent : Int) : Float :=
  let n := (Numeral.natural? 10 ds).getD 0
  let size := ((toString n).length : Int) + exponent
  let x : Float :=
    if n = 0 ∨ size < -400 then 0
    else if 400 < size then 1 / 0
    else Float.ofScientific n (exponent < 0) exponent.natAbs
  if negative then -x else x

/-- A number with a fraction or an exponent. -/
def decimalFloat : Reader Value := fun cs => do
  let (negative, cs) := sign cs
  let (whole, cs) ← wholeDigits cs
  let (places, power, cs) ← match fraction cs with
    | some (places, rest) =>
      match exponent rest with
      | some (power, rest) => some (places, power, rest)
      | none => some (places, 0, rest)
    | none => (exponent cs).map fun (power, rest) => ([], power, rest)
  let x := nearest negative (whole ++ places) (power - places.length)
  if x.isInf && !negative then none else return (.float x, cs)

/-- A float that is no number of finite size. -/
def specialFloat : Reader Value := fun cs =>
  match sign cs with
  | (negative, 'i' :: 'n' :: 'f' :: rest) =>
    some (.float (if negative then -1 / 0 else 1 / 0), rest)
  | (_, 'n' :: 'a' :: 'n' :: rest) => some (.float (0 / 0), rest)
  | _ => none

/-- Digits of a base after its mark, as a number of 64 bits. -/
def based (base : Nat) : Reader Value := fun cs => do
  let (ds, rest) ← digits (fun c => (Numeral.digit? base c).isSome) cs
  let n ← Numeral.signed? base ds
  return (.integer n, rest)

def integer : Reader Value
  | '0' :: 'x' :: rest => based 16 rest
  | '0' :: 'o' :: rest => based 8 rest
  | '0' :: 'b' :: rest => based 2 rest
  | cs => do
    let (negative, cs) := sign cs
    let (ds, rest) ← wholeDigits cs
    let n ← Numeral.signed? 10 (if negative then '-' :: ds else ds)
    return (.integer n, rest)

/-- A number of exactly `width` digits within bounds. -/
def fixed (width least greatest : Nat) : Reader Nat := fun cs => do
  let ds := cs.take width
  guard (ds.length = width && ds.all Char.isDigit)
  let n ← Numeral.natural? 10 ds
  guard (least ≤ n && n ≤ greatest)
  return (n, cs.drop width)

def mark (c : Char) : Reader Unit
  | d :: rest => if c = d then some ((), rest) else none
  | [] => none

/-- The number of days of a month. -/
def daysIn (year month : Nat) : Nat :=
  if month = 2 then
    if year % 4 = 0 ∧ (year % 100 ≠ 0 ∨ year % 400 = 0) then 29 else 28
  else if month = 4 ∨ month = 6 ∨ month = 9 ∨ month = 11 then 30
  else 31

def date : Reader Unit := fun cs => do
  let (year, cs) ← fixed 4 0 9999 cs
  let (_, cs) ← mark '-' cs
  let (month, cs) ← fixed 2 1 12 cs
  let (_, cs) ← mark '-' cs
  let (_, cs) ← fixed 2 1 (daysIn year month) cs
  return ((), cs)

/-- The fraction of a second, if there is one. -/
def afterSecondFraction (cs : List Char) : Option (List Char) :=
  match cs with
  | '.' :: c :: rest => if c.isDigit then some (rest.dropWhile Char.isDigit) else none
  | _ => some cs

def time : Reader Unit := fun cs => do
  let (_, cs) ← fixed 2 0 23 cs
  let (_, cs) ← mark ':' cs
  let (_, cs) ← fixed 2 0 59 cs
  let (_, cs) ← mark ':' cs
  let (_, cs) ← fixed 2 0 60 cs
  let cs ← afterSecondFraction cs
  return ((), cs)

/-- The offset of a time zone, if there is one. -/
def afterOffset? : List Char → Option (List Char)
  | [] => some []
  | c :: rest =>
    if c = 'Z' ∨ c = 'z' then some rest
    else if c = '+' ∨ c = '-' then do
      let (_, rest) ← fixed 2 0 23 rest
      let (_, rest) ← mark ':' rest
      let (_, rest) ← fixed 2 0 59 rest
      return rest
    else some (c :: rest)

/-- What may follow a date: a time of day, which may have the offset of its zone. -/
def afterDateTime? (cs : List Char) : Option (List Char) :=
  match cs with
  | c :: rest =>
    if c = 'T' ∨ c = 't' ∨ c = ' ' then
      match time rest with
      | some (_, rest) => afterOffset? rest
      | none => some cs
    else some cs
  | [] => some []

/-- A date, a time, or both. -/
def datetime : Reader Value := fun cs =>
  match date cs with
  | some (_, rest) => (afterDateTime? rest).map fun rest => (.datetime, rest)
  | none => (time cs).map fun (_, rest) => (.datetime, rest)

/-- A number, a date or a time. -/
def numeric : Reader Value := fun cs =>
  datetime cs <|> decimalFloat cs <|> specialFloat cs <|> integer cs

example : integer "0x_1".toList = none := rfl
example : (date "2024-02-29".toList).isSome = true := by decide +kernel
example : (date "2023-02-29".toList).isSome = false := by decide +kernel

end TamperWatch.Toml
