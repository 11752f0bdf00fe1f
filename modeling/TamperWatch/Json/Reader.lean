import TamperWatch.Json.Numeral
import TamperWatch.Text.Reader

/-!
# Reading JSON

A reader for the JSON grammar: blanks are space, tab, line feed and carriage return; a text holds
one value and nothing after it; containers nest at most 127 deep; escapes of surrogates come in
pairs. Of several members with one key the last counts, and members are put in ascending key order.

`Json.parse` reads a text into a value. `Reader.skip` passes over a value without building it, and
is content with numerals too large for a double, with single surrogates and with any depth.
-/

namespace TamperWatch.Json

namespace Reader

def isBlank (c : Char) : Bool :=
  c = ' ' || c = '\t' || c = '\n' || c = '\r'

/-- The text after its leading blanks. -/
def afterBlanks (cs : List Char) : List Char :=
  cs.dropWhile isBlank

/-- The number of a `\u` escape, from its four hexadecimal digits. -/
def codeUnit? (a b c d : Char) : Option Nat :=
  Numeral.extend? 16 0 [a, b, c, d]

/-- The first half of a surrogate pair. -/
def isHighSurrogate (n : Nat) : Bool := 0xd800 ≤ n && n < 0xdc00

/-- The second half of a surrogate pair. -/
def isLowSurrogate (n : Nat) : Bool := 0xdc00 ≤ n && n < 0xe000

/-- The character that a one-letter escape stands for. -/
def escaped? : Char → Option Char
  | '"' => some '"'
  | '\\' => some '\\'
  | '/' => some '/'
  | 'b' => some '\x08'
  | 'f' => some '\x0c'
  | 'n' => some '\n'
  | 'r' => some '\r'
  | 't' => some '\t'
  | _ => none

/-- The characters of a string after its opening quote, up to the closing one; `read` holds those
already read, the last one first. -/
def stringBody (read : List Char) : Reader String
  | [] => none
  | '"' :: rest => some (String.ofList read.reverse, rest)
  | '\\' :: 'u' :: a :: b :: c :: d :: rest =>
    match codeUnit? a b c d with
    | none => none
    | some n =>
      if isLowSurrogate n then none
      else if isHighSurrogate n then
        match rest with
        | '\\' :: 'u' :: e :: f :: g :: h :: rest =>
          match codeUnit? e f g h with
          | none => none
          | some m =>
            if isLowSurrogate m then
              stringBody (Char.ofNat (0x10000 + (n - 0xd800) * 0x400 + (m - 0xdc00)) :: read) rest
            else none
        | _ => none
      else stringBody (Char.ofNat n :: read) rest
  | '\\' :: c :: rest =>
    match escaped? c with
    | some e => stringBody (e :: read) rest
    | none => none
  | c :: rest => if c.toNat < 0x20 then none else stringBody (c :: read) rest

def string : Reader String
  | '"' :: rest => stringBody [] rest
  | _ => none

/-- The items of a container after its opening bracket and before its closing one, when there is at
least one. Each item takes a comma or the closing bracket with it, so the length of the text bounds
their number. -/
def itemsFrom (item : Reader α) (close : Char) : Nat → Reader (List α)
  | 0, _ => none
  | more + 1, cs =>
    match item (afterBlanks cs) with
    | none => none
    | some (a, cs) =>
      match afterBlanks cs with
      | [] => none
      | c :: cs =>
        if c = close then some ([a], cs)
        else if c = ',' then (itemsFrom item close more cs).map fun (as, rest) => (a :: as, rest)
        else none

def items (item : Reader α) (close : Char) (cs : List Char) : Option (List α × List Char) :=
  match afterBlanks cs with
  | [] => none
  | c :: rest => if c = close then some ([], rest) else itemsFrom item close (c :: rest).length cs

/-- A member of an object, its value read by `value`. -/
def member (key : Reader κ) (value : Reader α) : Reader (κ × α) := fun cs =>
  match key cs with
  | none => none
  | some (k, cs) =>
    match afterBlanks cs with
    | ':' :: cs => (value (afterBlanks cs)).map fun (a, rest) => ((k, a), rest)
    | _ => none

def number : Reader Number := fun cs =>
  match spelling? cs with
  | none => none
  | some (s, rest) => s.number?.map fun n => (n, rest)

/-- A value with at most `depth` containers inside one another. -/
def value (depth : Nat) : Reader Json
  | 'n' :: 'u' :: 'l' :: 'l' :: rest => some (.null, rest)
  | 't' :: 'r' :: 'u' :: 'e' :: rest => some (.bool true, rest)
  | 'f' :: 'a' :: 'l' :: 's' :: 'e' :: rest => some (.bool false, rest)
  | '"' :: rest => (stringBody [] rest).map fun (s, rest) => (.string s, rest)
  | '[' :: rest =>
    match depth with
    | 0 => none
    | depth + 1 => (items (value depth) ']' rest).map fun (xs, rest) => (.array xs, rest)
  | '\x7b' :: rest =>
    match depth with
    | 0 => none
    | depth + 1 =>
      (items (member string (value depth)) '\x7d' rest).map fun (ms, rest) => (ofMembers ms, rest)
  | cs => (number cs).map fun (n, rest) => (.number n, rest)

/-- The number of containers that may stand inside one another. -/
def maxDepth : Nat := 127

/-- What a reader takes off a text, when only blanks follow. -/
def all (reader : Reader α) (cs : List Char) : Option α :=
  match reader (afterBlanks cs) with
  | some (a, rest) => if (afterBlanks rest).isEmpty then some a else none
  | none => none

/-- Passes over a string after its opening quote, however its surrogates pair. -/
def skipStringBody : Reader Unit
  | [] => none
  | '"' :: rest => some ((), rest)
  | '\\' :: 'u' :: a :: b :: c :: d :: rest =>
    if (codeUnit? a b c d).isSome then skipStringBody rest else none
  | '\\' :: c :: rest => if (escaped? c).isSome then skipStringBody rest else none
  | c :: rest => if c.toNat < 0x20 then none else skipStringBody rest

/-- Passes over a string. -/
def skipString : Reader Unit
  | '"' :: rest => skipStringBody rest
  | _ => none

/-- Passes over a value with at most `depth` containers inside one another. -/
def skipWithin (depth : Nat) : Reader Unit
  | 'n' :: 'u' :: 'l' :: 'l' :: rest => some ((), rest)
  | 't' :: 'r' :: 'u' :: 'e' :: rest => some ((), rest)
  | 'f' :: 'a' :: 'l' :: 's' :: 'e' :: rest => some ((), rest)
  | '"' :: rest => skipStringBody rest
  | '[' :: rest =>
    match depth with
    | 0 => none
    | depth + 1 => (items (skipWithin depth) ']' rest).map fun (_, rest) => ((), rest)
  | '\x7b' :: rest =>
    match depth with
    | 0 => none
    | depth + 1 =>
      (items (member skipString (skipWithin depth)) '\x7d' rest).map fun (_, rest) => ((), rest)
  | cs => (spelling? cs).map fun (_, rest) => ((), rest)

/-- Passes over a value; no text nests deeper than it is long. -/
def skip : Reader Unit := fun cs =>
  skipWithin cs.length cs

end Reader

/-- The value of a JSON text. -/
def parse (s : String) : Option Json :=
  Reader.all (Reader.value Reader.maxDepth) s.toList

end TamperWatch.Json
