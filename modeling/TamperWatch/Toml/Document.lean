import TamperWatch.Toml.Scalar
import TamperWatch.Toml.Section

/-!
# TOML documents

The reader for whole documents: one statement a line, where the values of a statement may run over
several lines inside brackets and long strings.
-/

namespace TamperWatch.Toml

/-- A character of a key without quotes. -/
def isBare (c : Char) : Bool :=
  c.isAlphanum || c = '_' || c = '-'

/-- A key without dots. -/
def simpleKey : Reader String := fun cs =>
  match cs with
  | '"' :: _ | '\'' :: _ => lineString cs
  | _ =>
    let bare := cs.takeWhile isBare
    if bare.isEmpty then none else some (String.ofList bare, cs.dropWhile isBare)

/-- The number of containers inside one another, and of parts of a key, stays below this. -/
def depthLimit : Nat := 80

/-- The parts of a key, with blanks around each. Every part but the first follows a dot, so the
length of the text bounds their number. -/
def keyParts : Nat → Reader (List String)
  | 0, _ => none
  | more + 1, cs => do
    let (part, cs) ← simpleKey (afterBlanks cs)
    match afterBlanks cs with
    | '.' :: rest =>
      let (parts, rest) ← keyParts more rest
      return (part :: parts, rest)
    | rest => return ([part], rest)

/-- A key: the path to a table, and the last part. -/
def key : Reader (List String × String) := fun cs => do
  let (parts, rest) ← keyParts cs.length.succ cs
  let last ← parts.getLast?
  guard (parts.length < depthLimit)
  return ((parts.dropLast, last), rest)

/-- The text after a comment, which ends before the end of its line. -/
def afterComment (cs : List Char) : List Char :=
  match cs with
  | '#' :: rest => rest.dropWhile isPlain
  | _ => cs

/-- The text after the rest of a line, which may hold a comment only. -/
def afterLine? (cs : List Char) : Option (List Char) :=
  match afterComment (afterBlanks cs) with
  | [] => some []
  | cs => afterNewline? cs

/-- The text after blanks, comments and line ends inside an array. -/
def afterGap : Nat → List Char → List Char
  | 0, cs => cs
  | more + 1, cs =>
    let cs := afterBlanks cs
    match afterNewline? (afterComment cs) with
    | some rest => afterGap more rest
    | none => cs

/-- The text after blanks, comments and line ends. -/
def skipGap (cs : List Char) : List Char :=
  afterGap cs.length.succ cs

/-- The items of an array after its opening bracket. Each item takes a comma or the closing bracket
with it, so the length of the text bounds their number. -/
def arrayItems (value : Reader Value) : Nat → Reader (List Value)
  | 0, _ => none
  | more + 1, cs =>
    match skipGap cs with
    | ']' :: rest => some ([], rest)
    | cs => do
      let (v, cs) ← value cs
      match skipGap cs with
      | ']' :: rest => return ([v], rest)
      | ',' :: rest =>
        let (vs, rest) ← arrayItems value more rest
        return (v :: vs, rest)
      | _ => none

/-- An assignment, up to the end of its value. -/
def assignment (value : Reader Value) : Reader (List String × String × Value) := fun cs => do
  let ((path, last), cs) ← key cs
  let (_, cs) ← mark '=' cs
  let (v, cs) ← value (afterBlanks cs)
  return ((path, last, v), cs)

/-- The assignments of a table in braces after its opening one, when there is at least one. -/
def inlineItems (value : Reader Value) : Nat → Reader (List (List String × String × Value))
  | 0, _ => none
  | more + 1, cs => do
    let (a, cs) ← assignment value cs
    match afterBlanks cs with
    | '\x7d' :: rest => return ([a], rest)
    | ',' :: rest =>
      let (as, rest) ← inlineItems value more rest
      return (a :: as, rest)
    | _ => none

/-- A table in braces after its opening one. It stays on one line and has no comma at its end. -/
def inlineTable (value : Reader Value) : Reader Value := fun cs =>
  match afterBlanks cs with
  | '\x7d' :: rest => some (.table [], rest)
  | cs => do
    let (assignments, rest) ← inlineItems value cs.length.succ cs
    let entries ← inlineEntries? assignments
    return (.table entries, rest)

/-- A value with at most `depth` containers inside one another. -/
def value (depth : Nat) : Reader Value
  | 't' :: 'r' :: 'u' :: 'e' :: rest => some (.boolean true, rest)
  | 'f' :: 'a' :: 'l' :: 's' :: 'e' :: rest => some (.boolean false, rest)
  | '[' :: rest =>
    match depth with
    | 0 => none
    | depth + 1 => (arrayItems (value depth) rest.length.succ rest).map fun (vs, rest) =>
        (.array vs, rest)
  | '\x7b' :: rest =>
    match depth with
    | 0 => none
    | depth + 1 => inlineTable (value depth) rest
  | cs => (string cs).map (fun (s, rest) => (Value.string s, rest)) <|> numeric cs

/-- A header after its opening bracket. -/
def header : Reader Statement := fun cs =>
  match cs with
  | '[' :: cs => do
    let ((path, last), cs) ← key cs
    let (_, cs) ← mark ']' cs
    let (_, cs) ← mark ']' cs
    return (.arrayHeader path last, cs)
  | _ => do
    let ((path, last), cs) ← key cs
    let (_, cs) ← mark ']' cs
    return (.header path last, cs)

/-- A statement, up to the end of its line. -/
def statement : Reader Statement := fun cs => do
  let (s, cs) ← match cs with
    | '[' :: rest => header rest
    | _ => (assignment (value (depthLimit - 1)) cs).map fun ((path, last, v), rest) =>
        (.assign path last v, rest)
  let cs ← afterLine? cs
  return (s, cs)

/-- The statements of a document, on the lines that are not empty. Each takes at least one
character, so the length of the text bounds their number. -/
def statements : Nat → List Char → Option (List Statement)
  | 0, _ => none
  | more + 1, cs =>
    match skipGap cs with
    | [] => some []
    | '#' :: rest => if (afterComment ('#' :: rest)).isEmpty then some [] else none
    | cs => do
      let (s, rest) ← statement cs
      let ss ← statements more rest
      return s :: ss

/-- The entries of a document. A byte order mark at its start does not count. -/
def parse (text : String) : Option (List (String × Value)) :=
  let cs := match text.toList with
    | '\ufeff' :: rest => rest
    | cs => cs
  (statements cs.length.succ cs).bind entriesOf?

end TamperWatch.Toml
