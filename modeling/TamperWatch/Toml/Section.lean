import TamperWatch.Toml.Value

/-!
# TOML sections

How a TOML document builds its tables, statement by statement. A table comes into being by a header
of its own, by a header of a table inside it, or by a dotted key. Only a table of the second kind
may get its own header later, dotted keys go on extending only tables that have no header, and no
key is given a value twice.
-/

namespace TamperWatch.Toml

/-- How a table came into being. -/
inductive Origin where
  /-- By a header of its own, or by braces around it. -/
  | header
  /-- By a header of a table inside it. -/
  | implied
  /-- By a dotted key. -/
  | dotted
  deriving DecidableEq, Repr

/-- What a key leads to in a document that is being read. -/
inductive Node where
  | value (v : Value)
  | table (origin : Origin) (entries : List (String × Node))
  | tables (items : List (List (String × Node)))

/-- A table that is being filled. -/
structure Section where
  origin : Origin
  entries : List (String × Node)

/-- A statement of a document. -/
inductive Statement where
  /-- Begins the table of a path. -/
  | header (path : List String) (key : String)
  /-- Begins one more table in the array of a path. -/
  | arrayHeader (path : List String) (key : String)
  /-- Gives a key at a dotted path a value. -/
  | assign (path : List String) (key : String) (v : Value)

namespace Section

/-- The entries with a new node for a key. -/
def replace (key : String) (node : Node) : List (String × Node) → List (String × Node)
  | [] => [(key, node)]
  | (k, n) :: rest => if k = key then (key, node) :: rest else (k, n) :: replace key node rest

/-- Changes the section at the end of a path below a section. Missing tables on the way are made;
`origin` is how they come into being. Dotted keys do not go into tables with a header. -/
def change (origin : Origin) (f : Section → Option Section) : List String → Section → Option Section
  | [], s => f s
  | key :: path, s => do
    let node ← match s.entries.lookup key with
      | none => do
        let t ← change origin f path ⟨origin, []⟩
        pure (Node.table t.origin t.entries)
      | some (.value _) => none
      | some (.table o entries) => do
        guard (origin ≠ .dotted || o ≠ .header)
        let t ← change origin f path ⟨o, entries⟩
        pure (Node.table t.origin t.entries)
      | some (.tables items) => do
        let last ← items.getLast?
        let t ← change origin f path ⟨.header, last⟩
        pure (Node.tables (items.dropLast ++ [t.entries]))
    return { s with entries := replace key node s.entries }

/-- Gives a key that has no value yet a node. -/
def insert (key : String) (node : Node) (s : Section) : Option Section :=
  match s.entries.lookup key with
  | none => some { s with entries := s.entries ++ [(key, node)] }
  | some _ => none

/-- Gives a key at a dotted path a value. A dotted key ends in a table that came into being by a
dotted key, and any other key in one that did not. -/
def assign (path : List String) (key : String) (v : Value) : Section → Option Section :=
  change .dotted
    (fun t => if (t.origin == .dotted) = path.isEmpty then none else t.insert key (.value v)) path

def beginTable (key : String) (s : Section) : Option Section :=
  match s.entries.lookup key with
  | none => s.insert key (.table .header [])
  | some (.table .implied entries) =>
    some { s with entries := replace key (.table .header entries) s.entries }
  | some _ => none

def pushTable (key : String) (s : Section) : Option Section :=
  match s.entries.lookup key with
  | none => s.insert key (.tables [[]])
  | some (.tables items) =>
    some { s with entries := replace key (.tables (items ++ [[]])) s.entries }
  | some _ => none

/-- A document that is being read: its root, and the path of the table that is being filled. -/
structure Draft where
  root : Section
  current : List String

def Draft.empty : Draft := ⟨⟨.header, []⟩, []⟩

def Draft.add (d : Draft) : Statement → Option Draft
  | .header path key =>
    (d.root.change .implied (beginTable key) path).map fun root => ⟨root, path ++ [key]⟩
  | .arrayHeader path key =>
    (d.root.change .implied (pushTable key) path).map fun root => ⟨root, path ++ [key]⟩
  | .assign path key v =>
    (d.root.change .implied (assign path key v) d.current).map fun root => { d with root }

end Section

mutual

/-- The value of a finished node. -/
def Node.toValue : Node → Value
  | .value v => v
  | .table _ entries => .table (entryValues entries)
  | .tables items => .array (itemValues items)

/-- The values of finished entries. -/
def entryValues : List (String × Node) → List (String × Value)
  | [] => []
  | (k, n) :: rest => (k, n.toValue) :: entryValues rest

/-- The values of finished tables. -/
def itemValues : List (List (String × Node)) → List Value
  | [] => []
  | entries :: rest => .table (entryValues entries) :: itemValues rest

end

/-- The entries of a document with the given statements. -/
def entriesOf? (statements : List Statement) : Option (List (String × Value)) :=
  (statements.foldlM Section.Draft.add .empty).map fun d => entryValues d.root.entries

/-- The entries of a table in braces with the given assignments. -/
def inlineEntries? (assignments : List (List String × String × Value)) :
    Option (List (String × Value)) :=
  let filled? : Option Section :=
    assignments.foldlM (fun s (path, key, v) => s.assign path key v) ⟨.header, []⟩
  filled?.map fun s => entryValues s.entries

end TamperWatch.Toml
