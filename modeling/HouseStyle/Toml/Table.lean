import HouseStyle.Value

/-!
# Tables of TOML documents

A document is a table that grows statement by statement. TOML lets several statements add to one
table, but each table is defined by one section only: `Node.table` remembers that section, and a
table that was only passed on the way to another one has none yet.

Main definitions:
* `Node`, `Entries`: the tables under construction.
* `Entries.define`: the statement `a.b = value` inside a table.
* `Entries.openTable`, `Entries.addTable`: the headers `[a.b]` and `[[a.b]]`.
* `Entries.toValue`: the finished table.
-/

namespace HouseStyle.Toml

/-- An entry of a table under construction. -/
inductive Node where
  /-- A value, with all that is inside it. It stays as it is. -/
  | value (v : Value)
  /-- A table, with the section that defines it if there is one. -/
  | table (definedBy : Option Nat) (entries : List (Text × Node))
  /-- A list of tables. The last one still grows. -/
  | tables (earlier : List (List (Text × Node))) (last : List (Text × Node))

/-- The entries of a table in order of insertion. -/
abbrev Entries := List (Text × Node)

namespace Entries

/-- Replaces the node of a key that is present. -/
def replace (key : Text) (node : Node) (es : Entries) : Entries :=
  es.map fun e => if e.1 = key then (key, node) else e

/-- The statement that gives a dotted key a value: tables on the way belong to the same section or to
    none, and the key is new. -/
def define (number : Nat) : List Text → Text → Value → Entries → Option Entries
  | [], key, v, es =>
    match es.lookup key with
    | some _ => none
    | none => some (es ++ [(key, .value v)])
  | k :: ks, key, v, es =>
    match es.lookup k with
    | none => (define number ks key v []).map fun sub => es ++ [(k, .table (some number) sub)]
    | some (.table owner sub) =>
      if owner = none || owner = some number then
        (define number ks key v sub).map fun sub => es.replace k (.table (some number) sub)
      else none
    | some _ => none

/-- Changes the entries of the table at a path. Missing tables are made, and a list of tables stands
    for its last one. -/
def modifyAt (f : Entries → Option Entries) : List Text → Entries → Option Entries
  | [], es => f es
  | k :: ks, es =>
    match es.lookup k with
    | none => (modifyAt f ks []).map fun sub => es ++ [(k, .table none sub)]
    | some (.table owner sub) => (modifyAt f ks sub).map fun sub => es.replace k (.table owner sub)
    | some (.tables earlier last) =>
      (modifyAt f ks last).map fun last => es.replace k (.tables earlier last)
    | some (.value _) => none

/-- The header of a table: the table is new, or no section defines it yet. -/
def openTable (number : Nat) (path : List Text) (key : Text) : Entries → Option Entries :=
  modifyAt (fun es =>
    match es.lookup key with
    | none => some (es ++ [(key, .table (some number) [])])
    | some (.table none sub) => some (es.replace key (.table (some number) sub))
    | some _ => none) path

/-- The header of a further table in a list of tables. -/
def addTable (path : List Text) (key : Text) : Entries → Option Entries :=
  modifyAt (fun es =>
    match es.lookup key with
    | none => some (es ++ [(key, .tables [] [])])
    | some (.tables earlier last) => some (es.replace key (.tables (earlier ++ [last]) []))
    | some _ => none) path

end Entries

mutual

/-- The value of a node. -/
def Node.toValue : Node → Value
  | .value v => v
  | .table _ es => .table (Entries.toPairs es)
  | .tables earlier last =>
    .list (Entries.toTables earlier ++ [.table (Entries.toPairs last)])

/-- The entries of a finished table. -/
def Entries.toPairs : List (Text × Node) → List (Value × Value)
  | [] => []
  | (k, n) :: es => (.text k, n.toValue) :: Entries.toPairs es

/-- The finished tables of a list. -/
def Entries.toTables : List (List (Text × Node)) → List Value
  | [] => []
  | es :: ts => .table (Entries.toPairs es) :: Entries.toTables ts

end

end HouseStyle.Toml
