import TwoStep.Number

/-!
# TOML documents

A document is a tree.  While it is read, its tables are still open.
-/

namespace TwoStep

/-! ## Values

Dates and times are kept as the text in which they are written out again.
-/

/-- A TOML value; a document is a table. -/
inductive Toml where
  | string (s : String)
  | integer (i : Int)
  | float (x : Binary64)
  | boolean (b : Bool)
  | datetime (text : String)
  | array (items : List Toml)
  | table (entries : List (String × Toml))

namespace Toml

/-- Characters that may stand in a line of a document: tabs and all that are
not control characters. -/
def isLineChar (c : Char) : Bool :=
  c == '\t' || (0x20 ≤ c.toNat && c.toNat != 0x7f)

/-- The two blanks inside a line. -/
def isSpace (c : Char) : Bool := c == ' ' || c == '\t'

def skipSpaces (cs : List Char) : List Char := cs.dropWhile isSpace

def lineEnd? : List Char → Option (List Char)
  | '\n' :: rest => some rest
  | '\r' :: '\n' :: rest => some rest
  | _ => none

def skipComment : List Char → List Char
  | '#' :: rest => rest.dropWhile isLineChar
  | cs => cs

end Toml

/-! ## Tables under construction

While a document is read, each table remembers how it came about.  A table is
implicit as long as only longer paths have mentioned it, and dotted if a key
with points made it.  These marks decide what may still be added: a header may
claim an implicit table once, keys with points may extend only what such keys
made, and a plain value, an array or an inline table is closed.
-/

namespace Toml

/-- An entry of a table under construction; `tables` holds the tables of an
array written with double brackets, the newest first. -/
inductive Node where
  | leaf (value : Toml)
  | table (implicit dotted : Bool) (entries : List (String × Node))
  | tables (items : List (List (String × Node)))

/-- The entries of a table under construction. -/
abbrev Entries := List (String × Node)

namespace Entries

def set (entries : Entries) (key : String) (node : Node) : Entries :=
  match entries with
  | [] => [(key, node)]
  | (k, old) :: rest => if k = key then (k, node) :: rest else (k, old) :: set rest key node

/-- Changes the table at the end of a path.  Missing tables on the way are
made, implicit and with the mark `dotted`; on a dotted path all tables must be
implicit.  The change is told whether the table it gets is dotted itself. -/
def within (dotted : Bool) (change : Bool → Entries → Option Entries) :
    List String → Bool → Entries → Option Entries
  | [], here, entries => change here entries
  | key :: path, _, entries =>
    match entries.lookup key with
    | none =>
      (within dotted change path dotted []).map fun inner =>
        entries.set key (.table true dotted inner)
    | some (.leaf _) => none
    | some (.tables (newest :: older)) =>
      (within dotted change path false newest).map fun inner =>
        entries.set key (.tables (inner :: older))
    | some (.tables []) => none
    | some (.table implicit here inner) =>
      if dotted && !implicit then none
      else (within dotted change path here inner).map fun inner =>
        entries.set key (.table implicit here inner)

def splitLast : List String → Option (List String × String)
  | [] => none
  | [key] => some ([], key)
  | key :: rest => (splitLast rest).map fun (path, last) => (key :: path, last)

/-- Adds a value under a key with points.  The key must be new, and a table
made by such keys takes entries through them only. -/
def insert (entries : Entries) (here : Bool) (path : List String) (value : Toml) :
    Option Entries := do
  let (path, key) ← splitLast path
  within true (fun here entries =>
    if here == path.isEmpty then none
    else if (entries.lookup key).isSome then none
    else some (entries ++ [(key, .leaf value)])) path here entries

def openTable (root : Entries) (path : List String) : Option Entries := do
  let (path, key) ← splitLast path
  within false (fun _ entries =>
    match entries.lookup key with
    | none => some (entries ++ [(key, .table false false [])])
    | some (.table true false inner) => some (entries.set key (.table false false inner))
    | some _ => none) path false root

/-- Opens a new table of an array of tables. -/
def openElement (root : Entries) (path : List String) : Option Entries := do
  let (path, key) ← splitLast path
  within false (fun _ entries =>
    match entries.lookup key with
    | none => some (entries ++ [(key, .tables [[]])])
    | some (.tables items) => some (entries.set key (.tables ([] :: items)))
    | some _ => none) path false root

def insertUnder (root : Entries) (header path : List String) (value : Toml) : Option Entries :=
  within false (fun here entries => entries.insert here path value) header false root

end Entries

mutual

def Node.toToml : Node → Toml
  | .leaf v => v
  | .table _ _ entries => .table (finishEntries entries)
  | .tables items => .array (finishTables items).reverse

def finishEntries : List (String × Node) → List (String × Toml)
  | [] => []
  | (k, n) :: rest => (k, n.toToml) :: finishEntries rest

def finishTables : List (List (String × Node)) → List Toml
  | [] => []
  | t :: rest => .table (finishEntries t) :: finishTables rest

end

end Toml

end TwoStep
