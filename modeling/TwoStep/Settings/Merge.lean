import TwoStep.Number
import TwoStep.Process
import TwoStep.Settings.Value
import TwoStep.Text.LowerCase

/-!
# Layers of settings

A layer is a list of paths with values, and layers are put on top of each
other by assigning one after the other.  Tables merge entry by entry, every
other value replaces what was there.  A path that leads through something that
is no table, or no array where it has a position, replaces it by one; arrays
are filled up with gaps.  A table without entries changes nothing where there
is a value already.

Of two keys that are one in lower case the later entry counts.  Which of them a
file's table hands out later is up to the reader of the file (`Format`).
-/

namespace TwoStep.Settings

/-! ## Paths

A path names a value below the root: a key, then further keys behind points
and positions of arrays in brackets, as in `fees.priority_fee` or `fees[0]`.
Keys are made of letters, digits, blanks, `_` and `-`.  A text that is no path
is taken as one plain key.  All keys are in lower case.
-/

/-- One step of a path. -/
inductive Step where
  | key (name : String)
  | index (i : Int)
  deriving DecidableEq, Repr

/-- A key of the root and the steps below it. -/
structure Path where
  head : String
  steps : List Step
  deriving DecidableEq, Repr

namespace Path

def isKeyChar (c : Char) : Bool :=
  Text.isAsciiLetter c || Text.isAsciiDigit c || c == ' ' || c == '_' || c == '-'

def keyOf (cs : List Char) : String := String.ofList (Text.lower cs)

def keyPart (cs : List Char) : Option (String × List Char) :=
  match cs.takeWhile isKeyChar with
  | [] => none
  | k => some (keyOf k, cs.dropWhile isKeyChar)

/-- Drops the blanks that may stand around a position. -/
def skipBlanks (cs : List Char) : List Char :=
  cs.dropWhile fun c => c == ' ' || c == '\t'

/-- A position behind its opening bracket, and the rest behind the closing
one. -/
def indexPart (cs : List Char) : Option (Int × List Char) :=
  let (negative, cs) := match skipBlanks cs with
    | '-' :: rest => (true, rest)
    | rest => (false, rest)
  let ds := cs.takeWhile Text.isAsciiDigit
  let n : Int := ds.foldl (fun n c => 10 * n + (c.toNat - 48 : Nat)) 0
  let i := if negative then -n else n
  match skipBlanks (cs.dropWhile Text.isAsciiDigit) with
  | ']' :: rest =>
    if ds.isEmpty || !Word.holds i then none else some (i, rest)
  | _ => none

/-- The steps that make up the rest of a text. -/
def stepsPart : Nat → List Char → Option (List Step)
  | _, [] => some []
  | 0, _ => none
  | fuel + 1, c :: cs =>
    if c == '.' then do
      let (k, rest) ← keyPart cs
      return .key k :: (← stepsPart fuel rest)
    else if c == '[' then do
      let (i, rest) ← indexPart cs
      return .index i :: (← stepsPart fuel rest)
    else none

def parse? (cs : List Char) : Option Path := do
  let (head, rest) ← keyPart cs
  return ⟨head, ← stepsPart rest.length rest⟩

/-- The path that a text names, which is a plain key if nothing else. -/
def ofText (s : String) : Path :=
  (parse? s.toList).getD ⟨keyOf s.toList, []⟩

end Path

/-! ## Assignments -/

namespace Value

def entries : Value → List (String × Value)
  | .table es _ => es
  | _ => []

/-- Where a table was read; anything else becomes a table from nowhere. -/
def tableOrigin : Value → Option String
  | .table _ o => o
  | _ => none

def setEntry (key : String) (v : Value) : List (String × Value) → List (String × Value)
  | [] => [(key, v)]
  | (k, old) :: rest => if k = key then (k, v) :: rest else (k, old) :: setEntry key v rest

/-- A value as a table with one entry changed. -/
def withEntry (target : Value) (key : String) (v : Value) : Value :=
  .table (setEntry key v target.entries) target.tableOrigin

mutual

/-- What stands where `incoming` is put on top of `old`. -/
def merged (old : Option Value) : Value → Value
  | .table es _ => mergedEntries (old.getD .empty) es
  | incoming => incoming

/-- Puts the entries of a table on top of a value, one after the other. -/
def mergedEntries (target : Value) : List (String × Value) → Value
  | [] => target
  | (k, v) :: rest =>
    let key := Text.lowered k
    mergedEntries (target.withEntry key (merged (target.entries.lookup key) v)) rest

end

def put (target : Value) (key : String) (v : Value) : Value :=
  target.withEntry key (merged (target.entries.lookup key) v)

/-- The place of a position in an array of some length; negative positions
count from the end. -/
def place (i : Int) (length : Nat) : Option Nat :=
  if 0 ≤ i then some i.toNat
  else if i.natAbs ≤ length then some (length - i.natAbs)
  else none

/-- Changes one item, after filling up with gaps. -/
def modifyItem (n : Nat) (f : Value → Value) (items : List Value) : List Value :=
  (items ++ List.replicate (n + 1 - items.length) gap).modify n f

/-- A value as an array with one item changed. -/
def withItem (target : Value) (i : Int) (f : Value → Value) : Value :=
  let (items, o) := match target with
    | .array items o => (items, o)
    | _ => ([], none)
  match place i items.length with
  | some n => .array (modifyItem n f items) o
  | none => target

/-- Puts a value at the end of some steps below a value. -/
def assignBelow (v : Value) : List Step → Value → Value
  | [], _ => v
  | [.key k], target => target.put k v
  | [.index i], target => target.withItem i fun _ => v
  | .key k :: rest, target =>
    target.withEntry k (assignBelow v rest ((target.entries.lookup k).getD gap))
  | .index i :: rest, target => target.withItem i (assignBelow v rest)

def assign (root : Value) (path : Path) (v : Value) : Value :=
  assignBelow v (.key path.head :: path.steps) root

/-- A list of texts that name paths, each with a value. -/
abbrev Layer := List (String × Value)

def overlay (root : Value) (layer : Layer) : Value :=
  layer.foldl (fun root (name, v) => root.assign (Path.ofText name) v) root

end Value

/-! ## Variables

A variable whose name in lower case starts with `ownership_handoff__` sets the
value at the path behind that, in which `__` stands for a point.  Its text is
a truth value, else an integer, else a float, and else itself.
-/

def variableStart : String := "ownership_handoff__"

/-- A text with each pair of underscores replaced by a point. -/
def dotted : List Char → List Char
  | '_' :: '_' :: rest => '.' :: dotted rest
  | c :: rest => c :: dotted rest
  | [] => []

def pathOfVariable? (name : String) : Option String :=
  let cs := Text.lower name.toList
  if variableStart.toList.isPrefixOf cs then
    some (String.ofList (dotted (cs.drop variableStart.length)))
  else none

/-- An integer of 64 bits with an optional sign. -/
def readInteger (s : String) : Option Int :=
  let (negative, ds) := Binary64.signPart s.toList
  if ds.isEmpty || !ds.all Text.isAsciiDigit then none
  else
    let n : Int := Binary64.natOfDigits ds
    let i := if negative then -n else n
    if Word.holds i then some i else none

def scalarOfText (s : String) : Scalar :=
  let word := Text.lowered s
  if word = "true" then .bool true
  else if word = "false" then .bool false
  else
    match readInteger s with
    | some i => .integer i
    | none =>
      match Binary64.read s with
      | some x => .float x
      | none => .text s

/-- What errors call the variables. -/
def variablesOrigin : String := "the environment"

def layerOfVariables (env : Environment) : Value.Layer :=
  env.filterMap fun (name, text) =>
    (pathOfVariable? name).map fun path =>
      (path, .scalar (scalarOfText text) (some variablesOrigin))

end TwoStep.Settings
