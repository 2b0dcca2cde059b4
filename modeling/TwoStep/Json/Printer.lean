import TwoStep.Hex

/-!
# JSON documents and their text

A document is a tree, which is written in a compact form or an indented one.
-/

namespace TwoStep

/-! ## Documents

Numbers keep the parts they are written with, so that an integer can be told
from a number with a point or an exponent, and objects keep the order and the
repetitions of their members.  A string whose escapes leave half of a surrogate
pair names no text; it is still well formed as JSON, and stands in the tree as
`unreadable`, as does an object with such a name among its members.
-/

/-- The parts of a written number. -/
structure Json.Number where
  negative : Bool := false
  whole : Nat
  fraction : Option (List Nat) := none
  exponent : Option Int := none
  deriving DecidableEq, Repr

/-- A JSON document. -/
inductive Json where
  | null
  | bool (b : Bool)
  | number (n : Json.Number)
  | string (s : String)
  | unreadable
  | array (items : List Json)
  | object (members : List (String × Json))

namespace Json

def nat (n : Nat) : Json := .number { whole := n }

/-- The natural number a JSON number spells without sign, point or
exponent. -/
def Number.toNat? (n : Number) : Option Nat :=
  if n.negative || n.fraction.isSome || n.exponent.isSome then none else some n.whole

/-- The first member of an object with a given name. -/
def get? (j : Json) (name : String) : Option Json :=
  match j with
  | .object members => members.lookup name
  | _ => none

end Json

/-! ## Writing JSON

`Json.compact` writes a document without blanks, `Json.pretty` with one member
or item per line, two blanks deeper for each level.  In strings the quote, the
backslash and the control characters are escaped, and nothing else.
-/

namespace Json

def escapedChar (c : Char) : List Char :=
  if c = '"' then ['\\', '"']
  else if c = '\\' then ['\\', '\\']
  else if c = '\n' then ['\\', 'n']
  else if c = '\r' then ['\\', 'r']
  else if c = '\t' then ['\\', 't']
  else if c = '\x08' then ['\\', 'b']
  else if c = '\x0c' then ['\\', 'f']
  else if c.toNat < 0x20 then ['\\', 'u'] ++ Hex.digits 4 c.toNat
  else [c]

def quotedText (s : String) : List Char :=
  '"' :: s.toList.flatMap escapedChar ++ ['"']

/-- A number as it was written, with a plain exponent. -/
def numberText (n : Number) : List Char :=
  (if n.negative then ['-'] else []) ++ Nat.toDigits 10 n.whole ++
    (match n.fraction with
      | some ds => '.' :: ds.flatMap (Nat.toDigits 10)
      | none => []) ++
    (match n.exponent with
      | some e => 'e' :: (toString e).toList
      | none => [])

mutual

/-- A document without blanks. -/
def compactText : Json → List Char
  | .null => "null".toList
  | .bool true => "true".toList
  | .bool false => "false".toList
  | .number n => numberText n
  | .string s => quotedText s
  | .unreadable => "\"\\ud800\"".toList
  | .array items => '[' :: compactItems items ++ [']']
  | .object members => '\x7b' :: compactMembers members ++ ['\x7d']

def compactItems : List Json → List Char
  | [] => []
  | [j] => compactText j
  | j :: rest => compactText j ++ ',' :: compactItems rest

def compactMembers : List (String × Json) → List Char
  | [] => []
  | [(name, j)] => quotedText name ++ ':' :: compactText j
  | (name, j) :: rest => quotedText name ++ ':' :: compactText j ++ ',' :: compactMembers rest

end

def compact (j : Json) : String :=
  String.ofList (compactText j)

def lineBreak (level : Nat) : List Char :=
  '\n' :: List.replicate (2 * level) ' '

mutual

/-- A document spread over lines, its first line at a given level. -/
def prettyText (level : Nat) : Json → List Char
  | .array [] => ['[', ']']
  | .array (j :: rest) =>
    '[' :: prettyItems (level + 1) (j :: rest) ++ lineBreak level ++ [']']
  | .object [] => ['\x7b', '\x7d']
  | .object (m :: rest) =>
    '\x7b' :: prettyMembers (level + 1) (m :: rest) ++ lineBreak level ++ ['\x7d']
  | j => compactText j

def prettyItems (level : Nat) : List Json → List Char
  | [] => []
  | [j] => lineBreak level ++ prettyText level j
  | j :: rest => lineBreak level ++ prettyText level j ++ ',' :: prettyItems level rest

def prettyMembers (level : Nat) : List (String × Json) → List Char
  | [] => []
  | [(name, j)] => lineBreak level ++ quotedText name ++ ':' :: ' ' :: prettyText level j
  | (name, j) :: rest =>
    lineBreak level ++ quotedText name ++ ':' :: ' ' :: prettyText level j ++
      ',' :: prettyMembers level rest

end

def pretty (j : Json) : String :=
  String.ofList (prettyText 0 j)

end Json

end TwoStep
