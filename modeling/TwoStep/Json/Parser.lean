import TwoStep.Hex
import TwoStep.Json.Printer

/-!
# Reading JSON

A text is read as a document, and a document as values of other types.
-/

namespace TwoStep.Json

/-! ## Text

A strict reader: blanks are the four of the standard, numbers have no leading
zero, strings hold no raw control character, and nothing but blanks may follow
the document.  Nesting is not limited; the recursion is bounded by twice the
length of the text, which every nested call uses up.
-/

def skip (cs : List Char) : List Char :=
  cs.dropWhile fun c => c = ' ' || c = '\n' || c = '\t' || c = '\r'

/-- A piece of a string: a character, or the number behind a `\u`. -/
inductive Piece where
  | char (c : Char)
  | unit (n : Nat)

def hexUnit (ds : List Char) : Option Nat :=
  (ds.foldl (fun acc c =>
    match acc, Hex.value? (UInt8.ofNat (if c.toNat < 128 then c.toNat else 0)) with
    | some n, some v => some (16 * n + v)
    | _, _ => none) (some 0))

def escapeOf (c : Char) : Option Char :=
  if c = '"' || c = '\\' || c = '/' then some c
  else if c = 'b' then some '\x08'
  else if c = 'f' then some '\x0c'
  else if c = 'n' then some '\n'
  else if c = 'r' then some '\r'
  else if c = 't' then some '\t'
  else none

/-- The pieces of a string up to its closing quote, and the rest. -/
def pieces : List Char → Option (List Piece × List Char)
  | [] => none
  | '"' :: rest => some ([], rest)
  | '\\' :: 'u' :: a :: b :: c :: d :: rest =>
    match hexUnit [a, b, c, d] with
    | some n => (pieces rest).map fun (ps, r) => (.unit n :: ps, r)
    | none => none
  | '\\' :: e :: rest =>
    match escapeOf e with
    | some c => (pieces rest).map fun (ps, r) => (.char c :: ps, r)
    | none => none
  | c :: rest =>
    if c.toNat < 0x20 || c = '\\' then none
    else (pieces rest).map fun (ps, r) => (.char c :: ps, r)

/-- Whether a number is the first half of a surrogate pair. -/
def isHigh (n : Nat) : Bool := 0xd800 ≤ n && n < 0xdc00

def isLow (n : Nat) : Bool := 0xdc00 ≤ n && n < 0xe000

/-- The text of the pieces, if every surrogate has its other half. -/
def join : List Piece → Option (List Char)
  | [] => some []
  | .char c :: rest => (join rest).map (c :: ·)
  | .unit h :: .unit l :: rest =>
    if isHigh h then
      if isLow l then
        (join rest).map (Char.ofNat (0x10000 + (h - 0xd800) * 0x400 + (l - 0xdc00)) :: ·)
      else none
    else if isLow h then none
    else (join (.unit l :: rest)).map (Char.ofNat h :: ·)
  | .unit n :: rest =>
    if isHigh n || isLow n then none else (join rest).map (Char.ofNat n :: ·)

def isDigit (c : Char) : Bool := '0' ≤ c && c ≤ '9'

def digitValues (cs : List Char) : List Nat :=
  cs.map fun c => c.toNat - 48

def ofDigits (ds : List Nat) : Nat :=
  ds.foldl (fun acc d => 10 * acc + d) 0

def wholePart (cs : List Char) : Option (Nat × List Char) :=
  match cs.takeWhile isDigit with
  | [] => none
  | ['0'] => some (0, cs.dropWhile isDigit)
  | '0' :: _ => none
  | ds => some (ofDigits (digitValues ds), cs.dropWhile isDigit)

def fractionPart : List Char → Option (Option (List Nat) × List Char)
  | '.' :: cs =>
    match cs.takeWhile isDigit with
    | [] => none
    | ds => some (some (digitValues ds), cs.dropWhile isDigit)
  | cs => some (none, cs)

def exponentPart : List Char → Option (Option Int × List Char)
  | c :: cs =>
    if c = 'e' || c = 'E' then
      let (sign, cs) : Int × List Char := match cs with
        | '-' :: r => (-1, r)
        | '+' :: r => (1, r)
        | r => (1, r)
      match cs.takeWhile isDigit with
      | [] => none
      | ds => some (some (sign * ofDigits (digitValues ds)), cs.dropWhile isDigit)
    else some (none, c :: cs)
  | [] => some (none, [])

def numberPart (cs : List Char) : Option (Number × List Char) := do
  let (negative, cs) := match cs with
    | '-' :: r => (true, r)
    | r => (false, r)
  let (whole, cs) ← wholePart cs
  let (fraction, cs) ← fractionPart cs
  let (exponent, cs) ← exponentPart cs
  return ({ negative, whole, fraction, exponent }, cs)

def word (w : List Char) (j : Json) (cs : List Char) : Option (Json × List Char) :=
  if w.isPrefixOf cs then some (j, cs.drop w.length) else none

/-- The object with the given members; a name that is no text makes the whole
object unreadable. -/
def objectOf (members : List (Option (String × Json))) : Json :=
  match members.mapM id with
  | some ms => .object ms
  | none => .unreadable

mutual

/-- A document at the front of a text, and the rest. -/
def valuePart : Nat → List Char → Option (Json × List Char)
  | 0, _ => none
  | fuel + 1, cs =>
    match skip cs with
    | '"' :: rest => do
      let (ps, r) ← pieces rest
      match join ps with
      | some s => some (.string (String.ofList s), r)
      | none => some (.unreadable, r)
    | '[' :: rest =>
      match skip rest with
      | ']' :: r => some (.array [], r)
      | rest => (itemsPart fuel rest).map fun (js, r) => (.array js, r)
    | '\x7b' :: rest =>
      match skip rest with
      | '\x7d' :: r => some (.object [], r)
      | rest => (membersPart fuel rest).map fun (ms, r) => (objectOf ms, r)
    | 'n' :: rest => word "null".toList .null ('n' :: rest)
    | 't' :: rest => word "true".toList (.bool true) ('t' :: rest)
    | 'f' :: rest => word "false".toList (.bool false) ('f' :: rest)
    | rest => (numberPart rest).map fun (n, r) => (.number n, r)

def itemsPart : Nat → List Char → Option (List Json × List Char)
  | 0, _ => none
  | fuel + 1, cs => do
    let (j, cs) ← valuePart fuel cs
    match skip cs with
    | ']' :: r => some ([j], r)
    | ',' :: r => (itemsPart fuel r).map fun (js, r) => (j :: js, r)
    | _ => none

/-- One or more members up to the closing brace, `none` for one whose name is
no text. -/
def membersPart : Nat → List Char → Option (List (Option (String × Json)) × List Char)
  | 0, _ => none
  | fuel + 1, cs =>
    match skip cs with
    | '"' :: rest => do
      let (ps, cs) ← pieces rest
      match skip cs with
      | ':' :: cs => do
        let (j, cs) ← valuePart fuel cs
        let member? := (join ps).map fun name => (String.ofList name, j)
        match skip cs with
        | '\x7d' :: r => some ([member?], r)
        | ',' :: r => (membersPart fuel r).map fun (ms, r) => (member? :: ms, r)
        | _ => none
      | _ => none
    | _ => none

end

def parseChars (cs : List Char) : Option Json :=
  match valuePart (2 * cs.length + 2) cs with
  | some (j, rest) => if (skip rest).isEmpty then some j else none
  | none => none

def parse (s : String) : Option Json :=
  parseChars s.toList

/-! ## Typed reading

How a record, a choice and the plain values are taken from a document.  A
record is an object in which every member may stand in any order and members
of other names are passed over, or an array of exactly its fields in order.  A
choice is an object with exactly one member, whose name selects the case; a
case without content may also be just its name.
-/

def asString : Json → Option String
  | .string s => some s
  | _ => none

def asBool : Json → Option Bool
  | .bool b => some b
  | _ => none

def asNatBelow (bound : Nat) : Json → Option Nat
  | .number n => n.toNat?.filter (· < bound)
  | _ => none

def asBytes : Json → Option (List Nat)
  | .array items => items.mapM (asNatBelow 256)
  | _ => none

/-- The values of the named fields of a record, missing ones as `none`. -/
def fields (names : List String) : Json → Option (List (Option Json))
  | .object members =>
    if names.all fun n => (members.filter (·.1 = n)).length ≤ 1 then
      some (names.map fun n => members.lookup n)
    else none
  | .array items => if items.length = names.length then some (items.map some) else none
  | _ => none

/-- A field that must be there. -/
def required {α : Type} (decode : Json → Option α) (field : Option Json) : Option α :=
  field.bind decode

/-- A field that may be missing or null. -/
def optional {α : Type} (decode : Json → Option α) : Option Json → Option (Option α)
  | none => some none
  | some .null => some none
  | some j => (decode j).map some

/-- The name and the content of a choice; a bare name has null as content. -/
def choice : Json → Option (String × Json)
  | .string name => some (name, .null)
  | .object [(name, content)] => some (name, content)
  | _ => none

def unitCase {α : Type} (a : α) : Json → Option α
  | .null => some a
  | _ => none

def record1 {α β : Type} (name : String) (decode : Json → Option α) (f : α → β) (j : Json) :
    Option β :=
  match fields [name] j with
  | some [a] => (required decode a).map f
  | _ => none

end TwoStep.Json
