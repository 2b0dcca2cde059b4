import TwoStep.Toml.Basic
import TwoStep.Toml.Scalar

/-!
# Reading TOML

A document is a sequence of lines: blank, comment, a header in single or
double brackets, or a key with its value.  Arrays may run over several lines
and hold comments; inline tables may not.  Nothing is said about why a text is
refused.
-/

namespace TwoStep.Toml

def skipLines : Nat → List Char → List Char
  | 0, cs => cs
  | fuel + 1, cs =>
    match skipSpaces cs with
    | '#' :: rest => skipLines fuel (rest.dropWhile isLineChar)
    | cs =>
      match lineEnd? cs with
      | some rest => skipLines fuel rest
      | none => cs

mutual

/-- A value at the front of a text, and the rest; `depth` more brackets may be
opened. -/
def valuePart (depth : Nat) : Nat → List Char → Option (Toml × List Char)
  | 0, _ => none
  | fuel + 1, cs =>
    match cs with
    | '[' :: rest =>
      if depth = 0 then none
      else (itemsPart (depth - 1) fuel rest).map fun (items, rest) => (.array items, rest)
    | '\x7b' :: rest =>
      if depth = 0 then none
      else
        match skipSpaces rest with
        | '\x7d' :: rest => some (.table [], rest)
        | rest => (pairsPart (depth - 1) fuel [] rest).map fun (entries, rest) =>
          (.table (finishEntries entries), rest)
    | cs => scalarPart cs

/-- The items of an array up to its closing bracket. -/
def itemsPart (depth : Nat) : Nat → List Char → Option (List Toml × List Char)
  | 0, _ => none
  | fuel + 1, cs =>
    match skipLines cs.length cs with
    | ']' :: rest => some ([], rest)
    | cs => do
      let (v, cs) ← valuePart depth fuel cs
      match skipLines cs.length cs with
      | ',' :: rest => (itemsPart depth fuel rest).map fun (vs, rest) => (v :: vs, rest)
      | ']' :: rest => some ([v], rest)
      | _ => none

/-- The pairs of an inline table up to its closing brace. -/
def pairsPart (depth : Nat) : Nat → Entries → List Char → Option (Entries × List Char)
  | 0, _, _ => none
  | fuel + 1, entries, cs => do
    let (path, cs) ← keyPart cs
    let cs ← behind '=' cs
    let (v, cs) ← valuePart depth fuel (skipSpaces cs)
    let entries ← entries.insert false path v
    match skipSpaces cs with
    | ',' :: rest => pairsPart depth fuel entries rest
    | '\x7d' :: rest => some (entries, rest)
    | _ => none

end

/-- The rest of a line behind its content: blanks, a comment and the line end,
or the end of the text. -/
def endOfLine (cs : List Char) : Option (List Char) :=
  match skipComment (skipSpaces cs) with
  | [] => some []
  | cs => lineEnd? cs

/-- What a document looks like so far: all entries, and the path of the header
under which new keys go. -/
structure Progress where
  root : Entries := []
  header : List String := []

def linePart (p : Progress) (cs : List Char) : Option (Progress × List Char) :=
  match cs with
  | '[' :: '[' :: rest => do
    let (path, rest) ← keyPart rest
    let rest ← behind ']' rest
    let rest ← behind ']' rest
    let rest ← endOfLine rest
    return (⟨← p.root.openElement path, path⟩, rest)
  | '[' :: rest => do
    let (path, rest) ← keyPart rest
    let rest ← behind ']' rest
    let rest ← endOfLine rest
    return (⟨← p.root.openTable path, path⟩, rest)
  | cs => do
    let (path, rest) ← keyPart cs
    let rest ← behind '=' rest
    let (v, rest) ← valuePart (depthLimit - 1) (2 * cs.length + 2) (skipSpaces rest)
    let rest ← endOfLine rest
    return ({ p with root := ← p.root.insertUnder p.header path v }, rest)

def linesPart : Nat → Progress → List Char → Option Progress
  | 0, _, _ => none
  | fuel + 1, p, cs =>
    match skipLines cs.length cs with
    | [] => some p
    | cs => do
      let (p, rest) ← linePart p cs
      linesPart fuel p rest

def parse (s : String) : Option Toml :=
  let cs := s.toList
  (linesPart (cs.length + 1) {} cs).map fun p => .table (finishEntries p.root)

end TwoStep.Toml
