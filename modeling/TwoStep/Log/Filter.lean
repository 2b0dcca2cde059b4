import TwoStep.Log.Record
import TwoStep.Number
import TwoStep.Regex.Parser
import TwoStep.Text.Alphanumeric
import TwoStep.Text.Basic

/-!
# Which records are kept

A filter is a list of directives with commas between them, of which the later
of two about the same subject counts.

A record is judged by the closest directive that speaks about it: the one with
the longest target that the record's own target starts with, and of those one
that names a field of the record before one that names none.

A span that some directive names is kept together with the records inside it,
up to the highest level of the directives whose conditions it fulfils.
-/

namespace TwoStep.Log

/-! ## Conditions on fields

A directive may ask for a field of a span, by its name alone (`contract`) or
with a value (`operation=transfer.*`).  A value that reads as a truth value or a
number asks for just that; any other is a pattern that has to match up to the
end of the field's text.
-/

/-- What the value of a field has to be. -/
inductive Expectation where
  /-- A truth value or a number, which no text is. -/
  | scalar (text : String)
  /-- A text that ends with a match of a pattern. -/
  | pattern (text : String)
  deriving DecidableEq, Repr

namespace Expectation

/-- Reads an expectation; a pattern has to be one. -/
def read? (s : String) : Option Expectation :=
  if s = "true" || s = "false" || (Binary64.read s).isSome then some (.scalar s)
  else (Regex.parse? s).map fun _ => .pattern s

def holds (e : Expectation) (text : String) : Bool :=
  match e with
  | .scalar _ => false
  | .pattern p => ((Regex.parse? p).map (·.endsWith text.toList)).getD false

end Expectation

/-- A field that has to be there, and perhaps what its value has to be. -/
structure Condition where
  field : String
  value : Option Expectation := none
  deriving DecidableEq, Repr

namespace Condition

/-- Reads a condition: a name, and a value behind an equals sign, which ends at
the next one. -/
def read? (cs : List Char) : Option Condition :=
  match (String.ofList cs).splitOn "=" with
  | [] => none
  | [field] => some { field }
  | field :: value :: _ => (Expectation.read? value).map fun e => ⟨field, some e⟩

def isNamed (c : Condition) (names : List String) : Bool := names.contains c.field

def holds (c : Condition) (texts : List (String × String)) : Bool :=
  match texts.lookup c.field, c.value with
  | some text, some e => e.holds text
  | some _, none => true
  | none, _ => false

end Condition

/-! ## Directives

A directive is a level (`info`), a target with a level (`program::part=debug`),
or a span with a level (`[span]=debug`), where the span may be told by its name,
by a condition on its fields (`[{field}]`), or by both; without a level
everything passes.

Levels are written by name, in any case, or as a number; `off` and zero keep
nothing.
-/

/-- One rule of a filter. -/
structure Directive where
  target : Option String := none
  span : Option String := none
  condition : Option Condition := none
  /-- The rank of the most verbose level that is kept. -/
  limit : Nat := 5
  deriving DecidableEq, Repr

/-- Why a text is no filter. -/
inductive FilterFault where
  | malformed
  | badLevel
  | badPattern
  deriving DecidableEq, Repr

def FilterFault.chain : FilterFault → List String
  | .malformed => ["invalid filter directive"]
  | .badLevel => [badLevelText, badLevelText]
  | .badPattern => ["invalid field filter: " ++ badPatternText, badPatternText]
where
  badLevelText : String :=
    "error parsing level filter: expected one of \"off\", \"error\", \"warn\", \"info\", " ++
      "\"debug\", \"trace\", or a number 0-5"
  badPatternText : String := "error building NFA"

namespace Directive

def limitNames : List (String × Nat) := [
  ("off", 0), ("error", 1), ("warn", 2), ("info", 3), ("debug", 4), ("trace", 5)]

/-- Digits as a number, with or without a plus sign. -/
def number? (cs : List Char) : Option Nat :=
  let ds := match cs with
    | '+' :: rest => rest
    | cs => cs
  if ds.isEmpty || !ds.all Char.isDigit then none
  else some (ds.foldl (fun n c => 10 * n + (c.toNat - 48)) 0)

def readLimit? (cs : List Char) : Option Nat :=
  match number? cs with
  | some n => if n ≤ 5 then some n else none
  | none => limitNames.lookup (String.ofList (cs.map Char.toLower))

/-- Reads the limit behind an equals sign, where nothing means everything. -/
def limitBehind (cs : List Char) : Except FilterFault Nat :=
  if cs.isEmpty then .ok 5
  else
    match readLimit? cs with
    | some n => .ok n
    | none => .error .badLevel

/-- A directive without an equals sign: a level, or a target. -/
def ofWord (cs : List Char) : Directive :=
  match readLimit? cs with
  | some n => { limit := n }
  | none => { target := some (String.ofList cs) }

def starts (c : Char) : Bool :=
  c = '[' || c = '-' || c = ':' || c = '_' || Text.isAlphanumeric c

/-- Reads what follows the bracket that closes a span at the position `i` of
the text `cs`; `rest` is the text from behind it on. -/
def readBehindSpan (d : Directive) (cs : List Char) (i : Nat) (rest : List Char) :
    Except FilterFault Directive :=
  match rest with
  | [] => .ok d
  | '=' :: _ => do return { d with limit := ← limitBehind (cs.drop (i + 2)) }
  | _ => .error .malformed

/-- Reads a condition behind its opening brace, which stands in front of the
position `i` of the text `cs`. -/
def readCondition (d : Directive) (cs : List Char) (i : Nat) (inner : List Char) :
    Except FilterFault Directive :=
  let text := inner.takeWhile (· != '\x7d')
  match text, inner.drop text.length with
  | _ :: _, '\x7d' :: ']' :: rest =>
    match Condition.read? ((cs.drop i).take text.length) with
    | some c => readBehindSpan { d with condition := some c } cs (i + text.length + 1) rest
    | none => .error .badPattern
  | _ :: _, '\x7d' :: _ =>
    match Condition.read? ((cs.drop i).take text.length) with
    | some _ => .error .malformed
    | none => .error .badPattern
  | _, _ => .error .malformed

/-- Reads a span behind its opening bracket, which stands in front of the
position `i` of the text `cs`; `inner` is the text from there on without blanks
at the end.  In front of a condition, no name means every span. -/
def readSpan (target : Option String) (cs : List Char) (i : Nat) (inner : List Char) :
    Except FilterFault Directive :=
  let name := inner.takeWhile fun c => c != ']' && c != '\x7b'
  let span := String.ofList ((cs.drop i).take name.length)
  match inner.drop name.length with
  | ']' :: rest => readBehindSpan { target, span := some span } cs (i + name.length) rest
  | _ :: rest =>
    let span := if name.isEmpty then none else some span
    readCondition { target, span } cs (i + name.length + 1) rest
  | [] => .error .malformed

/-- Reads a directive.  Positions are counted without the blanks in front, and
then taken in the whole text: a directive is meant to be written without
blanks. -/
def read (cs : List Char) : Except FilterFault Directive :=
  let text := Text.trim cs
  match text with
  | [] => .error .malformed
  | c :: _ =>
    if !starts c then .error .malformed
    else
      let word := text.takeWhile fun c => c != '=' && c != '['
      let i := word.length
      match text.drop i with
      | [] => .ok (ofWord cs)
      | '[' :: inner =>
        readSpan (if i = 0 then none else some (String.ofList (cs.take i))) cs (i + 1) inner
      | _ => do
        let limit ← limitBehind (cs.drop (i + 1))
        return { target := some (String.ofList (cs.take i)), limit }

/-- Whether the directive is about spans and what happens inside them. -/
def isDynamic (d : Directive) : Bool := d.span.isSome || d.condition.isSome

def asksForValue (d : Directive) : Bool := (d.condition.map (·.value.isSome)).getD false

/-- Whether the directive judges records by themselves.  A condition without a
value does so too: it asks for a field of the record. -/
def isStatic (d : Directive) : Bool := d.span.isNone && !d.asksForValue

def speaksOf (d : Directive) (target : String) : Bool :=
  match d.target with
  | some t => t.toList.isPrefixOf target.toList
  | none => true

def sameSubject (a b : Directive) : Bool :=
  a.target == b.target && a.span == b.span && a.condition == b.condition

end Directive

/-! ## Filters -/

/-- The directives in force. -/
structure Filter where
  directives : List Directive := []
  deriving DecidableEq, Repr

namespace Filter

/-- Reads a filter; nothing between two commas is no directive. -/
def read (s : String) : Except FilterFault Filter := do
  let texts := (s.splitOn ",").filter fun t => !t.isEmpty
  return ⟨← texts.mapM fun t => Directive.read t.toList⟩

/-- How closely a directive describes a record; no target at all is the least. -/
def closeness (d : Directive) : Nat × String :=
  let target := match d.target with
    | some t => t.utf8ByteSize + 1
    | none => 0
  match d.condition with
  | some c => (2 * target + 1, c.field)
  | none => (2 * target, "")

/-- Whether the first of two directives is closer; of two that name a field the
one with the greater name counts as closer. -/
def isCloser (a b : Directive) : Bool :=
  let (m, x) := closeness a
  let (n, y) := closeness b
  n < m || (n = m && y < x)

/-- The closer of two directives, the later one if they are equally close. -/
def closer : Option Directive → Directive → Option Directive
  | some best, d => if isCloser best d then some best else some d
  | none, d => some d

/-- Whether the directives about records keep a level of a target; `names` are
the names of the record's fields, and a span is judged without them. -/
def admits (f : Filter) (level : Level) (target : String) (names : Option (List String)) :
    Bool :=
  let asks (d : Directive) : Bool := match names, d.condition with
    | some names, some c => c.isNamed names
    | _, _ => true
  let speaking := f.directives.filter fun d => d.isStatic && d.speaksOf target && asks d
  match speaking.foldl closer none with
  | some d => level.rank ≤ d.limit
  | none => false

/-- The most verbose rank that can be kept.  A condition on values keeps
everything in play, since values are not known beforehand. -/
def limit (f : Filter) : Nat :=
  if f.directives.any (·.asksForValue) then Level.trace.rank
  else (f.directives.map (·.limit)).foldl max 0

/-- Directives without those that a later one about the same replaces. -/
def current : List Directive → List Directive
  | [] => []
  | d :: rest => if rest.any d.sameSubject then current rest else d :: current rest

def naming (f : Filter) : List Directive :=
  (current (f.directives.filter (·.isDynamic))).filter fun d =>
    d.speaksOf Span.target && (d.span.map (· == Span.name)).getD true &&
      (d.condition.map (·.isNamed Span.fieldNames)).getD true

/-- The limit that the directives about a span set for the records inside. -/
def spanLimit (f : Filter) (s : Span) : Nat :=
  let fulfilled := f.naming.filter fun d => (d.condition.map (·.holds s.texts)).getD true
  (fulfilled.map (·.limit)).foldl max 0

def keepsSpan (f : Filter) : Bool :=
  (!f.naming.isEmpty && Span.level.rank ≤ f.limit) || f.admits Span.level Span.target none

/-- Whether a record is kept; `span` is the span around it that is kept. -/
def keeps (f : Filter) (span : Option Span) (r : Record) : Bool :=
  (span.map fun s => decide (r.level.rank ≤ f.spanLimit s)).getD false ||
    f.admits r.level r.target (some r.fieldNames)

end Filter

end TwoStep.Log
