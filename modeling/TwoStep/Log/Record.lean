import TwoStep.Json.Printer
import TwoStep.Text.Quoted

/-!
# The log

What the program says about its work, and how it is written.
-/

namespace TwoStep.Log

/-! ## Records

A record has a level, the part of the program that speaks (its target), a
message and named fields.  A field's value is a plain text, a text that was
already laid out for display, or a number; only the first kind is quoted when
a record is written for a terminal.  While a hand-over is under way its
records belong to a span.
-/

/-- How important a record is. -/
inductive Level where
  | error
  | warn
  | info
  | debug
  | trace
  deriving DecidableEq, Repr

/-- A rank that grows with verbosity; zero is left for "nothing". -/
def Level.rank : Level → Nat
  | .error => 1
  | .warn => 2
  | .info => 3
  | .debug => 4
  | .trace => 5

def Level.name : Level → String
  | .error => "ERROR"
  | .warn => "WARN"
  | .info => "INFO"
  | .debug => "DEBUG"
  | .trace => "TRACE"

/-- The value of a field. -/
inductive Value where
  | text (s : String)
  | shown (s : String)
  | number (n : Nat)
  deriving DecidableEq, Repr

/-- One entry of the log. -/
structure Record where
  level : Level
  target : String
  message : String
  fields : List (String × Value) := []
  deriving DecidableEq, Repr

def Record.fieldNames (r : Record) : List String := "message" :: r.fields.map (·.1)

/-- The hand-over to which the records inside it belong. -/
structure Span where
  operation : String
  contract : String
  correlationId : String
  deriving DecidableEq, Repr

namespace Span

def name : String := "ownership_transfer"

def target : String := "ownership_handoff::telemetry"

def level : Level := .info

def texts (s : Span) : List (String × String) := [
  ("operation", s.operation), ("contract", s.contract), ("correlation.id", s.correlationId)]

def fieldNames : List String := ["operation", "contract", "correlation.id"]

def fields (s : Span) : List (String × Value) :=
  s.texts.map fun (name, text) => (name, .text text)

end Span

/-! ## Entries

An entry is a record with the span it belongs to, if any.  Entries are written
to the standard error stream, one in a line, as JSON or for a terminal, with or
without colours.
-/

/-- A record and the span around it. -/
structure Entry where
  record : Record
  span : Option Span := none
  deriving DecidableEq, Repr

/-- How entries are written. -/
inductive Style where
  | json
  | terminal (coloured : Bool)
  deriving DecidableEq, Repr

/-! ## JSON -/

def Value.toJson : Value → Json
  | .text s => .string s
  | .shown s => .string s
  | .number n => .nat n

def members (fields : List (String × Value)) : List (String × Json) :=
  fields.map fun (name, v) => (name, v.toJson)

def Span.toJson (s : Span) : Json :=
  .object (members s.fields ++ [("name", .string Span.name)])

/-- The members of an entry, but for its time. -/
def Entry.toMembers (e : Entry) : List (String × Json) :=
  let span := match e.span with
    | some s => [("span", s.toJson), ("spans", .array [s.toJson])]
    | none => []
  [("level", .string e.record.level.name),
    ("fields", .object (("message", .string e.record.message) :: members e.record.fields)),
    ("target", .string e.record.target)] ++ span

/-! ## Terminal -/

def rendered (coloured : Bool) (code : Nat) (s : String) : String :=
  if coloured then s!"\x1b[{code}m{s}\x1b[0m" else s

def faint : Nat := 2

def bold : Nat := 1

def slanted : Nat := 3

def Level.colour : Level → Nat
  | .error => 31
  | .warn => 33
  | .info => 32
  | .debug => 34
  | .trace => 35

def Level.column (l : Level) : String :=
  String.ofList (List.replicate (5 - l.name.length) ' ') ++ l.name

/-- A field's value for a terminal; only plain texts are quoted. -/
def Value.display : Value → String
  | .text s => Text.quoted s
  | .shown s => s
  | .number n => toString n

def fieldText (coloured : Bool) (field : String × Value) : String :=
  rendered coloured slanted field.1 ++ rendered coloured faint "=" ++ field.2.display

def Span.text (coloured : Bool) (s : Span) : String :=
  rendered coloured bold Span.name ++ rendered coloured bold "\x7b" ++
    " ".intercalate (s.fields.map (fieldText coloured)) ++
    rendered coloured bold "\x7d" ++ rendered coloured faint ":" ++ " "

def Entry.text (coloured : Bool) (time : String) (e : Entry) : String :=
  let span := match e.span with
    | some s => s.text coloured
    | none => ""
  rendered coloured faint time ++ " " ++
    rendered coloured e.record.level.colour e.record.level.column ++ " " ++ span ++
    rendered coloured faint e.record.target ++ rendered coloured faint ":" ++ " " ++
    e.record.message ++
    String.join (e.record.fields.map fun f => " " ++ fieldText coloured f)

/-! ## Lines -/

def Entry.line (style : Style) (time : String) (e : Entry) : String :=
  match style with
  | .json => (Json.object (("timestamp", .string time) :: e.toMembers)).compact ++ "\n"
  | .terminal coloured => e.text coloured time ++ "\n"

end TwoStep.Log
