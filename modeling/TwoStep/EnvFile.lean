import TwoStep.Process
import TwoStep.Text.Alphanumeric
import TwoStep.Text.Basic
import TwoStep.Text.LowerCase

/-!
# Files of variables

A file named `.env` sets variables that are not set yet, one `name=value` a
line.  A value may be quoted, and a quoted value may run over several lines;
outside single quotes `$name` and `${name}` are replaced by the value of a
variable.  The lines before a faulty one stay applied.

Left out are files that are no Unicode.  Left out is also that no process can have
a value with the character zero: here it is set like any other, where a run ends
in the attempt.
-/

namespace TwoStep.EnvFile

/-- A line that cannot be read: the text and where in it the fault was
noticed. -/
structure Fault where
  text : List Char
  index : Nat
  deriving DecidableEq, Repr

def Fault.message (f : Fault) : String :=
  s!"Error parsing line: '{String.ofList f.text}', error at line index: {f.index}"

/-! ## Logical lines -/

/-- Where a scan over the characters of a line stands. -/
inductive Scan where
  | complete
  | blank
  | escape
  | weak
  | weakEscape
  | strong
  | strongEscape
  deriving DecidableEq, Repr

/-- The state behind a character outside quotes. -/
def Scan.opened (c : Char) : Scan :=
  if c == '\\' then .escape
  else if c == '"' then .weak
  else if c == '\'' then .strong
  else .complete

def Scan.next (c : Char) : Scan → Scan
  | .complete => if Text.isBlank c && c != '\n' && c != '\r' then .blank else .opened c
  | .blank => .opened c
  | .escape => .complete
  | .weak => if c == '\\' then .weakEscape else if c == '"' then .complete else .weak
  | .weakEscape => .weak
  | .strong => if c == '\\' then .strongEscape else if c == '\'' then .complete else .strong
  | .strongEscape => .strong

/-- Scans a line; a `#` behind a blank starts a comment, and then the number
of characters before it is returned. -/
def scan : Nat → Scan → List Char → Sum Nat Scan
  | _, s, [] => .inr s
  | n, s, c :: rest =>
    if s = .blank && c == '#' then .inl n else scan (n + 1) (s.next c) rest

/-- The lines of a text with their line ends. -/
def physicalLines : List Char → List Char → List (List Char)
  | [], [] => []
  | line, [] => [line.reverse]
  | line, c :: rest =>
    if c == '\n' then (c :: line).reverse :: physicalLines [] rest
    else physicalLines (c :: line) rest

def withoutLineEnd (line : List Char) : List Char :=
  match line.reverse with
  | '\n' :: '\r' :: rest => rest.reverse
  | '\n' :: rest => rest.reverse
  | _ => line

/-- Joins lines while a quote or an escape is open.  At the end of the text
nothing may be open; otherwise the last line is the text so far, as an
error. -/
def logicalLines : List Char → Scan → List (List Char) → List (Except Fault (List Char))
  | text, state, [] =>
    if state = .complete then [] else [.error ⟨text, Text.byteLength text⟩]
  | text, state, line :: rest =>
    let joined := text ++ line
    if (Text.trimStart joined).head? = some '#' then .ok [] :: logicalLines [] .complete rest
    else
      match scan 0 state line with
      | .inl n => .ok (text ++ line.take n) :: logicalLines [] .complete rest
      | .inr .complete => .ok (withoutLineEnd joined) :: logicalLines [] .complete rest
      | .inr state => logicalLines joined state rest

/-! ## Values -/

/-- Which quotes are open. -/
inductive Quote where
  | none
  | weak
  | strong
  deriving DecidableEq, Repr

/-- What the next character of a value belongs to. -/
inductive Inside where
  | text
  | escape
  /-- The name behind a `$`. -/
  | name (reversed : List Char)
  /-- The name between braces behind a `$`. -/
  | braces (reversed : List Char)
  /-- A blank has ended the value. -/
  | ended
  deriving DecidableEq, Repr

/-- The value of a variable, or nothing. -/
def substitute (env : Environment) (reversedName : List Char) : List Char :=
  ((env.get? (String.ofList reversedName.reverse)).getD "").toList

/-- What a character does to the reading of a value. -/
inductive Move where
  | next (quote : Quote) (inside : Inside) (added : List Char)
  | stop
  | fault
  deriving DecidableEq, Repr

def textMove (quote : Quote) (c : Char) : Move :=
  match quote with
  | .strong => if c == '\'' then .next .none .text [] else .next .strong .text [c]
  | .weak =>
    if c == '$' then .next .weak (.name []) []
    else if c == '"' then .next .none .text []
    else if c == '\\' then .next .weak .escape []
    else .next .weak .text [c]
  | .none =>
    if c == '$' then .next .none (.name []) []
    else if c == '\'' then .next .strong .text []
    else if c == '"' then .next .weak .text []
    else if c == '\\' then .next .none .escape []
    else if c == ' ' || c == '\t' then .next .none .ended []
    else .next .none .text [c]

/-- What a character does.  The one that ends a name behind `$` is plain text,
whatever it is, unless it is another `$`. -/
def move (env : Environment) (quote : Quote) (c : Char) : Inside → Move
  | .text => textMove quote c
  | .escape =>
    if c == '\\' || c == '\'' || c == '"' || c == '$' || c == ' ' then .next quote .text [c]
    else if c == 'n' then .next quote .text ['\n']
    else .fault
  | .name n =>
    if Text.isAlphanumeric c then .next quote (.name (c :: n)) []
    else if c == '\x7b' && n.isEmpty then .next quote (.braces []) []
    else if c == '$' then .next quote (.name []) (substitute env n)
    else .next quote .text (substitute env n ++ [c])
  | .braces n =>
    if c == '\x7d' then .next quote .text (substitute env n)
    else .next quote (.braces (c :: n)) []
  | .ended =>
    if c == ' ' || c == '\t' then .next quote .ended []
    else if c == '#' then .stop
    else .fault

/-- The rest of a value, from its character number `index` on.  Quotes and
braces must be closed at the end. -/
def valueFrom (env : Environment) (whole : List Char) :
    Nat → Quote → Inside → List Char → Except Fault (List Char)
  | _, .none, .name n, [] => .ok (substitute env n)
  | _, .none, .text, [] => .ok []
  | _, .none, .escape, [] => .ok []
  | _, .none, .ended, [] => .ok []
  | _, _, _, [] => .error ⟨whole, Text.byteLength whole - 1⟩
  | index, quote, inside, c :: rest =>
    match move env quote c inside with
    | .next quote inside added =>
      (valueFrom env whole (index + 1) quote inside rest).map (added ++ ·)
    | .stop => .ok []
    | .fault => .error ⟨whole, index⟩

def value (env : Environment) (cs : List Char) : Except Fault (List Char) :=
  valueFrom env cs 0 .none .text cs

/-! ## Assignments -/

def startsName (c : Char) : Bool := Text.isAsciiLetter c || c == '_'

def isNameChar (c : Char) : Bool :=
  Text.isAsciiLetter c || Text.isAsciiDigit c || c == '_' || c == '.'

/-- A name at the front, and the rest without blanks in front. -/
def namePart (cs : List Char) : Option (List Char × List Char) :=
  match cs with
  | c :: _ =>
    if startsName c then some (cs.takeWhile isNameChar, Text.trimStart (cs.dropWhile isNameChar))
    else none
  | [] => none

/-- The rest behind an equals sign, without blanks in front. -/
def behindEqual : List Char → Option (List Char)
  | '=' :: rest => some (Text.trimStart rest)
  | _ => none

/-- The name and the text of the value of an assignment.  `export` may stand
in front of the name, unless it is the name.  On a fault, what was not yet
read is returned. -/
def assignmentPart (cs : List Char) : Except (List Char) (List Char × List Char) :=
  match namePart cs with
  | none => .error cs
  | some (name, rest) =>
    match behindEqual rest with
    | some text => .ok (name, text)
    | none =>
      if name = "export".toList then
        match namePart rest with
        | none => .error rest
        | some (name, rest) =>
          match behindEqual rest with
          | some text => .ok (name, text)
          | none => .error rest
      else .error rest

/-- Whether nothing but a comment is left. -/
def isBare (cs : List Char) : Bool := cs.isEmpty || cs.head? = some '#'

/-- Reads one logical line: nothing, or a name and its value. -/
def readLine (env : Environment) (line : List Char) : Except Fault (Option (String × String)) :=
  let kept := Text.trimEnd line
  let cs := Text.trimStart kept
  if isBare cs then .ok none
  else
    match assignmentPart cs with
    | .error rest => .error ⟨line, Text.byteLength kept - Text.byteLength rest⟩
    | .ok (name, text) =>
      if isBare text then .ok (some (String.ofList name, ""))
      else (value env text).map fun v => some (String.ofList name, String.ofList v)

/-- Applies lines one after the other, up to the first fault. -/
def apply : Environment → List (Except Fault (List Char)) → Environment × Except Fault Unit
  | env, [] => (env, .ok ())
  | env, .error f :: _ => (env, .error f)
  | env, .ok line :: rest =>
    match readLine env line with
    | .error f => (env, .error f)
    | .ok none => apply env rest
    | .ok (some (name, v)) => apply (env.setIfUnset name v) rest

/-- Applies the text of a file; a byte order mark in front is dropped. -/
def applyText (env : Environment) (text : String) : Environment × Except Fault Unit :=
  let cs := match text.toList with
    | c :: rest => if c.toNat = 0xfeff then rest else c :: rest
    | [] => []
  apply env (logicalLines [] .complete (physicalLines [] cs))

/-- Why a file of variables could not be applied. -/
inductive Error where
  | line (f : Fault)
  | file (e : FileError)
  deriving DecidableEq, Repr

def Error.chain : Error → List String
  | .line f => [f.message]
  | .file e => [e.message, e.message]

def pathIn (folder : String) : String :=
  if folder.isEmpty || folder.endsWith "/" then folder ++ ".env" else folder ++ "/.env"

/-- Applies the file of variables of a folder if there is one, and says
whether there was. -/
def load (d : Directory) (folder : String) (env : Environment) :
    Environment × Except Error Bool :=
  if d.exists? (pathIn folder) then
    match d.read (pathIn folder) with
    | .error e => (env, .error (.file e))
    | .ok text =>
      match applyText env text with
      | (env, .ok ()) => (env, .ok true)
      | (env, .error f) => (env, .error (.line f))
  else (env, .ok false)

end TwoStep.EnvFile
