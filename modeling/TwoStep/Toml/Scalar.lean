import TwoStep.Instant
import TwoStep.Number
import TwoStep.Toml.Basic

/-!
# Scalars of TOML

Strings and keys, numbers, dates and truth values, and how strings are written.
-/

namespace TwoStep.Toml

/-! ## Strings and keys

Basic strings have escapes and stand between double quotes, literal strings
have none and stand between single quotes; each kind has a form between triple
quotes that may run over several lines.  In the triple forms a line end right
behind the opening is dropped, every line end is read as one line feed, and up
to two quotes may stand directly before the closing ones.
-/

/-- The character with the code point that some hexadecimal digits spell, if
it is a character. -/
def ofCodePoint? (digits : List Char) : Option Char := do
  let n ← digits.foldlM (fun n c =>
    if '0' ≤ c && c ≤ '9' then some (16 * n + (c.toNat - 48))
    else if 'a' ≤ c && c ≤ 'f' then some (16 * n + (c.toNat - 87))
    else if 'A' ≤ c && c ≤ 'F' then some (16 * n + (c.toNat - 55))
    else none) 0
  if n.isValidChar then some (Char.ofNat n) else none

def escapeOf? (c : Char) : Option Char :=
  if c == '"' || c == '\\' then some c
  else if c == 'b' then some '\x08'
  else if c == 'f' then some '\x0c'
  else if c == 'n' then some '\n'
  else if c == 'r' then some '\r'
  else if c == 't' then some '\t'
  else none

def push (c : Char) (r : Option (List Char × List Char)) : Option (List Char × List Char) :=
  r.map fun (cs, rest) => (c :: cs, rest)

/-- Puts a character, if there is one, in front of what was read. -/
def push? (c : Option Char) (r : Option (List Char × List Char)) :
    Option (List Char × List Char) :=
  match c with
  | some c => push c r
  | none => none

def basicBody : List Char → Option (List Char × List Char)
  | [] => none
  | '"' :: rest => some ([], rest)
  | '\\' :: 'u' :: a :: b :: c :: d :: rest => push? (ofCodePoint? [a, b, c, d]) (basicBody rest)
  | '\\' :: 'U' :: a :: b :: c :: d :: e :: f :: g :: h :: rest =>
    push? (ofCodePoint? [a, b, c, d, e, f, g, h]) (basicBody rest)
  | '\\' :: e :: rest => push? (escapeOf? e) (basicBody rest)
  | c :: rest => if isLineChar c && c != '\\' then push c (basicBody rest) else none

def literalBody : List Char → Option (List Char × List Char)
  | [] => none
  | '\'' :: rest => some ([], rest)
  | c :: rest => if isLineChar c then push c (literalBody rest) else none

/-- What remains of a run of quotes behind the three that close a string: up
to two more belong to the text. -/
def closing (quote : Char) : List Char → List Char × List Char
  | a :: b :: rest =>
    if a == quote && b == quote then ([quote, quote], rest)
    else if a == quote then ([quote], b :: rest)
    else ([], a :: b :: rest)
  | [a] => if a == quote then ([quote], []) else ([], [a])
  | [] => ([], [])

/-- Whether a backslash in front of this text joins lines: only blanks stand
before the next line end. -/
def joinsLines (cs : List Char) : Bool :=
  (lineEnd? (skipSpaces cs)).isSome

/-- A basic string between triple quotes; while `joining`, blanks and line
ends are dropped. -/
def longBasicBody : Bool → List Char → Option (List Char × List Char)
  | _, [] => none
  | _, '"' :: '"' :: '"' :: rest => some (closing '"' rest)
  | joining, '\r' :: '\n' :: rest =>
    if joining then longBasicBody true rest else push '\n' (longBasicBody false rest)
  | _, '\\' :: 'u' :: a :: b :: c :: d :: rest =>
    push? (ofCodePoint? [a, b, c, d]) (longBasicBody false rest)
  | _, '\\' :: 'U' :: a :: b :: c :: d :: e :: f :: g :: h :: rest =>
    push? (ofCodePoint? [a, b, c, d, e, f, g, h]) (longBasicBody false rest)
  | _, '\\' :: e :: rest =>
    if joinsLines (e :: rest) then longBasicBody true (e :: rest)
    else push? (escapeOf? e) (longBasicBody false rest)
  | joining, c :: rest =>
    if joining && (isSpace c || c == '\n') then longBasicBody true rest
    else if (isLineChar c && c != '\\') || c == '\n' then push c (longBasicBody false rest)
    else none

def longLiteralBody : List Char → Option (List Char × List Char)
  | [] => none
  | '\'' :: '\'' :: '\'' :: rest => some (closing '\'' rest)
  | '\r' :: '\n' :: rest => push '\n' (longLiteralBody rest)
  | c :: rest => if isLineChar c || c == '\n' then push c (longLiteralBody rest) else none

def skipFirstLineEnd (cs : List Char) : List Char :=
  (lineEnd? cs).getD cs

def stringPart (cs : List Char) : Option (String × List Char) :=
  let body := match cs with
    | '"' :: '"' :: '"' :: rest => longBasicBody false (skipFirstLineEnd rest)
    | '"' :: rest => basicBody rest
    | '\'' :: '\'' :: '\'' :: rest => longLiteralBody (skipFirstLineEnd rest)
    | '\'' :: rest => literalBody rest
    | _ => none
  body.map fun (s, rest) => (String.ofList s, rest)

/-- Characters of a key without quotes. -/
def isKeyChar (c : Char) : Bool :=
  ('a' ≤ c && c ≤ 'z') || ('A' ≤ c && c ≤ 'Z') || ('0' ≤ c && c ≤ '9') || c == '-' || c == '_'

def simpleKey (cs : List Char) : Option (String × List Char) :=
  match cs with
  | '"' :: rest => (basicBody rest).map fun (s, rest) => (String.ofList s, rest)
  | '\'' :: rest => (literalBody rest).map fun (s, rest) => (String.ofList s, rest)
  | cs =>
    match cs.takeWhile isKeyChar with
    | [] => none
    | k => some (String.ofList k, cs.dropWhile isKeyChar)

/-- Keys joined by points, with blanks around them. -/
def dottedKey : Nat → List Char → Option (List String × List Char)
  | 0, _ => none
  | fuel + 1, cs => do
    let (k, rest) ← simpleKey (skipSpaces cs)
    match skipSpaces rest with
    | '.' :: rest => (dottedKey fuel rest).map fun (ks, rest) => (k :: ks, rest)
    | rest => some ([k], rest)

/-- The deepest path and the deepest nesting of brackets stay below this. -/
def depthLimit : Nat := 80

def keyPart (cs : List Char) : Option (List String × List Char) :=
  dottedKey (depthLimit - 1) cs

/-! ## Numbers and truth values

Integers are decimal, hexadecimal, octal or binary and fit in 64 bits with a
sign.  Digits may be grouped by single underscores.  A decimal with a fraction
or an exponent is a float, which may not round to positive infinity.  Dates
and times follow RFC 3339 and are written out again in one form: `T` between
date and time, no trailing zeros in the fraction of a second.
-/

/-- Digits behind the first, single underscores between them dropped. -/
def moreDigits (isDigit : Char → Bool) : List Char → Option (List Char × List Char)
  | [] => some ([], [])
  | ['_'] => none
  | '_' :: c :: rest => if isDigit c then push c (moreDigits isDigit rest) else none
  | c :: rest => if isDigit c then push c (moreDigits isDigit rest) else some ([], c :: rest)

def digitsPart (isDigit : Char → Bool) : List Char → Option (List Char × List Char)
  | c :: rest => if isDigit c then push c (moreDigits isDigit rest) else none
  | [] => none

def digitValue (c : Char) : Nat :=
  if c ≤ '9' then c.toNat - 48 else if c ≤ 'F' then c.toNat - 55 else c.toNat - 87

def ofDigits (base : Nat) (ds : List Char) : Nat :=
  ds.foldl (fun n c => base * n + digitValue c) 0

def isDigitOf (base : Nat) (c : Char) : Bool :=
  (('0' ≤ c && c ≤ '9') || ('a' ≤ c && c ≤ 'f') || ('A' ≤ c && c ≤ 'F')) && digitValue c < base

/-- Decimal digits without a leading zero. -/
def wholeDigits : List Char → Option (List Char × List Char)
  | '0' :: rest => some (['0'], rest)
  | cs => digitsPart (isDigitOf 10) cs

def integer? (i : Int) : Option Toml :=
  if Word.holds i then some (.integer i) else none

def floatExponent : List Char → Option (Option Int × List Char)
  | c :: rest =>
    if c == 'e' || c == 'E' then do
      let (negative, rest) := Binary64.signPart rest
      let (ds, rest) ← digitsPart (isDigitOf 10) rest
      let n : Int := ofDigits 10 ds
      some (some (if negative then -n else n), rest)
    else some (none, c :: rest)
  | [] => some (none, [])

/-- A float with the given parts; positive infinity is refused. -/
def float? (negative : Bool) (whole fraction : List Char) (exponent : Int) : Option Toml :=
  match Binary64.ofDecimal negative (ofDigits 10 (whole ++ fraction))
      (exponent - fraction.length) with
  | .infinite false => none
  | x => some (.float x)

/-- A decimal number, or a word for infinity or no number. -/
def decimalPart (cs : List Char) : Option (Toml × List Char) :=
  let (negative, cs) := Binary64.signPart cs
  match cs with
  | 'i' :: 'n' :: 'f' :: rest => some (.float (.infinite negative), rest)
  | 'n' :: 'a' :: 'n' :: rest => some (.float .nan, rest)
  | cs => do
    let (whole, rest) ← wholeDigits cs
    match rest with
    | '.' :: rest =>
      let (fraction, rest) ← digitsPart (isDigitOf 10) rest
      let (exponent, rest) ← floatExponent rest
      return (← float? negative whole fraction (exponent.getD 0), rest)
    | rest =>
      let (exponent, rest) ← floatExponent rest
      match exponent with
      | some e => return (← float? negative whole [] e, rest)
      | none =>
        let n : Int := ofDigits 10 whole
        return (← integer? (if negative then -n else n), rest)

/-- An integer in another base behind its mark. -/
def basedPart (base : Nat) (cs : List Char) : Option (Toml × List Char) := do
  let (ds, rest) ← digitsPart (isDigitOf base) cs
  return (← integer? (ofDigits base ds), rest)

/-! ## Dates and times -/

/-- A number of exactly `count` digits between two bounds. -/
def fixedDigits (count low high : Nat) (cs : List Char) : Option (Nat × List Char) :=
  let ds := cs.take count
  let n := ofDigits 10 ds
  if ds.length = count && ds.all (isDigitOf 10) && low ≤ n && n ≤ high then
    some (n, cs.drop count)
  else none

def behind (c : Char) : List Char → Option (List Char)
  | d :: rest => if d == c then some rest else none
  | [] => none

/-- The fraction of a second in nanoseconds; digits beyond the ninth are
dropped. -/
def nanosPart : List Char → Option (Nat × List Char)
  | '.' :: cs =>
    match cs.takeWhile (isDigitOf 10) with
    | [] => none
    | ds =>
      let kept := ds.take 9
      some (ofDigits 10 kept * Nat.pow 10 (9 - kept.length), cs.dropWhile (isDigitOf 10))
  | _ => none

def nanosText (nanos : Nat) : List Char :=
  if nanos = 0 then []
  else '.' :: ((Instant.padded 9 nanos).reverse.dropWhile (· == '0')).reverse

/-- A date, in the form it is written out again. -/
def datePart (cs : List Char) : Option (List Char × List Char) := do
  let (year, cs) ← fixedDigits 4 0 9999 cs
  let cs ← behind '-' cs
  let (month, cs) ← fixedDigits 2 1 12 cs
  let cs ← behind '-' cs
  let (day, cs) ← fixedDigits 2 1 (Instant.daysInMonth year month) cs
  some (Instant.padded 4 year ++ '-' :: Instant.padded 2 month ++ '-' :: Instant.padded 2 day, cs)

/-- A time of day, in the form it is written out again. -/
def timePart (cs : List Char) : Option (List Char × List Char) := do
  let (hour, cs) ← fixedDigits 2 0 23 cs
  let cs ← behind ':' cs
  let (minute, cs) ← fixedDigits 2 0 59 cs
  let cs ← behind ':' cs
  let (second, cs) ← fixedDigits 2 0 60 cs
  let (nanos, cs) := (nanosPart cs).getD (0, cs)
  some (Instant.padded 2 hour ++ ':' :: Instant.padded 2 minute ++ ':' :: Instant.padded 2 second ++
    nanosText nanos, cs)

/-- An offset from UTC, in the form it is written out again; none is written
as nothing. -/
def offsetPart (cs : List Char) : Option (List Char × List Char) :=
  match cs with
  | [] => some ([], [])
  | c :: rest =>
    if c == 'Z' || c == 'z' then some (['Z'], rest)
    else if c == '+' || c == '-' then do
      let (hour, rest) ← fixedDigits 2 0 23 rest
      let rest ← behind ':' rest
      let (minute, rest) ← fixedDigits 2 0 59 rest
      let sign := if hour = 0 && minute = 0 then '+' else c
      some (sign :: Instant.padded 2 hour ++ ':' :: Instant.padded 2 minute, rest)
    else some ([], c :: rest)

/-- A date with an optional time and offset. -/
def dateTimePart (cs : List Char) : Option (List Char × List Char) := do
  let (date, cs) ← datePart cs
  match cs with
  | c :: rest =>
    if c == 'T' || c == 't' || c == ' ' then
      match timePart rest with
      | some (time, rest) => do
        let (offset, rest) ← offsetPart rest
        some (date ++ 'T' :: time ++ offset, rest)
      | none => some (date, c :: rest)
    else some (date, c :: rest)
  | [] => some (date, [])

/-- A value that starts with a sign or a digit. -/
def numberPart (cs : List Char) : Option (Toml × List Char) :=
  match (dateTimePart cs).or (timePart cs) with
  | some (text, rest) => some (.datetime (String.ofList text), rest)
  | none =>
    match cs with
    | '0' :: 'x' :: rest => basedPart 16 rest
    | '0' :: 'o' :: rest => basedPart 8 rest
    | '0' :: 'b' :: rest => basedPart 2 rest
    | cs => decimalPart cs

/-- A word at the front that stands for a value. -/
def wordPart (word : String) (value : Toml) (cs : List Char) : Option (Toml × List Char) :=
  if word.toList.isPrefixOf cs then some (value, cs.drop word.length) else none

def scalarPart (cs : List Char) : Option (Toml × List Char) :=
  match cs with
  | [] => none
  | c :: _ =>
    if c == '"' || c == '\'' then (stringPart cs).map fun (s, rest) => (.string s, rest)
    else if c == 't' then wordPart "true" (.boolean true) cs
    else if c == 'f' then wordPart "false" (.boolean false) cs
    else if c == 'i' || c == 'n' || c == '+' || c == '-' || isDigitOf 10 c then numberPart cs
    else none

/-! ## Writing strings

A string is written in the plainest of four styles that can hold it: double
quotes, single quotes, triple double quotes and triple single quotes, each
without escapes.  If none can, it is written in double quotes with escapes,
tripled if it has line ends.
-/

def longestRun (c : Char) : Nat → Nat → List Char → Nat
  | _, longest, [] => longest
  | current, longest, d :: rest =>
    if d == c then longestRun c (current + 1) (max longest (current + 1)) rest
    else longestRun c 0 longest rest

/-- Whether a character can only be written as an escape. -/
def needsEscape (c : Char) : Bool :=
  (c.toNat < 0x20 && c != '\t' && c != '\n') || c.toNat == 0x7f

/-- The styles of a string. -/
inductive Style where
  | basic
  | literal
  | longBasic
  | longLiteral
  deriving DecidableEq, Repr

def styleOf (cs : List Char) : Style :=
  let lines := cs.contains '\n'
  let backslash := cs.contains '\\'
  let escapes := cs.any needsEscape
  let doubles := longestRun '"' 0 0 cs
  let singles := longestRun '\'' 0 0 cs
  if !escapes && !backslash && doubles == 0 && !lines then .basic
  else if !escapes && singles == 0 && !lines then .literal
  else if !escapes && !backslash && doubles ≤ 2 then .longBasic
  else if !escapes && singles ≤ 2 then .longLiteral
  else if lines then .longBasic
  else .basic

def unicodeEscape (c : Char) : List Char :=
  let ds := (Nat.toDigits 16 c.toNat).map Char.toUpper
  '\\' :: 'u' :: List.replicate (4 - ds.length) '0' ++ ds

/-- The escape of a character, if it is not written as it is.  In the long
form a line end stands for itself. -/
def escape? (long : Bool) (c : Char) : Option (List Char) :=
  if c == '\x08' then some ['\\', 'b']
  else if c == '\t' then some ['\\', 't']
  else if c == '\n' then if long then none else some ['\\', 'n']
  else if c == '\x0c' then some ['\\', 'f']
  else if c == '\r' then some ['\\', 'r']
  else if c == '\\' then some ['\\', '\\']
  else if c.toNat < 0x20 || c.toNat == 0x7f then some (unicodeEscape c)
  else none

/-- A text with escapes.  Up to `allowed` quotes in a row stand for
themselves; `quotes` of them have just been written. -/
def escapedText (allowed : Nat) (long : Bool) : Nat → List Char → List Char
  | _, [] => []
  | quotes, c :: rest =>
    if c == '"' then
      if quotes < allowed then '"' :: escapedText allowed long (quotes + 1) rest
      else '\\' :: '"' :: escapedText allowed long 0 rest
    else
      match escape? long c with
      | some e => e ++ escapedText allowed long 0 rest
      | none => c :: escapedText allowed long 0 rest

def quoted (s : String) : String :=
  let cs := s.toList
  let start := if cs.contains '\n' then ['\n'] else []
  String.ofList <| match styleOf cs with
    | .basic => '"' :: escapedText 0 false 0 cs ++ ['"']
    | .literal => '\'' :: cs ++ ['\'']
    | .longBasic => ['"', '"', '"'] ++ start ++ escapedText 2 true 0 cs ++ ['"', '"', '"']
    | .longLiteral => ['\'', '\'', '\''] ++ start ++ cs ++ ['\'', '\'', '\'']

end TwoStep.Toml
