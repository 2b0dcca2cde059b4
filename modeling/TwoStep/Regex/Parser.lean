import TwoStep.Hex
import TwoStep.Regex.Basic
import TwoStep.Text.Alphanumeric
import TwoStep.Text.Basic

/-!
# Reading patterns

Patterns have literals, the point, classes in brackets, groups with and without
names, alternatives, the repetitions `*`, `+` and `?` with their lazy forms,
anchors, escapes, and flags for a group or for the rest of one.  Counted
repetition and everything else that is written with braces is not part of them.

Word boundaries are those of ASCII and stand only where the flag for Unicode is
off.  There in turn patterns are about bytes, so what could match a part of a
character is refused.
-/

namespace TwoStep.Regex

/-- What applies to a part of a pattern. -/
structure Flags where
  caseless : Bool := false
  multiLine : Bool := false
  /-- The point also stands for the end of a line. -/
  anyChar : Bool := false
  swapGreed : Bool := false
  unicode : Bool := true
  verbose : Bool := false
  deriving DecidableEq, Repr

/-- Sets the flag of a letter; one more, about the ends of lines, makes no
difference here. -/
def Flags.set? (f : Flags) (letter : Char) (on : Bool) : Option Flags :=
  match letter with
  | 'i' => some { f with caseless := on }
  | 'm' => some { f with multiLine := on }
  | 's' => some { f with anyChar := on }
  | 'U' => some { f with swapGreed := on }
  | 'u' => some { f with unicode := on }
  | 'x' => some { f with verbose := on }
  | 'R' => some f
  | _ => none

/-- Reads the letters of flags up to `:` or `)`, which stay; `on` turns false
behind a hyphen, and no letter stands twice. -/
def flagLetters (f : Flags) (seen : List Char) (on : Bool) :
    List Char → Option (Flags × List Char × List Char)
  | [] => none
  | c :: rest =>
    if c == ':' || c == ')' then if seen.head? = some '-' then none else some (f, seen, c :: rest)
    else if seen.contains c then none
    else if c == '-' then flagLetters f ('-' :: seen) false rest
    else do flagLetters (← f.set? c on) (c :: seen) on rest

/-- Drops blanks and comments where they do not count. -/
def skipBlanks (f : Flags) : Nat → List Char → List Char
  | 0, cs => cs
  | fuel + 1, cs =>
    if f.verbose then
      match Text.trimStart cs with
      | '#' :: rest => skipBlanks f fuel (rest.dropWhile (· != '\n'))
      | cs => cs
    else cs

/-! ## Escapes -/

/-- What an escape stands for. -/
inductive Escape where
  | char (c : Char)
  | members (m : Members)
  | look (l : Look)
  | wordLook (l : Look)

/-- The characters that have a meaning of their own or may get one. -/
def isMeta (c : Char) : Bool := "\\.+*?()|[]\x7b\x7d^$#&-~".toList.contains c

/-- Whether a backslash in front makes a character stand for itself. -/
def isEscapable (c : Char) : Bool :=
  isMeta c || (c.toNat < 128 && !c.isAlphanum && c != '<' && c != '>')

def hexEscape (count : Nat) (cs : List Char) : Option (Char × List Char) := do
  let digits := cs.take count
  if digits.length < count then none
  let n ← digits.foldlM (fun n c => (Hex.value? (UInt8.ofNat (min c.toNat 255))).map (16 * n + ·)) 0
  if n.isValidChar then some (Char.ofNat n, cs.drop count) else none

def namedChars : List (Char × Char) := [
  ('a', '\x07'), ('f', '\x0c'), ('t', '\t'), ('n', '\n'), ('r', '\r'), ('v', '\x0b')]

def namedLooks : List (Char × Escape) := [
  ('A', .look .start), ('z', .look .stop), ('b', .wordLook .boundary),
  ('B', .wordLook .noBoundary), ('<', .wordLook .wordStart), ('>', .wordLook .wordStop)]

def escape (f : Flags) : List Char → Option (Escape × List Char)
  | [] => none
  | c :: rest =>
    if c == 'x' then do
      let (c, rest) ← hexEscape 2 rest
      if 127 < c.toNat && !f.unicode then none else some (.char c, rest)
    else if c == 'u' then (hexEscape 4 rest).map fun (c, rest) => (.char c, rest)
    else if c == 'U' then (hexEscape 8 rest).map fun (c, rest) => (.char c, rest)
    else if c == 'p' || c == 'P' then
      match rest with
      | letter :: rest => do
        let m ← Members.ofCategory? letter
        if f.unicode then some (.members (if c == 'P' then m.complement else m), rest) else none
      | [] => none
    else
      match Members.ofLetter? c.toLower with
      | some m => some (.members (if c.isUpper then m.complement else m), rest)
      | none =>
        if isEscapable c then some (.char c, rest)
        else
          match namedChars.lookup c, namedLooks.lookup c with
          | some c, _ => some (.char c, rest)
          | none, some e => some (e, rest)
          | none, none => none

/-! ## Classes -/

def Flags.fold (f : Flags) (m : Members) : Members := if f.caseless then m.caseless else m

/-- The set of one character; bytes beyond ASCII are no characters. -/
def single (f : Flags) (c : Char) : Option Members :=
  if f.unicode || c.toNat < 128 then some (.range c c) else none

/-- A class with a name, such as `[:alpha:]`, behind its opening bracket. -/
def namedClass (cs : List Char) : Option (Members × List Char) :=
  match cs with
  | ':' :: rest =>
    let (negated, rest) := match rest with
      | '^' :: r => (true, r)
      | r => (false, r)
    let name := rest.takeWhile (· != ':')
    match rest.drop name.length, Members.ofName? (String.ofList name) with
    | ':' :: ']' :: rest, some m => some (if negated then m.complement else m, rest)
    | _, _ => none
  | _ => none

/-- One item of a class: a character or a set. -/
def classItem (f : Flags) : List Char → Option ((Char ⊕ Members) × List Char)
  | [] => none
  | '\\' :: rest =>
    match escape f rest with
    | some (.char c, rest) => some (.inl c, rest)
    | some (.members m, rest) => some (.inr m, rest)
    | _ => none
  | c :: rest => some (.inl c, rest)

/-- One item of a class, or a range of characters. -/
def classRange (f : Flags) (cs : List Char) : Option (Members × List Char) := do
  let (first, rest) ← classItem f cs
  let alone : Option Members := match first with
    | .inl c => single f c
    | .inr m => some m
  match skipBlanks f rest.length rest with
  | '-' :: more =>
    let more := skipBlanks f more.length more
    if more.head? = some ']' || more.head? = some '-' then return (← alone, rest)
    else
      let (second, rest) ← classItem f more
      match first, second with
      | .inl a, .inl b =>
        if a ≤ b && (f.unicode || b.toNat < 128) then some (.range a b, rest) else none
      | _, _ => none
  | _ :: _ => return (← alone, rest)
  | [] => none

/-- What stands to the left of an operation on sets. -/
abbrev LeftSide := Option (SetOp × Members)

/-- A set together with what stands to the left of it. -/
def combined (f : Flags) (left : LeftSide) (m : Members) : Members :=
  match left with
  | some (op, l) => op.apply (f.fold l) (f.fold m)
  | none => m

/-- The hyphens, and the bracket if it comes first, that stand for themselves at
the start of a class. -/
def classStart (f : Flags) (m : Members) : List Char → Members × List Char
  | '-' :: rest => classStart f (m.union (.range '-' '-')) rest
  | cs => (m, cs)

mutual

/-- A class behind its opening bracket. -/
def classBody (f : Flags) : Nat → List Char → Option (Members × List Char)
  | 0, _ => none
  | fuel + 1, cs =>
    let (negated, cs) := match skipBlanks f cs.length cs with
      | '^' :: rest => (true, skipBlanks f rest.length rest)
      | cs => (false, cs)
    let (start, cs) : Members × List Char := match cs with
      | ']' :: rest => (.range ']' ']', rest)
      | cs => classStart f .none cs
    do
      let (m, rest) ← classItems f fuel none start cs
      let m := f.fold m
      return (if negated then m.complement else m, rest)

/-- The items of a class up to its closing bracket. -/
def classItems (f : Flags) : Nat → LeftSide → Members → List Char → Option (Members × List Char)
  | 0, _, _, _ => none
  | fuel + 1, left, m, cs =>
    match skipBlanks f cs.length cs with
    | [] => none
    | ']' :: rest => some (combined f left m, rest)
    | '[' :: rest => do
      let (inner, rest) ← match namedClass rest with
        | some r => some r
        | none => classBody f fuel rest
      classItems f fuel left (m.union inner) rest
    | '&' :: '&' :: rest =>
      classItems f fuel (some (.intersection, combined f left m)) .none rest
    | '-' :: '-' :: rest =>
      classItems f fuel (some (.difference, combined f left m)) .none rest
    | '~' :: '~' :: rest =>
      classItems f fuel (some (.symmetricDifference, combined f left m)) .none rest
    | cs => do
      let (item, rest) ← classRange f cs
      classItems f fuel left (m.union item) rest

end

/-! ## Patterns -/

def Flags.one (f : Flags) (m : Members) : Option Regex :=
  if !f.unicode && m.beyond then none else some (.one m.holds)

/-- What stands alone at the front of a pattern, but for classes and groups. -/
def atom (f : Flags) : List Char → Option (Regex × List Char)
  | [] => none
  | '.' :: rest =>
    if !f.unicode then none
    else some (.one (fun c => f.anyChar || c != '\n'), rest)
  | '^' :: rest => some (.look (if f.multiLine then .lineStart else .start), rest)
  | '$' :: rest => some (.look (if f.multiLine then .lineStop else .stop), rest)
  | '\\' :: rest => do
    match ← escape f rest with
    | (.char c, rest) => some (.one (f.fold (.range c c)).holds, rest)
    | (.members m, rest) => return (← f.one (f.fold m), rest)
    | (.look l, rest) => some (.look l, rest)
    | (.wordLook l, rest) => if f.unicode then none else some (.look l, rest)
  | c :: rest => some (.one (f.fold (.range c c)).holds, rest)

/-- The pattern of pieces that follow each other, the last one first. -/
def sequence (pieces : List (Option Regex)) : Regex :=
  pieces.foldl (fun r p => match p with
    | some q => .concat q r
    | none => r) .empty

/-- The pattern of alternatives, the last one first. -/
def alternatives (last : Regex) (earlier : List Regex) : Regex :=
  earlier.foldl (fun r a => .either a r) last

/-- The name of a group, up to its closing angle. -/
def groupName (cs : List Char) : Option (String × List Char) :=
  let name := cs.takeWhile (· != '>')
  match name, cs.drop name.length with
  | c :: more, _ :: rest =>
    let starts := c == '_' || (Text.isAlphanumeric c && !c.isDigit)
    let goesOn (c : Char) : Bool := c == '_' || c == '.' || c == '[' || c == ']' ||
      Text.isAlphanumeric c
    if starts && more.all goesOn then some (String.ofList name, rest) else none
  | _, _ => none

/-- How a group opens. -/
inductive Opening where
  | group (name : Option String) (flags : Flags)
  | flags (flags : Flags)

/-- Reads the opening of a group behind its parenthesis. -/
def opening (f : Flags) (cs : List Char) : Option (Opening × List Char) :=
  let flagged (rest : List Char) : Option (Opening × List Char) := do
    match ← flagLetters f [] true rest with
    | (f, _, ':' :: rest) => some (.group none f, rest)
    | (f, seen, _ :: rest) => if seen.isEmpty then none else some (.flags f, rest)
    | _ => none
  match skipBlanks f cs.length cs with
  | '?' :: 'P' :: '<' :: rest => (groupName rest).map fun (n, rest) => (.group (some n) f, rest)
  | '?' :: '<' :: rest => (groupName rest).map fun (n, rest) => (.group (some n) f, rest)
  | '?' :: rest => flagged rest
  | cs => some (.group none f, cs)

/-- A repetition of the last piece: its mark is read, and a question mark behind
it makes it lazy. -/
def repeated (f : Flags) (mark : Char) (r : Regex) (rest : List Char) : Regex × List Char :=
  let (lazyForm, rest) := match rest with
    | '?' :: rest => (true, rest)
    | rest => (false, rest)
  let greedy := lazyForm == f.swapGreed
  (if mark == '*' then star greedy r else if mark == '+' then .many greedy r
    else .option greedy r, rest)

/-- A part of a pattern that was read: the pattern, the names of its groups, and
the rest, which is empty or starts with a closing parenthesis. -/
abbrev Reading := Option (Regex × List String × List Char)

/-- Reads alternatives up to a closing parenthesis or the end.  `names` are the
names of groups so far, `earlier` the alternatives and `pieces` the pieces of
the present one, the last one first; flags are pieces that stand for nothing
and cannot be repeated. -/
def body : Nat → Flags → List String → List Regex → List (Option Regex) → List Char → Reading
  | 0, _, _, _, _, _ => none
  | fuel + 1, f, names, earlier, pieces, cs =>
    match skipBlanks f cs.length cs with
    | [] => some (alternatives (sequence pieces) earlier, names, [])
    | ')' :: rest => some (alternatives (sequence pieces) earlier, names, ')' :: rest)
    | '|' :: rest => body fuel f names (sequence pieces :: earlier) [] rest
    | '(' :: rest => do
      match ← opening f rest with
      | (.flags f', rest) => body fuel f' names earlier (none :: pieces) rest
      | (.group name f', rest) =>
        if (name.map names.contains).getD false then none
        else
          match ← body fuel f' (name.toList ++ names) [] [] rest with
          | (r, names, ')' :: rest) => body fuel f names earlier (some r :: pieces) rest
          | _ => none
    | '[' :: rest => do
      let (m, rest) ← classBody f (2 * rest.length + 2) rest
      body fuel f names earlier (some (← f.one m) :: pieces) rest
    | c :: rest =>
      if c == '\x7b' then none
      else if c == '*' || c == '+' || c == '?' then
        match pieces with
        | some r :: before =>
          let (r, rest) := repeated f c r rest
          body fuel f names earlier (some r :: before) rest
        | _ => none
      else do
        let (r, rest) ← atom f (c :: rest)
        body fuel f names earlier (some r :: pieces) rest

def parse? (s : String) : Option Regex :=
  let cs := s.toList
  match body (2 * cs.length + 2) {} [] [] [] cs with
  | some (r, _, []) => some r
  | _ => none

end TwoStep.Regex
