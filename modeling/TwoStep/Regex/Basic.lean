
/-!
# Regular expressions

A pattern in the leftmost-first tradition: of two alternatives the first is
preferred, and a repetition prefers to go on, or, if it is lazy, to stop.

Preferences decide which match a search finds, so a search keeps its threads in
the order of preference, and when one of them has matched, all that are less
preferred are given up.  `endsWith` asks whether a search from the left, carried
on to the end of a text, finds a match that ends there.

The texts that are searched are written in ASCII.
-/

namespace TwoStep

/-- A condition on a place between two characters. -/
inductive Regex.Look where
  | start
  | stop
  | lineStart
  | lineStop
  | boundary
  | noBoundary
  | wordStart
  | wordStop
  deriving DecidableEq, Repr

/-- A pattern. -/
inductive Regex where
  | empty
  | one (holds : Char → Bool)
  | look (l : Regex.Look)
  | concat (a b : Regex)
  | either (a b : Regex)
  | option (greedy : Bool) (r : Regex)
  | many (greedy : Bool) (r : Regex)

namespace Regex

/-- Any number of times.  That this is "once or more, or not at all" keeps the
order of preference also where the repeated pattern matches nothing. -/
def star (greedy : Bool) (r : Regex) : Regex := option greedy (many greedy r)

/-! ## Machines -/

/-- One step of a machine. -/
inductive Step where
  | read (holds : Char → Bool) (next : Nat)
  | check (l : Look) (next : Nat)
  /-- Goes on in two places, the first one preferred. -/
  | fork (a b : Nat)
  | done
  | pending

/-- A machine, whose steps are known by their number. -/
abbrev Machine := Array Step

/-- A fork, the first place preferred if `greedy`. -/
def Step.forkBy (greedy : Bool) (inside outside : Nat) : Step :=
  if greedy then .fork inside outside else .fork outside inside

/-- Adds the steps of a pattern that goes on at `next`, and returns where it
starts. -/
def assemble : Regex → Nat → Machine → Nat × Machine
  | .empty, next, m => (next, m)
  | .one holds, next, m => (m.size, m.push (.read holds next))
  | .look l, next, m => (m.size, m.push (.check l next))
  | .concat a b, next, m =>
    let (start, m) := assemble b next m
    assemble a start m
  | .either a b, next, m =>
    let (startA, m) := assemble a next m
    let (startB, m) := assemble b next m
    (m.size, m.push (.fork startA startB))
  | .option greedy r, next, m =>
    let (start, m) := assemble r next m
    (m.size, m.push (.forkBy greedy start next))
  | .many greedy r, next, m =>
    let again := m.size
    let (start, m) := assemble r again (m.push .pending)
    (start, m.setIfInBounds again (.forkBy greedy start next))

/-! ## Searching -/

/-- A place between two characters of a text. -/
structure Place where
  before : Option Char
  behind : Option Char

/-- Letters, digits and the underscore. -/
def isWordChar (c : Char) : Bool := c.isAlphanum || c == '_'

def Look.holds (l : Look) (p : Place) : Bool :=
  let wordBefore := (p.before.map isWordChar).getD false
  let wordBehind := (p.behind.map isWordChar).getD false
  match l with
  | .start => p.before.isNone
  | .stop => p.behind.isNone
  | .lineStart => (p.before.map (· == '\n')).getD true
  | .lineStop => (p.behind.map (· == '\n')).getD true
  | .boundary => wordBefore != wordBehind
  | .noBoundary => wordBefore == wordBehind
  | .wordStart => !wordBefore && wordBehind
  | .wordStop => wordBefore && !wordBehind

/-- The threads that wait for a character or are done, in the order of
preference, for the steps to be looked at; `fuel` bounds the steps, of which none is
looked at twice. -/
def settle (m : Machine) (p : Place) : Nat → List Nat → List Nat → List Nat
  | 0, _, _ => []
  | _ + 1, _, [] => []
  | fuel + 1, seen, i :: rest =>
    if seen.contains i then settle m p fuel seen rest
    else
      match m[i]?.getD .pending with
      | .read .. | .done => i :: settle m p fuel (i :: seen) rest
      | .check l next =>
        settle m p fuel (i :: seen) (if l.holds p then next :: rest else rest)
      | .fork a b => settle m p fuel (i :: seen) (a :: b :: rest)
      | .pending => settle m p fuel (i :: seen) rest

def isDone (m : Machine) (i : Nat) : Bool :=
  match m[i]?.getD .pending with
  | .done => true
  | _ => false

/-- The threads up to the first one that is done. -/
def preferred (m : Machine) (threads : List Nat) : List Nat :=
  threads.takeWhile (!isDone m ·) ++ ((threads.dropWhile (!isDone m ·)).take 1)

/-- The threads at a place that some steps lead to. -/
def threadsAt (m : Machine) (p : Place) (steps : List Nat) : List Nat :=
  preferred m (settle m p (3 * m.size + steps.length + 1) [] steps)

/-- Where a thread goes on behind a character. -/
def advance (m : Machine) (c : Char) (i : Nat) : Option Nat :=
  match m[i]?.getD .pending with
  | .read holds next => if holds c then some next else none
  | _ => none

/-- Whether a thread is done at the end of the text. -/
def search (m : Machine) : Option Char → List Nat → List Char → Bool
  | before, steps, [] => (threadsAt m ⟨before, none⟩ steps).any (isDone m)
  | before, steps, c :: rest =>
    search m (some c) ((threadsAt m ⟨before, some c⟩ steps).filterMap (advance m c)) rest

/-- Whether a search for a pattern, carried on to the end of a text, finds a
match that ends there. -/
def endsWith (r : Regex) (cs : List Char) : Bool :=
  let anywhere := concat (star false (one fun _ => true)) r
  let (start, m) := assemble anywhere 0 #[.done]
  search m none [start] cs

end Regex

/-! ## Classes of characters in patterns

What one character of a text may be, as a set that can be joined, cut and
turned around.  Membership is exact for ASCII, in which the searched texts are
written; of what lies beyond it only is kept whether there is any, because a
pattern over bytes may not have it.
-/

namespace Regex

/-- A set of characters. -/
structure Members where
  holds : Char → Bool
  /-- Whether there may be members beyond ASCII. -/
  beyond : Bool := false

namespace Members

def none : Members := ⟨fun _ => false, false⟩

def range (a b : Char) : Members := ⟨fun c => a ≤ c && c ≤ b, 127 < b.toNat⟩

def ofText (s : String) : Members := ⟨fun c => s.toList.contains c, s.toList.any (127 < ·.toNat)⟩

def union (a b : Members) : Members :=
  ⟨fun c => a.holds c || b.holds c, a.beyond || b.beyond⟩

def complement (a : Members) : Members := ⟨fun c => !a.holds c, true⟩

/-- The other case of an ASCII letter. -/
def otherCase (c : Char) : Char := if c.isUpper then c.toLower else c.toUpper

/-- The long s and the sign for kelvin are the only characters beyond ASCII
that differ from an ASCII letter in case only. -/
def foreignCases (c : Char) : List Char :=
  if c == 's' || c == 'S' then [Char.ofNat 0x17f]
  else if c == 'k' || c == 'K' then [Char.ofNat 0x212a]
  else []

def caseless (a : Members) : Members :=
  ⟨fun c => a.holds c || a.holds (otherCase c) || (foreignCases c).any a.holds, a.beyond⟩

def digits : Members := range '0' '9'

def letters : Members := (range 'a' 'z').union (range 'A' 'Z')

def words : Members := (letters.union digits).union (ofText "_")

def spaces : Members := (range '\t' '\r').union (ofText " ")

def controls : Members := (range (Char.ofNat 0) (Char.ofNat 0x1f)).union (ofText "\x7f")

/-- Punctuation as Unicode has it. -/
def punctuation : Members := ofText "!\"#%&'()*,-./:;?@[\\]_\x7b\x7d"

/-- Signs that Unicode does not count as punctuation. -/
def symbols : Members := ofText "$+<=>^`|~"

/-- The class behind `\d`, `\s` and `\w`. -/
def ofLetter? (c : Char) : Option Members :=
  if c == 'd' then some digits
  else if c == 's' then some spaces
  else if c == 'w' then some words
  else Option.none

/-- The class of a general category that is named by one letter. -/
def ofCategory? (c : Char) : Option Members :=
  match c.toLower with
  | 'c' => some controls
  | 'l' => some letters
  | 'm' => some none
  | 'n' => some digits
  | 'p' => some punctuation
  | 's' => some symbols
  | 'z' => some (ofText " ")
  | _ => Option.none

def ofName? (name : String) : Option Members :=
  [("alnum", letters.union digits), ("alpha", letters),
    ("ascii", range (Char.ofNat 0) (Char.ofNat 0x7f)), ("blank", ofText "\t "),
    ("cntrl", controls), ("digit", digits), ("graph", range '!' '~'),
    ("lower", range 'a' 'z'), ("print", range ' ' '~'), ("punct", punctuation.union symbols),
    ("space", spaces), ("upper", range 'A' 'Z'), ("word", words),
    ("xdigit", (digits.union (range 'a' 'f')).union (range 'A' 'F'))].lookup name

end Members

/-- How two sets are put together. -/
inductive SetOp where
  | intersection
  | difference
  | symmetricDifference
  deriving DecidableEq, Repr

def SetOp.apply (op : SetOp) (a b : Members) : Members :=
  match op with
  | .intersection => ⟨fun c => a.holds c && b.holds c, a.beyond && b.beyond⟩
  | .difference => ⟨fun c => a.holds c && !b.holds c, a.beyond⟩
  | .symmetricDifference => ⟨fun c => a.holds c != b.holds c, a.beyond || b.beyond⟩

end Regex

end TwoStep
