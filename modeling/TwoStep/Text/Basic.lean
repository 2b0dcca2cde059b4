/-!
# Texts

A text is looked at as bytes, as pieces between separators, and as characters
that belong to sets or move in runs.
-/

namespace TwoStep.Text

/-! ## Text as bytes

Lengths, positions and digit scans of hexadecimal and decimal text count
UTF-8 bytes.  `bytes` is that view; `ofByte` shows one byte as the character
of the same number, which is how a faulty byte is named in a message.
-/

def bytes (cs : List Char) : List UInt8 :=
  cs.flatMap String.utf8EncodeChar

def byteLength (cs : List Char) : Nat :=
  cs.foldr (fun c n => c.utf8Size + n) 0

/-- The character whose code point is the value of a byte. -/
def ofByte (b : UInt8) : Char :=
  Char.ofNat b.toNat

/-! ## Blanks

White space in the sense of the Unicode property `White_Space`, and trimming
by it.  Core's `Char.isWhitespace` knows six ASCII characters only; text that
comes from a terminal or a file is trimmed of all twenty-five.
-/

/-- The characters of the Unicode property `White_Space`. -/
def isBlank (c : Char) : Bool :=
  let n := c.toNat
  (9 ≤ n && n ≤ 13) || n == 0x20 || n == 0x85 || n == 0xa0 || n == 0x1680 ||
    (0x2000 ≤ n && n ≤ 0x200a) || n == 0x2028 || n == 0x2029 || n == 0x202f ||
    n == 0x205f || n == 0x3000

def trimStart (cs : List Char) : List Char :=
  cs.dropWhile isBlank

def trimEnd (cs : List Char) : List Char :=
  (cs.reverse.dropWhile isBlank).reverse

def trim (cs : List Char) : List Char :=
  trimEnd (trimStart cs)

def trimmed (s : String) : String :=
  String.ofList (trim s.toList)

/-! ## Pieces of a text

What stands between the separators of a text.  A separator at an end or next to
another one leaves an empty piece, and a text without separators is one piece.
-/

def pieces (separator : Char) (s : String) : List String :=
  (s.toList.splitOn separator).map String.ofList

/-! ## Sets of characters

A Unicode property is a union of ranges.  It is stored as the ascending list
of the code points at which membership changes, the first of which enters the
set: a character belongs to the set iff an odd number of change points is at
most its code point.
-/

/-- An ascending list of code points where membership changes. -/
structure CharSet where
  changes : List Nat

namespace CharSet

/-- Membership after walking over the change points at or below `n`. -/
def memFrom (inside : Bool) (n : Nat) : List Nat → Bool
  | [] => inside
  | p :: rest => if p ≤ n then memFrom (!inside) n rest else inside

def mem (s : CharSet) (c : Char) : Bool :=
  memFrom false c.toNat s.changes

end CharSet

/-! ## Runs of characters that shift together

Many mappings of characters move a whole run of them by the same distance:
every code point of the run, or every second one where capitals and small
letters take turns.
-/

/-- The characters `first, first + step, …, last`, whose images lie `offset`
further on. -/
structure Shift where
  first : Nat
  last : Nat
  step : Nat
  offset : Int

namespace Shift

def holds (r : Shift) (n : Nat) : Bool :=
  r.first ≤ n && n ≤ r.last && (n - r.first) % r.step == 0

/-- The image of the code point `n`, if some run holds it. -/
def image? (runs : List Shift) (n : Nat) : Option Nat :=
  (runs.find? (·.holds n)).map fun r => Int.toNat (n + r.offset)

end Shift

end TwoStep.Text
