/-!
# Numbers of the machine

Integers of sixty-four bits, and floating point of as many, in whole numbers.
-/

namespace TwoStep

/-! ## Words

The integers that a signed word of sixty-four bits holds.
-/

namespace Word

def bound : Int := 0x8000000000000000

def holds (i : Int) : Bool := -bound ≤ i && i < bound

end Word

/-! ## Binary floating point in whole numbers

A finite value is a sign, a significand below `2 ^ 53` and an exponent of two
not below `-1074`.  Every operation computes its exact result as a quotient of
whole numbers and then rounds once, to the nearest value and to the even
significand when two are equally near.  A value is shown with the fewest
decimal digits that round back to it, always in positional form.
-/

/-- A double-precision value. -/
inductive Binary64 where
  | finite (negative : Bool) (significand : Nat) (exponent : Int)
  | infinite (negative : Bool)
  | nan
  deriving DecidableEq, Repr

namespace Binary64

/-- The least number with more than 53 bits. -/
def bound : Nat := 0x20000000000000

/-! ## Rounding -/

/-- A quotient to the nearest whole number; a half goes to the even one. -/
def nearest (num den : Nat) : Nat :=
  let q := num / den
  let r := num % den
  if 2 * r < den || (2 * r == den && q % 2 == 0) then q else q + 1

/-- The two sides of the quotient `num / (den * b ^ k)`. -/
def scaleDown (b : Nat) (num den : Nat) : Int → Nat × Nat
  | .ofNat k => (num, den * Nat.pow b k)
  | .negSucc k => (num * Nat.pow b (k + 1), den)

/-- The exponent at which a positive quotient has a significand of 53 bits, or
the least exponent if that is larger. -/
def exponentOf (num den : Nat) : Int :=
  let e : Int := (num.log2 : Int) - den.log2 - 53
  let (n, d) := scaleDown 2 num den e
  max (-1074) (if n / d < bound then e else e + 1)

def ofQuotient (negative : Bool) (num den : Nat) : Binary64 :=
  if num = 0 then .finite negative 0 (-1074)
  else
    let e := exponentOf num den
    let (n, d) := scaleDown 2 num den e
    let m := nearest n d
    let (m, e) := if m = bound then (bound / 2, e + 1) else (m, e)
    if e > 971 then .infinite negative else .finite negative m e

/-- The value nearest to `digits * 10 ^ k`.  Quotients far outside the range
are decided by their size alone. -/
def ofDecimal (negative : Bool) (digits : Nat) (k : Int) : Binary64 :=
  let size : Int := (Nat.toDigits 10 digits).length + k
  if digits = 0 || size < -330 then .finite negative 0 (-1074)
  else if size > 330 then .infinite negative
  else
    let (n, d) := scaleDown 10 digits 1 (-k)
    ofQuotient negative n d

def ofNat (n : Nat) : Binary64 := ofQuotient false n 1

/-! ## Arithmetic -/

/-- A finite value of the other sign. -/
def neg : Binary64 → Binary64
  | .finite s m e => .finite (!s) m e
  | .infinite s => .infinite (!s)
  | .nan => .nan

def quotient (m : Nat) (e : Int) : Nat × Nat :=
  scaleDown 2 m 1 (-e)

def mul : Binary64 → Binary64 → Binary64
  | .finite s m e, .finite t n f =>
    let (a, b) := quotient m e
    let (c, d) := quotient n f
    ofQuotient (s != t) (a * c) (b * d)
  | _, _ => .nan

/-- The rounded quotient of two finite values, the second not zero. -/
def div : Binary64 → Binary64 → Binary64
  | .finite s m e, .finite t n f =>
    let (a, b) := quotient m e
    let (c, d) := quotient n f
    ofQuotient (s != t) (a * d) (b * c)
  | _, _ => .nan

def isZero : Binary64 → Bool
  | .finite _ m _ => m == 0
  | _ => false

def isFinite : Binary64 → Bool
  | .finite .. => true
  | _ => false

/-! ## Showing -/

/-- How many digits the whole part of a positive quotient has; zero or less
counts the zeros behind the point. -/
def magnitude (num den : Nat) : Int :=
  if den ≤ num then (Nat.toDigits 10 (num / den)).length
  else
    match (List.range 400).find? fun j => den ≤ num * Nat.pow 10 (j + 1) with
    | some j => -(j : Int)
    | none => 0

/-- The decimal `c * 10 ^ k` with `count` digits that lies in an interval
around a positive value, if there is one; the nearer of two wins, the larger
one if both are equally near.  Value and ends have the common denominator
`den`. -/
def candidate (value low high den : Nat) (closed : Bool) (size : Int) (count : Nat) :
    Option (Nat × Int) :=
  let k := size - count
  let (n, d) := scaleDown 10 value den k
  let c := n / d
  let scaled (x : Nat) : Nat × Nat := scaleDown 10 x den k
  let above (c : Nat) : Bool :=
    let (l, d) := scaled low
    if closed then l ≤ c * d else l < c * d
  let below (c : Nat) : Bool :=
    let (h, d) := scaled high
    if closed then c * d ≤ h else c * d < h
  let inside (c : Nat) : Bool := above c && below c
  let next : Nat × Int := if c + 1 = Nat.pow 10 count then (1, size) else (c + 1, k)
  if inside c && inside (c + 1) then
    some (if 2 * n < (2 * c + 1) * d then (c, k) else next)
  else if inside c then some (c, k)
  else if inside (c + 1) then some next
  else none

/-- The fewest decimal digits that round back to a positive value. -/
def shortest (m : Nat) (e : Int) : Nat × Int :=
  let atPower := m == bound / 2 && e > -1074
  let (value, den) := scaleDown 2 (4 * m) 1 (2 - e)
  let low := (scaleDown 2 (4 * m - (if atPower then 1 else 2)) 1 (2 - e)).1
  let high := (scaleDown 2 (4 * m + 2) 1 (2 - e)).1
  let size := magnitude value den
  ((List.range 17).findSome? fun i =>
    candidate value low high den (m % 2 == 0) size (i + 1)).getD (0, 0)

/-- A decimal in positional form. -/
def positional (digits : Nat) (k : Int) : String :=
  let ds := Nat.toDigits 10 digits
  match k with
  | .ofNat k => String.ofList (ds ++ List.replicate k '0')
  | .negSucc k =>
    let places := k + 1
    if places < ds.length then
      String.ofList (ds.take (ds.length - places) ++ '.' :: ds.drop (ds.length - places))
    else
      String.ofList ('0' :: '.' :: List.replicate (places - ds.length) '0' ++ ds)

def display : Binary64 → String
  | .nan => "NaN"
  | .infinite s => if s then "-inf" else "inf"
  | .finite s m e =>
    let text := if m = 0 then "0" else
      let (c, k) := shortest m e
      positional c k
    if s then "-" ++ text else text

/-- A value as text; a finite value always has a point. -/
def displayWithPoint (x : Binary64) : String :=
  let text := x.display
  if x.isFinite && !text.toList.contains '.' then text ++ ".0" else text

/-! ## Reading -/

def natOfDigits (cs : List Char) : Nat :=
  cs.foldl (fun acc c => 10 * acc + (c.toNat - 48)) 0

def isDigit (c : Char) : Bool := '0' ≤ c && c ≤ '9'

/-- A sign in front, if there is one: whether it is negative, and the rest. -/
def signPart : List Char → Bool × List Char
  | '-' :: rest => (true, rest)
  | '+' :: rest => (false, rest)
  | cs => (false, cs)

/-- An exponent that fills the rest of a text; no text is the exponent zero. -/
def exponentPart : List Char → Option Int
  | [] => some 0
  | c :: rest =>
    let (negative, ds) := signPart rest
    if (c == 'e' || c == 'E') && !ds.isEmpty && ds.all isDigit then
      some (if negative then -(natOfDigits ds : Int) else natOfDigits ds)
    else none

/-- Reads digits with an optional point and an optional exponent; there must
be a digit on one side of the point. -/
def readDecimal (negative : Bool) (cs : List Char) : Option Binary64 := do
  let whole := cs.takeWhile isDigit
  let rest := cs.dropWhile isDigit
  let (fraction, rest) := match rest with
    | '.' :: r => (r.takeWhile isDigit, r.dropWhile isDigit)
    | r => ([], r)
  if whole.isEmpty && fraction.isEmpty then none
  let e ← exponentPart rest
  some (ofDecimal negative (natOfDigits (whole ++ fraction)) (e - fraction.length))

/-- Reads a number: a decimal, or one of the words for infinity and for no
number in any case, each with an optional sign. -/
def read (s : String) : Option Binary64 :=
  let (negative, cs) := signPart s.toList
  let word := String.ofList (cs.map Char.toLower)
  if word == "inf" || word == "infinity" then some (.infinite negative)
  else if word == "nan" then some .nan
  else readDecimal negative cs

end Binary64

end TwoStep
