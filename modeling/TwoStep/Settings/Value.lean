import TwoStep.Json.Printer
import TwoStep.Number
import TwoStep.Toml.Basic

/-!
# Values of settings before they are typed

Files and variables hold values of several kinds.  Each value remembers where
it was read, so that a complaint about it can say so; tables and gaps that
were only made to reach a value below them come from nowhere.
-/

namespace TwoStep.Settings

/-- A value without parts. -/
inductive Scalar where
  | nothing
  | bool (b : Bool)
  | integer (i : Int)
  | float (x : Binary64)
  | text (s : String)
  deriving DecidableEq, Repr

/-- A value and where it was read. -/
inductive Value where
  | scalar (s : Scalar) (origin : Option String)
  | array (items : List Value) (origin : Option String)
  | table (entries : List (String × Value)) (origin : Option String)

namespace Value

def gap : Value := .scalar .nothing none

def empty : Value := .table [] none

def origin? : Value → Option String
  | .scalar _ o => o
  | .array _ o => o
  | .table _ o => o

mutual

/-- A TOML value read at `origin`; dates and times are texts. -/
def ofToml (origin : Option String) : Toml → Value
  | .string s => .scalar (.text s) origin
  | .integer i => .scalar (.integer i) origin
  | .float x => .scalar (.float x) origin
  | .boolean b => .scalar (.bool b) origin
  | .datetime t => .scalar (.text t) origin
  | .array items => .array (ofTomlItems origin items) origin
  | .table entries => .table (ofTomlEntries origin entries) origin

def ofTomlItems (origin : Option String) : List Toml → List Value
  | [] => []
  | t :: rest => ofToml origin t :: ofTomlItems origin rest

def ofTomlEntries (origin : Option String) : List (String × Toml) → List (String × Value)
  | [] => []
  | (k, t) :: rest => (k, ofToml origin t) :: ofTomlEntries origin rest

end

/-! ## Numbers of JSON

A number without point and exponent that fits in 64 bits with a sign is an
integer.  Any other number is a float: at most as many leading digits as fit
in 64 bits make a whole number, which is rounded, and then scaled by a power
of ten, which rounds again. -/

/-- Digits that still fit, and how many powers of ten the dropped ones of the
whole part are worth. -/
def leadingDigits : Nat → List Nat → Nat × Nat
  | n, [] => (n, 0)
  | n, d :: rest =>
    if 10 * n + d < UInt64.size then leadingDigits (10 * n + d) rest
    else (n, rest.length + 1)

/-- Digits behind the point that still fit, and how many were used. -/
def fractionDigits : Nat → Nat → List Nat → Nat × Nat
  | n, used, [] => (n, used)
  | n, used, d :: rest =>
    if 10 * n + d < UInt64.size then fractionDigits (10 * n + d) (used + 1) rest else (n, used)

/-- The powers of ten that scale a float, as floats. -/
def powerOfTen (k : Nat) : Binary64 := Binary64.ofDecimal false 1 k

/-- Scales a float by a power of ten; too large a result is refused. -/
def scaled (x : Binary64) : Nat → Int → Option Binary64
  | 0, _ => some x
  | fuel + 1, k =>
    if x.isZero then some x
    else if k > 308 then none
    else if 0 ≤ k then
      match x.mul (powerOfTen k.toNat) with
      | .infinite _ => none
      | y => some y
    else if -308 ≤ k then some (x.div (powerOfTen k.natAbs))
    else scaled (x.div (powerOfTen 308)) fuel (k + 308)

/-- A JSON number. -/
def ofNumber (n : Json.Number) : Option Scalar :=
  let signed (x : Binary64) : Binary64 := if n.negative then x.neg else x
  let digits := (Nat.toDigits 10 n.whole).map fun c => c.toNat - 48
  let (whole, dropped) := leadingDigits 0 digits
  match n.fraction, n.exponent with
  | none, none =>
    let i : Int := if n.negative then -(n.whole : Int) else n.whole
    if dropped > 0 then (scaled (.ofNat whole) 4 dropped).map fun x => .float (signed x)
    else if Word.holds i && !(n.negative && n.whole == 0) then some (.integer i)
    else some (.float (signed (.ofNat n.whole)))
  | fraction, exponent =>
    let (all, used) := fractionDigits whole 0 (fraction.getD [])
    let k : Int := (dropped : Int) - used + exponent.getD 0
    (scaled (.ofNat all) 4 k).map fun x => .float (signed x)

mutual

/-- A JSON value read at `origin`; of members with one name the last counts. -/
def ofJson (origin : Option String) : Json → Option Value
  | .null => some (.scalar .nothing origin)
  | .bool b => some (.scalar (.bool b) origin)
  | .number n => (ofNumber n).map fun s => .scalar s origin
  | .string s => some (.scalar (.text s) origin)
  | .unreadable => none
  | .array items => (ofJsonItems origin items).map fun vs => .array vs origin
  | .object members => (ofJsonMembers origin members).map fun es => .table es origin

def ofJsonItems (origin : Option String) : List Json → Option (List Value)
  | [] => some []
  | j :: rest => do return (← ofJson origin j) :: (← ofJsonItems origin rest)

/-- The members of a JSON object, without those that a later one replaces. -/
def ofJsonMembers (origin : Option String) :
    List (String × Json) → Option (List (String × Value))
  | [] => some []
  | (k, j) :: rest => do
    let v ← ofJson origin j
    let later ← ofJsonMembers origin rest
    return if later.any (·.1 = k) then later else (k, v) :: later

end

end Value

end TwoStep.Settings
