import TwoStep.Hex
import TwoStep.Text.Basic
import TwoStep.Text.LowerCase
import TwoStep.Url.Name.Composition
import TwoStep.Url.Name.Mapping
import TwoStep.Url.Name.Rules

/-!
# Hosts of URLs

A host is an IPv6 address in brackets, an IPv4 address, or a name.  A name
whose last part is a number must be an IPv4 address, whose parts may be
decimal, octal or hexadecimal and whose last part fills the places that are
missing.
-/

namespace TwoStep.Url

/-! ## Percent-encoding

A byte that may not stand in a URL as it is is written as `%` and two
hexadecimal digits.
-/

def percentByte (b : UInt8) : List Char :=
  '%' :: (Hex.digits 2 b.toNat).map Char.toUpper

/-- A text in which the control characters, everything beyond ASCII and the
characters that `escapes` names are percent-encoded. -/
def percentEncoded (escapes : Char → Bool) (cs : List Char) : List Char :=
  cs.flatMap fun c =>
    if c.toNat < 0x20 || c.toNat > 0x7e || escapes c then
      (String.utf8EncodeChar c).flatMap percentByte
    else [c]

/-- Bytes with each `%` and two digits replaced by the byte they say. -/
def percentDecodedBytes : List UInt8 → List UInt8
  | 0x25 :: a :: b :: rest =>
    match Hex.value? a, Hex.value? b with
    | some h, some l => UInt8.ofNat (16 * h + l) :: percentDecodedBytes rest
    | _, _ => 0x25 :: percentDecodedBytes (a :: b :: rest)
  | c :: rest => c :: percentDecodedBytes rest
  | [] => []

/-- The text that a percent-encoded text stands for, if its bytes are one. -/
def percentDecoded? (cs : List Char) : Option (List Char) :=
  (String.fromUTF8? ⟨(percentDecodedBytes (Text.bytes cs)).toArray⟩).map String.toList

/-! ## Punycode

Labels of host names with letters beyond ASCII are written in ASCII: first the
ASCII characters, then, for the others in ascending order, how far to walk to
the place and code point of each, as numbers with digits of varying weight.
-/

namespace Punycode

/-- A digit, of which there are thirty-six. -/
def digitChar (d : Nat) : Char :=
  if d < 26 then Char.ofNat (0x61 + d) else Char.ofNat (0x30 + d - 26)

def digitValue? (c : Char) : Option Nat :=
  if 'a' ≤ c && c ≤ 'z' then some (c.toNat - 0x61)
  else if '0' ≤ c && c ≤ '9' then some (c.toNat - 0x30 + 26)
  else none

/-- From which value on a digit at weight position `k` is followed by
another. -/
def threshold (k bias : Nat) : Nat :=
  if k ≤ bias then 1 else if bias + 26 ≤ k then 26 else k - bias

/-- Divides until the number is small, counting by thirty-six. -/
def shrink : Nat → Nat → Nat → Nat × Nat
  | 0, delta, k => (delta, k)
  | fuel + 1, delta, k => if 455 < delta then shrink fuel (delta / 35) (k + 36) else (delta, k)

def adapt (delta count : Nat) (first : Bool) : Nat :=
  let delta := if first then delta / 700 else delta / 2
  let delta := delta + delta / count
  let (delta, k) := shrink delta.log2 delta 0
  k + 36 * delta / (delta + 38)

def digits (bias : Nat) : Nat → Nat → Nat → List Char
  | 0, _, q => [digitChar q]
  | fuel + 1, k, q =>
    let t := threshold k bias
    if q < t then [digitChar q]
    else digitChar (t + (q - t) % (36 - t)) :: digits bias fuel (k + 36) ((q - t) / (36 - t))

/-- What has been written so far. -/
structure Progress where
  out : List Char
  delta : Nat
  bias : Nat
  handled : Nat

/-- Passes a character of the label on the way to the code point `m`. -/
def pass (basic m : Nat) (p : Progress) (c : Char) : Progress :=
  if c.toNat < m then { p with delta := p.delta + 1 }
  else if c.toNat = m then
    { out := p.out ++ digits p.bias (p.delta.log2 + 1) 36 p.delta
      delta := 0
      bias := adapt p.delta (p.handled + 1) (p.handled = basic)
      handled := p.handled + 1 }
  else p

def handle (label : List Char) (basic : Nat) : Nat → List Nat → Progress → Progress
  | _, [], p => p
  | n, m :: rest, p =>
    let p := { p with delta := p.delta + (m - n) * (p.handled + 1) }
    let p := label.foldl (pass basic m) p
    handle label basic (m + 1) rest { p with delta := p.delta + 1 }

def encode (label : List Char) : List Char :=
  let basic := label.filter (·.toNat < 128)
  let others := ((label.filter (128 ≤ ·.toNat)).map Char.toNat).eraseDups.mergeSort (· ≤ ·)
  let start : Progress := ⟨[], 0, 72, basic.length⟩
  let code := (handle label basic.length 128 others start).out
  if basic.isEmpty then code else basic ++ '-' :: code

/-- Adds the number at the front of some digits to `sum`, and returns the rest.
Sums and weights are words of thirty-two bits, and what does not fit is
refused. -/
def number (bias : Nat) : Nat → Nat → Nat → List Char → Option (Nat × List Char)
  | _, _, _, [] => none
  | k, weight, sum, c :: rest => do
    let d ← digitValue? c
    let t := threshold k bias
    let sum := sum + d * weight
    if UInt32.size ≤ sum then none
    else if d < t then some (sum, rest)
    else if UInt32.size ≤ weight * (36 - t) then none
    else number bias (k + 36) (weight * (36 - t)) sum rest

/-- Inserts characters as the numbers say: each number walks on from the place
`i` behind the last one, and every turn around the label goes to the next code
point. -/
def insertAll : Nat → Bool → Nat → Nat → Nat → List Char → List Char → Option (List Char)
  | _, _, _, _, _, out, [] => some out
  | 0, _, _, _, _, _, _ :: _ => none
  | fuel + 1, first, n, i, bias, out, code => do
    let (walked, rest) ← number bias 36 1 i code
    let count := out.length + 1
    let n := n + walked / count
    let place := walked % count
    if n.isValidChar then
      insertAll fuel false n (place + 1) (adapt (walked - i) count first)
        (out.take place ++ Char.ofNat n :: out.drop place) rest
    else none

/-- Reads a label back.  The last hyphen ends the ASCII characters; one with
nothing in front of it ends none and is no digit either. -/
def decode (code : List Char) : Option (List Char) :=
  let tail := (code.reverse.takeWhile (· != '-')).reverse
  if tail.length + 1 = code.length then none
  else
    let basic := code.take (code.length - tail.length - 1)
    insertAll tail.length true 128 0 72 basic tail

end Punycode

/-! ## Names in ASCII

A name is read in three steps.  Its characters are replaced by their images and
composed; its labels are checked one by one, a label that is already encoded
after it has been decoded; and its labels together must have one direction
each.  Then every label with characters beyond ASCII is encoded.
-/

namespace Name

def labels (cs : List Char) : List (List Char) :=
  ((String.ofList cs).splitOn ".").map String.toList

/-- ASCII characters that no name has. -/
def isForbidden (c : Char) : Bool :=
  c.toNat ≤ 0x20 || c.toNat = 0x7f || "#/:<>?@[\\]^|%".toList.contains c

def isAscii (cs : List Char) : Bool := cs.all (·.toNat < 128)

/-- A text with its characters replaced by their images and composed, if all
of them may stand in a name. -/
def folded? (cs : List Char) : Option (List Char) := do
  let images ← cs.mapM image?
  let cs := composed images.flatten
  if cs.any isForbidden then none else some cs

def encodedMark : List Char := "xn--".toList

def codeLimit : Nat := 2000

def labelLimit : Nat := 1000

/-- A label without its encoding.  A code stands for a label beyond ASCII whose
characters are already their own images. -/
def decoded? (label : List Char) : Option (List Char) :=
  if encodedMark.isPrefixOf label then
    let code := label.drop encodedMark.length
    if !isAscii code || code.isEmpty || code.getLast? = some '-' || code.length > codeLimit then
      none
    else do
      let cs ← Punycode.decode code
      if cs.all (fun c => image? c = some [c]) && folded? cs = some cs then some cs else none
  else some label

def isSound (label : List Char) : Bool :=
  isAscii label ||
    (!(label.head?.map Text.isMark).getD false && joinersFit [] label &&
      label.length ≤ labelLimit)

def encoded (label : List Char) : List Char :=
  if isAscii label then label else encodedMark ++ Punycode.encode label

/-- A name in ASCII and lower case, if it is one; percent-encoded bytes are
decoded first. -/
def ascii? (cs : List Char) : Option (List Char) := do
  let parts ← (labels (← folded? (← percentDecoded? cs))).mapM decoded?
  if parts.all isSound && directionsFit parts then
    some (".".intercalate (parts.map fun p => String.ofList (encoded p))).toList
  else none

end Name

/-! ## Addresses and names -/

/-- Why a text is no URL. -/
inductive Fault where
  | relative
  | emptyHost
  | invalidPort
  | invalidIpv4
  | invalidIpv6
  | invalidName
  | invalidCharacter
  deriving DecidableEq, Repr

def Fault.message : Fault → String
  | .relative => "relative URL without a base"
  | .emptyHost => "empty host"
  | .invalidPort => "invalid port number"
  | .invalidIpv4 => "invalid IPv4 address"
  | .invalidIpv6 => "invalid IPv6 address"
  | .invalidName => "invalid international domain name"
  | .invalidCharacter => "invalid domain character"

/-- A host. -/
inductive Host where
  | name (text : String)
  | ipv4 (value : Nat)
  | ipv6 (pieces : List Nat)
  deriving DecidableEq, Repr

/-! ## IPv4 -/

/-- A part of an IPv4 address: no number, a number that is too large, or a
number. -/
def ipv4Part (part : List Char) : Option (Option Nat) :=
  let read (base : Nat) (ds : List Char) : Option (Option Nat) :=
    let values := ds.map fun c => Hex.value? (UInt8.ofNat (min c.toNat 255))
    if values.all fun v => (v.map (decide <| · < base)).getD false then
      let n := values.foldl (fun n v => base * n + v.getD 0) 0
      some (if n < UInt32.size then some n else none)
    else none
  match part with
  | [] => none
  | '0' :: c :: rest => if c == 'x' || c == 'X' then read 16 rest else read 8 (c :: rest)
  | ds => read 10 ds

/-- Whether the last part of a name that is not empty is a number; a point at
the end is passed over once. -/
def endsInNumber (cs : List Char) : Bool :=
  let last := match (Name.labels cs).reverse with
    | [] :: part :: _ => part
    | part :: _ => part
    | [] => []
  (!last.isEmpty && last.all Text.isAsciiDigit) || (ipv4Part last).isSome

def readIpv4 (cs : List Char) : Except Fault Host :=
  let parts := match (Name.labels cs).reverse with
    | [] :: rest => rest.reverse
    | rest => rest.reverse
  match parts.mapM fun p => (ipv4Part p).bind id with
  | none => .error .invalidIpv4
  | some numbers =>
    let before := numbers.dropLast
    let last := numbers.getLast?.getD 0
    if numbers.length > 4 || numbers.isEmpty || before.any (· > 255) ||
        last ≥ Nat.pow 256 (4 - before.length) then .error .invalidIpv4
    else
      let high := before.foldl (fun n b => 256 * n + b) 0
      .ok (.ipv4 (high * Nat.pow 256 (4 - before.length) + last))

/-! ## IPv6 -/

/-- The pieces of an IPv4 address at the end of an IPv6 address. -/
def embeddedIpv4 (cs : List Char) : Option (List Nat) := do
  let numbers ← (Name.labels cs).mapM fun part =>
    if part.isEmpty || !part.all Text.isAsciiDigit || (part.length > 1 && part.head? = some '0') ||
      part.length > 3 then none
    else
      let n := part.foldl (fun n c => 10 * n + (c.toNat - 48)) 0
      if n ≤ 255 then some n else none
  match numbers with
  | [a, b, c, d] => some [256 * a + b, 256 * c + d]
  | _ => none

def ipv6Piece (cs : List Char) : Option Nat :=
  if cs.isEmpty || cs.length > 4 then none
  else cs.foldlM (fun n c => (Hex.value? (UInt8.ofNat (min c.toNat 255))).map (16 * n + ·)) 0

/-- The pieces between colons, the last of which may be an IPv4 address. -/
def ipv6Pieces : List (List Char) → Option (List Nat)
  | [] => some []
  | [last] => if last.contains '.' then embeddedIpv4 last else (ipv6Piece last).map fun n => [n]
  | p :: rest => do return (← ipv6Piece p) :: (← ipv6Pieces rest)

/-- The pieces of a side of an IPv6 address; a side may be empty. -/
def ipv6Side (cs : List Char) : Option (List Nat) :=
  if cs.isEmpty then some [] else ipv6Pieces (cs.splitOn ':')

/-- What stands between the double colons of a text. -/
def gapSides : List Char → List (List Char)
  | ':' :: ':' :: rest => [] :: gapSides rest
  | c :: rest =>
    match gapSides rest with
    | side :: sides => (c :: side) :: sides
    | [] => [[c]]
  | [] => [[]]

/-- An IPv6 address: eight pieces, or fewer with a gap of one or more. -/
def readIpv6 (cs : List Char) : Except Fault Host :=
  let pieces : Option (List Nat) := match gapSides cs with
    | [whole] => do
      let ps ← ipv6Side whole
      if ps.length = 8 then some ps else none
    | [left, right] => do
      if left.contains '.' then none
      else
        let ps ← ipv6Side left
        let qs ← ipv6Side right
        if ps.length + qs.length ≤ 7 then
          some (ps ++ List.replicate (8 - ps.length - qs.length) 0 ++ qs)
        else none
    | _ => none
  match pieces with
  | some ps => .ok (.ipv6 ps)
  | none => .error .invalidIpv6

/-! ## Hosts of both kinds -/

/-- The address between brackets, if a text is in brackets. -/
def bracketed? (cs : List Char) : Option (Except Fault Host) :=
  match cs with
  | '[' :: rest =>
    some (if rest.getLast? = some ']' then readIpv6 rest.dropLast else .error .invalidIpv6)
  | _ => none

/-- The host of a URL whose scheme has servers. -/
def Host.read (cs : List Char) : Except Fault Host :=
  match bracketed? cs with
  | some r => r
  | none =>
    match Name.ascii? cs with
    | none => .error .invalidName
    | some cs =>
      if cs.isEmpty then .error .emptyHost
      else if endsInNumber cs then readIpv4 cs
      else .ok (.name (String.ofList cs))

/-- The host of any other URL, which is kept as it is. -/
def Host.readPlain (cs : List Char) : Except Fault Host :=
  match bracketed? cs with
  | some r => r
  | none =>
    if cs.any fun c => c.toNat = 0 || " #/:<>?@[\\]^|".toList.contains c then
      .error .invalidCharacter
    else .ok (.name (String.ofList (percentEncoded (fun _ => false) cs)))

/-! ## Showing -/

/-- Where the first of the longest runs of zeros starts, and its length. -/
def longestGap : Nat → Nat × Nat → Nat × Nat → List Nat → Nat × Nat
  | _, best, _, [] => best
  | i, best, current, p :: rest =>
    let current := if p = 0 then (if current.2 = 0 then (i, 1) else (current.1, current.2 + 1))
      else (0, 0)
    longestGap (i + 1) (if current.2 > best.2 then current else best) current rest

def piecesText (ps : List Nat) : String :=
  ":".intercalate (ps.map fun p => String.ofList (Nat.toDigits 16 p))

def Host.display : Host → String
  | .name s => s
  | .ipv4 n =>
    s!"{n / 0x1000000}.{n / 0x10000 % 256}.{n / 0x100 % 256}.{n % 256}"
  | .ipv6 ps =>
    let (start, length) := longestGap 0 (0, 0) (0, 0) ps
    let inner :=
      if length < 2 then piecesText ps
      else piecesText (ps.take start) ++ "::" ++ piecesText (ps.drop (start + length))
    "[" ++ inner ++ "]"

end TwoStep.Url
