import TwoStep.Text.Basic
import TwoStep.Text.Quoted

/-!
# Hexadecimal text of a fixed width

`Hex.digits` writes a number with a fixed count of lower-case digits, and
`Hex.read` reads exactly that many, in either case and with an optional `0x`
or `0X` in front.  Reading looks at bytes: the parity of the length is checked
first, then the length, then the digits from left to right.
-/

namespace TwoStep

namespace Hex

def digit (n : Nat) : Char :=
  if n < 10 then Char.ofNat (48 + n) else Char.ofNat (87 + n)

/-- The lowest `width` digits of `n`, highest first. -/
def digits : Nat → Nat → List Char
  | 0, _ => []
  | width + 1, n => digits width (n / 16) ++ [digit (n % 16)]

def value? (b : UInt8) : Option Nat :=
  let n := b.toNat
  if 48 ≤ n && n ≤ 57 then some (n - 48)
  else if 97 ≤ n && n ≤ 102 then some (n - 87)
  else if 65 ≤ n && n ≤ 70 then some (n - 55)
  else none

/-- Why a text is not a hexadecimal number of the expected width. -/
inductive Fault where
  | oddLength
  | badLength
  /-- The first byte that is no digit, as a character, and its position
  behind the marker. -/
  | badDigit (c : Char) (position : Nat)
  deriving DecidableEq, Repr

def Fault.message : Fault → String
  | .oddLength => "odd number of digits"
  | .badLength => "invalid string length"
  | .badDigit c i => s!"invalid character {Text.quotedChar c} at position {i}"

def dropMarker : List UInt8 → List UInt8
  | 48 :: 120 :: rest => rest
  | 48 :: 88 :: rest => rest
  | bs => bs

/-- The number spelled by a list of digits, continuing `acc`; `position`
counts the digits read so far. -/
def readDigits (acc position : Nat) : List UInt8 → Except Fault Nat
  | [] => .ok acc
  | b :: rest =>
    match value? b with
    | some v => readDigits (16 * acc + v) (position + 1) rest
    | none => .error (.badDigit (Text.ofByte b) position)

/-- Reads a number of exactly `width` digits. -/
def read (width : Nat) (s : String) : Except Fault Nat :=
  let bs := Text.bytes s.toList
  if bs.length % 2 = 1 then .error .oddLength
  else
    let ds := dropMarker bs
    if ds.length = width then readDigits 0 0 ds else .error .badLength

/-- The number whose bytes, highest first, are given. -/
def ofBytes (bs : List Nat) : Nat :=
  bs.foldl (fun acc b => 256 * acc + b) 0

/-- The lowest `count` bytes of `n`, highest first. -/
def toBytes : Nat → Nat → List UInt8
  | 0, _ => []
  | count + 1, n => toBytes count (n / 256) ++ [UInt8.ofNat (n % 256)]

end Hex

/-! ## Random identifiers

An identifier of version four: sixteen random bytes, of which six bits are
fixed to mark the version and the variant, in five groups of hexadecimal
digits.
-/

namespace Uuid

/-- Fixes the bits that mark version and variant. -/
def marked (bytes : List UInt8) : List UInt8 :=
  bytes.zipIdx.map fun (b, i) =>
    if i = 6 then (b &&& 0x0f) ||| 0x40
    else if i = 8 then (b &&& 0x3f) ||| 0x80
    else b

def group (bytes : List UInt8) : String :=
  String.ofList (Hex.digits (2 * bytes.length) (Hex.ofBytes (bytes.map UInt8.toNat)))

def ofRandom (bytes : List UInt8) : String :=
  let bs := marked bytes
  "-".intercalate [group (bs.take 4), group ((bs.drop 4).take 2), group ((bs.drop 6).take 2),
    group ((bs.drop 8).take 2), group (bs.drop 10)]

end Uuid

end TwoStep
