import TwoStep.Text.Basic
import TwoStep.Text.LowerCase
import TwoStep.Text.Quoted

/-!
# Priority fees

A priority fee is a whole number of wei that fits in 128 bits.  It is written
as an amount with a unit (`100 gwei`, `0.5 ether`, `42`), and shown in gwei
when that loses nothing.

Reading goes through named steps: trim, refuse a leading minus, split the unit
off at the first letter, look up how many decimal places the unit has, refuse
an amount that is finer than one wei, then drop the point and read the digits
with the exponent that is left.  A fraction longer than the unit allows is cut
at the end (`cut`); the check before it leaves only zeros to be cut.
-/

namespace TwoStep

/-- The least number that does not fit in 128 bits. -/
def Fee.bound : Nat := 0x100000000000000000000000000000000

/-- A number of wei that fits in 128 bits. -/
structure Fee where
  wei : Nat
  fits : wei < Fee.bound
  deriving DecidableEq, Repr

namespace Fee

def ofWei? (n : Nat) : Option Fee :=
  if h : n < bound then some ⟨n, h⟩ else none

/-- How many wei make a gwei. -/
def weiPerGwei : Nat := 1000000000

/-- The fee of a number of gwei.  A 64-bit number of gwei always fits. -/
def ofGwei (g : UInt64) : Fee where
  wei := g.toNat * weiPerGwei
  fits := by
    have := g.toNat_lt
    simp only [weiPerGwei, bound]
    omega

/-- The fee used when none is configured: 100 gwei. -/
def default : Fee := ofGwei 100

/-- Shows a fee in gwei if it is a nonzero whole number of gwei, in wei
otherwise. -/
def display (f : Fee) : String :=
  if f.wei ≠ 0 ∧ f.wei % weiPerGwei = 0 then s!"{f.wei / weiPerGwei} gwei" else s!"{f.wei} wei"

instance : ToString Fee := ⟨Fee.display⟩

/-- Decimal places of each unit, by its lower-case name. -/
def unitDecimals : List (String × Nat) := [
  ("wei", 0),
  ("kwei", 3), ("babbage", 3), ("femto", 3), ("femtoether", 3),
  ("mwei", 6), ("lovelace", 6), ("pico", 6), ("picoether", 6),
  ("gwei", 9), ("shannon", 9), ("nano", 9), ("nanoether", 9),
  ("twei", 12), ("szabo", 12), ("micro", 12), ("microether", 12),
  ("pwei", 15), ("finney", 15), ("milli", 15), ("milliether", 15),
  ("eth", 18), ("ether", 18)]

/-- What is wrong with an amount and its unit. -/
inductive Fault where
  | missingAmount
  | unknownUnit (unit : String)
  | tooFine (decimals : Nat) (unit : String)
  | badDigit (c : Char)
  | tooLarge
  deriving DecidableEq, Repr

def Fault.message : Fault → String
  | .missingAmount => "missing amount"
  | .unknownUnit unit => s!"{Text.quoted unit} is not a valid unit"
  | .tooFine decimals unit => s!"more than {decimals} decimal places for {unit}"
  | .badDigit c => s!"invalid digit: {c}"
  | .tooLarge => "number does not fit in the integer size"

/-- Why a text is not a fee.  The input is kept as trimmed. -/
inductive ReadError where
  | empty
  | negative (input : String)
  | invalid (input : String) (fault : Fault)
  | overflow (input : String)
  deriving DecidableEq, Repr

def ReadError.message : ReadError → String
  | .empty => "priority fee is empty"
  | .negative input => s!"priority fee cannot be negative: {input}"
  | .invalid input fault => s!"invalid priority fee '{input}': {fault.message}"
  | .overflow input => s!"priority fee '{input}' does not fit in 128 bits of wei"

/-- Splits a text in front of its first ASCII letter. -/
def splitUnit (cs : List Char) : List Char × List Char :=
  (cs.takeWhile (!Text.isAsciiLetter ·), cs.dropWhile (!Text.isAsciiLetter ·))

/-- The name of the unit: what follows the amount in lower case, or wei. -/
def unitName (cs : List Char) : String :=
  match Text.trim cs with
  | [] => "wei"
  | u => String.ofList (Text.asciiLower u)

/-- Splits an amount at its first point. -/
def splitPoint (cs : List Char) : Option (List Char × List Char) :=
  match cs.dropWhile (· ≠ '.') with
  | [] => none
  | _ :: fraction => some (cs.takeWhile (· ≠ '.'), fraction)

def dropTrailingZeros (cs : List Char) : List Char :=
  (cs.reverse.dropWhile (· = '0')).reverse

/-- Whether an amount has digits below one unit of the last decimal place:
the fraction, without the zeros at its end, is longer in bytes than the
decimal places allow. -/
def isTooFine (decimals : Nat) (amount : List Char) : Bool :=
  match splitPoint amount with
  | none => false
  | some (_, fraction) => decimals < Text.byteLength (dropTrailingZeros fraction)

/-- The bytes of an amount without its first point, and how many of them
stood behind the point. -/
def withoutPoint (amount : List Char) : List UInt8 × Nat :=
  match splitPoint amount with
  | none => (Text.bytes amount, 0)
  | some (whole, fraction) =>
    let tail := Text.bytes fraction
    (Text.bytes whole ++ tail, tail.length)

/-- How many bytes are cut from the end of an amount whose fraction has
`places` bytes. -/
def cutLength (decimals places : Nat) : Nat := places - decimals

def kept (decimals : Nat) (amount : List Char) : List UInt8 :=
  let (bs, places) := withoutPoint amount
  bs.take (bs.length - cutLength decimals places)

def cut (decimals : Nat) (amount : List Char) : List UInt8 :=
  let (bs, places) := withoutPoint amount
  bs.drop (bs.length - cutLength decimals places)

/-- The least number that does not fit in 256 bits. -/
def readingBound : Nat :=
  0x10000000000000000000000000000000000000000000000000000000000000000

/-- Reads decimal digits into 256 bits, continuing `acc`.  Underscores are
skipped; the first byte that is no digit, or the first digit that makes the
number too large, is the fault. -/
def readDigits (acc : Nat) : List UInt8 → Except Fault Nat
  | [] => .ok acc
  | b :: rest =>
    if b = 95 then readDigits acc rest
    else if 48 ≤ b ∧ b ≤ 57 then
      let next := 10 * acc + (b.toNat - 48)
      if next < readingBound then readDigits next rest else .error .tooLarge
    else .error (.badDigit (Text.ofByte b))

/-- The number of wei an amount stands for in a unit with the given decimal
places. -/
def scale (decimals : Nat) (amount : List Char) : Except Fault Nat := do
  let n ← readDigits 0 (kept decimals amount)
  let wei := n * Nat.pow 10 (decimals - (withoutPoint amount).2)
  if wei < readingBound then .ok wei else .error .tooLarge

/-- Reads an amount and its unit, both given with the blanks around them. -/
def readAmount (amount unit : List Char) : Except Fault Nat := do
  let amount := Text.trim amount
  let unit := unitName unit
  if amount.isEmpty then .error .missingAmount
  else
    match unitDecimals.lookup unit with
    | none => .error (.unknownUnit unit)
    | some decimals =>
      if isTooFine decimals amount then .error (.tooFine decimals unit)
      else scale decimals amount

def read (s : String) : Except ReadError Fee :=
  let input := Text.trim s.toList
  let shown := String.ofList input
  match input with
  | [] => .error .empty
  | '-' :: _ => .error (.negative shown)
  | _ =>
    let (amount, unit) := splitUnit input
    match readAmount amount unit with
    | .error fault => .error (.invalid shown fault)
    | .ok wei =>
      match ofWei? wei with
      | some fee => .ok fee
      | none => .error (.overflow shown)

end Fee

end TwoStep
