/-!
# Digests and keys

Two pieces of cryptography: the digest from which addresses and selectors are
cut, and the curve on which a key has its address.
-/

namespace TwoStep

/-! ## Keccak-256

The sponge with rate 136 bytes over the permutation `keccakF` of twenty-five
64-bit lanes, with the padding byte `0x01` that predates the SHA-3 standard.
Lane `(x, y)` stands at index `x + 5 * y`; bytes enter and leave a lane lowest
first.
-/

namespace Keccak

/-- The state of the sponge: twenty-five lanes. -/
abbrev State := Array UInt64

/-- The lane at column `x` and row `y`. -/
def lane (s : State) (x y : Nat) : UInt64 :=
  s.getD (x % 5 + 5 * (y % 5)) 0

def roundConstants : List UInt64 := [
  0x0000000000000001, 0x0000000000008082, 0x800000000000808a, 0x8000000080008000,
  0x000000000000808b, 0x0000000080000001, 0x8000000080008081, 0x8000000000008009,
  0x000000000000008a, 0x0000000000000088, 0x0000000080008009, 0x000000008000000a,
  0x000000008000808b, 0x800000000000008b, 0x8000000000008089, 0x8000000000008003,
  0x8000000000008002, 0x8000000000000080, 0x000000000000800a, 0x800000008000000a,
  0x8000000080008081, 0x8000000000008080, 0x0000000080000001, 0x8000000080008008]

/-- How far each lane is rotated, by index. -/
def rotations : Array Nat := #[
  0, 1, 62, 28, 27,
  36, 44, 6, 55, 20,
  3, 10, 43, 25, 39,
  41, 45, 15, 21, 8,
  18, 2, 61, 56, 14]

def rotl (w : UInt64) (n : Nat) : UInt64 :=
  if n % 64 = 0 then w
  else (w <<< UInt64.ofNat (n % 64)) ||| (w >>> UInt64.ofNat (64 - n % 64))

def build (f : Nat → Nat → UInt64) : State :=
  (Array.range 25).map fun i => f (i % 5) (i / 5)

/-- Adds to each lane the parities of two neighbouring columns. -/
def theta (s : State) : State :=
  let parity := (Array.range 5).map fun x =>
    lane s x 0 ^^^ lane s x 1 ^^^ lane s x 2 ^^^ lane s x 3 ^^^ lane s x 4
  build fun x y =>
    lane s x y ^^^ parity.getD ((x + 4) % 5) 0 ^^^ rotl (parity.getD ((x + 1) % 5) 0) 1

/-- Rotates each lane by its own distance and moves it to its new place. -/
def rhoPi (s : State) : State :=
  build fun x y =>
    let fromX := (x + 3 * y) % 5
    rotl (lane s fromX x) (rotations.getD (fromX + 5 * x) 0)

/-- Mixes each lane with the two lanes to its right. -/
def chi (s : State) : State :=
  build fun x y => lane s x y ^^^ (~~~(lane s (x + 1) y) &&& lane s (x + 2) y)

/-- Adds a round constant to the first lane. -/
def iota (rc : UInt64) (s : State) : State :=
  s.setIfInBounds 0 (lane s 0 0 ^^^ rc)

/-- The permutation: twenty-four rounds. -/
def keccakF (s : State) : State :=
  roundConstants.foldl (fun s rc => iota rc (chi (rhoPi (theta s)))) s

/-- Bytes absorbed per application of the permutation. -/
def rate : Nat := 136

/-- The number spelled by up to eight bytes, lowest first. -/
def wordOfBytes (bs : List UInt8) : UInt64 :=
  bs.foldr (fun b acc => (acc <<< 8) ||| b.toUInt64) 0

/-- The eight bytes of a lane, lowest first. -/
def bytesOfWord (w : UInt64) : List UInt8 :=
  (List.range 8).map fun i => (w >>> UInt64.ofNat (8 * i)).toUInt8

/-- Adds a block of `rate` bytes to the state and permutes it. -/
def absorb (s : State) (block : List UInt8) : State :=
  keccakF ((Array.range 25).map fun i =>
    s.getD i 0 ^^^ wordOfBytes ((block.drop (8 * i)).take 8))

/-- Fills a message up to a whole number of blocks: a `0x01`, zeros, and the
top bit of the last byte. -/
def pad (msg : List UInt8) : List UInt8 :=
  let free := rate - msg.length % rate
  if free = 1 then msg ++ [0x81]
  else msg ++ [0x01] ++ List.replicate (free - 2) 0 ++ [0x80]

/-- Absorbs `count` blocks from the front of a padded message. -/
def absorbBlocks : Nat → State → List UInt8 → State
  | 0, s, _ => s
  | count + 1, s, msg => absorbBlocks count (absorb s (msg.take rate)) (msg.drop rate)

/-- The Keccak-256 digest of a message. -/
def hash (msg : List UInt8) : List UInt8 :=
  let padded := pad msg
  let s := absorbBlocks (padded.length / rate) (Array.replicate 25 0) padded
  ((List.range 4).flatMap fun i => bytesOfWord (s.getD i 0))

end Keccak

/-! ## The curve secp256k1

Points of `y² = x³ + 7` over the prime field of `fieldOrder`, in Jacobian
coordinates: `(x, y, z)` stands for `(x / z², y / z³)`, and `z = 0` for the
point at infinity.  A private key is a number from 1 to `groupOrder - 1`; its
public key is that multiple of the base point.
-/

namespace Secp256k1

def fieldOrder : Nat :=
  0xfffffffffffffffffffffffffffffffffffffffffffffffffffffffefffffc2f

def groupOrder : Nat :=
  0xfffffffffffffffffffffffffffffffebaaedce6af48a03bbfd25e8cd0364141

/-- A point in Jacobian coordinates. -/
structure Point where
  x : Nat
  y : Nat
  z : Nat
  deriving DecidableEq, Repr

def infinity : Point := ⟨1, 1, 0⟩

def base : Point where
  x := 0x79be667ef9dcbbac55a06295ce870b07029bfcdb2dce28d959f2815b16f81798
  y := 0x483ada7726a3c4655da4fbfc0e1108a8fd17b448a68554199c47d08ffb10d4b8
  z := 1

def mul (a b : Nat) : Nat := a * b % fieldOrder

def sub (a b : Nat) : Nat := (a + fieldOrder - b % fieldOrder) % fieldOrder

def double (p : Point) : Point :=
  if p.z = 0 || p.y = 0 then infinity
  else
    let yy := mul p.y p.y
    let s := mul 4 (mul p.x yy)
    let m := mul 3 (mul p.x p.x)
    let x := sub (mul m m) (mul 2 s)
    let y := sub (mul m (sub s x)) (mul 8 (mul yy yy))
    ⟨x, y, mul 2 (mul p.y p.z)⟩

def plus (p q : Point) : Point :=
  if p.z = 0 then q
  else if q.z = 0 then p
  else
    let pzz := mul p.z p.z
    let qzz := mul q.z q.z
    let u := mul p.x qzz
    let v := mul q.x pzz
    let s := mul p.y (mul q.z qzz)
    let t := mul q.y (mul p.z pzz)
    if u = v then
      if s = t then double p else infinity
    else
      let h := sub v u
      let r := sub t s
      let hh := mul h h
      let hhh := mul h hh
      let uhh := mul u hh
      let x := sub (sub (mul r r) hhh) (mul 2 uhh)
      let y := sub (mul r (sub uhh x)) (mul s hhh)
      ⟨x, y, mul h (mul p.z q.z)⟩

/-- Adds to `acc` the multiple `k` of `p`, reading `bits` binary digits of `k`
from the lowest. -/
def timesFrom : Nat → Nat → Point → Point → Point
  | 0, _, _, acc => acc
  | bits + 1, k, p, acc =>
    timesFrom bits (k / 2) (double p) (if k % 2 = 1 then plus acc p else acc)

/-- The multiple `k` of a point, for `k` below `2 ^ 256`. -/
def times (k : Nat) (p : Point) : Point :=
  timesFrom 256 k p infinity

/-- The power `b ^ e` in the field, reading `bits` binary digits of `e` from
the lowest. -/
def powFrom : Nat → Nat → Nat → Nat → Nat
  | 0, _, _, acc => acc
  | bits + 1, e, b, acc =>
    powFrom bits (e / 2) (mul b b) (if e % 2 = 1 then mul acc b else acc)

/-- The inverse of a nonzero field element, by Fermat's little theorem. -/
def inverse (a : Nat) : Nat :=
  powFrom 256 (fieldOrder - 2) a 1

/-- The coordinates of a point other than infinity. -/
def affine (p : Point) : Nat × Nat :=
  let i := inverse p.z
  let ii := mul i i
  (mul p.x ii, mul p.y (mul i ii))

def publicKey (k : Nat) : Nat × Nat :=
  affine (times k base)

end Secp256k1

end TwoStep
