import TwoStep.Crypto
import TwoStep.Fee
import TwoStep.Hex

/-!
# Calls on a two-step ownable contract

A contract with two-step ownership has an owner and a pending owner.  The
owner nominates the pending owner (`setPendingOwner`), and the pending owner
takes over (`acceptOwnership`).  This module holds what is said to such a
contract and what comes back: calls with their sender and fee, receipts, and a
snapshot of the two slots.
-/

namespace TwoStep

/-! ## Addresses and transaction hashes

An account or contract is named by twenty bytes, a transaction by thirty-two.
Both have one lower-case hexadecimal form; an address also has a checksummed
form, in which the case of each letter repeats a bit of the digest of the
lower-case digits.  Reading takes either case and does not verify a checksum.
-/

/-- The name of an account or a contract. -/
structure Address where
  bits : BitVec 160
  deriving DecidableEq, Repr

/-- The name of a transaction. -/
structure TxHash where
  bits : BitVec 256
  deriving DecidableEq, Repr

namespace Address

/-- The address that stands for "nobody". -/
def zero : Address := ⟨0#160⟩

def digits (a : Address) : List Char :=
  Hex.digits 40 a.bits.toNat

def hex (a : Address) : String :=
  String.ofList ('0' :: 'x' :: a.digits)

/-- The halves of each byte, highest first. -/
def nibbles (bs : List UInt8) : List Nat :=
  bs.flatMap fun b => [b.toNat / 16, b.toNat % 16]

/-- The checksummed digits: a letter is a capital iff the digest of the
lower-case digits has at the same place a digit of eight or more. -/
def checksumDigits (ds : List Char) : List Char :=
  List.zipWith (fun c n => if 8 ≤ n then c.toUpper else c) ds
    (nibbles (Keccak.hash (Text.bytes ds)))

/-- The checksummed form, in which an address is shown. -/
def checksum (a : Address) : String :=
  String.ofList ('0' :: 'x' :: checksumDigits a.digits)

/-- Reads forty digits in either case, with an optional marker. -/
def read (s : String) : Except Hex.Fault Address :=
  (Hex.read 40 s).map fun n => ⟨BitVec.ofNat 160 n⟩

/-- The address made of twenty bytes, highest first. -/
def ofBytes? (bs : List Nat) : Option Address :=
  if bs.length = 20 && bs.all (· < 256) then some ⟨BitVec.ofNat 160 (Hex.ofBytes bs)⟩ else none

/-- The address of a public key: the last twenty bytes of its digest. -/
def ofPublicKey (x y : Nat) : Address :=
  let digest := Keccak.hash (Hex.toBytes 32 x ++ Hex.toBytes 32 y)
  ⟨BitVec.ofNat 160 (Hex.ofBytes ((digest.drop 12).map UInt8.toNat))⟩

end Address

namespace TxHash

def hex (h : TxHash) : String :=
  String.ofList ('0' :: 'x' :: Hex.digits 64 h.bits.toNat)

/-- Reads sixty-four digits in either case, with an optional marker. -/
def read (s : String) : Except Hex.Fault TxHash :=
  (Hex.read 64 s).map fun n => ⟨BitVec.ofNat 256 n⟩

def ofBytes? (bs : List Nat) : Option TxHash :=
  if bs.length = 32 && bs.all (· < 256) then some ⟨BitVec.ofNat 256 (Hex.ofBytes bs)⟩ else none

def ofDigest (msg : List UInt8) : TxHash :=
  ⟨BitVec.ofNat 256 (Hex.ofBytes ((Keccak.hash msg).map UInt8.toNat))⟩

end TxHash

instance : ToString Address := ⟨Address.checksum⟩

instance : ToString TxHash := ⟨TxHash.hex⟩

/-! ## Calls and their outcome -/

/-- A contract found on the chain. -/
structure Contract where
  address : Address
  deriving DecidableEq, Repr

/-- An account with a label under which its key is kept. -/
structure Signer where
  label : String
  address : Address
  deriving DecidableEq, Repr

/-- The two calls that change ownership. -/
inductive Call where
  | setPendingOwner (pendingOwner : Address)
  | acceptOwnership
  deriving DecidableEq, Repr

/-- Who submits a call, and the priority fee offered for it. -/
structure CallOptions where
  sender : Signer
  fee : Fee
  deriving DecidableEq, Repr

/-- Proof that a call went through. -/
structure Receipt where
  method : String
  txHash : TxHash
  block : Option UInt64
  deriving DecidableEq, Repr

/-- The ownership slots of a contract. -/
structure Snapshot where
  owner : Address
  pendingOwner : Address
  deriving DecidableEq, Repr

def Contract.display (c : Contract) : String := c.address.checksum

def Signer.display (s : Signer) : String := s!"{s.label} ({s.address})"

def Call.method : Call → String
  | .setPendingOwner _ => "setPendingOwner"
  | .acceptOwnership => "acceptOwnership"

def Call.display : Call → String
  | .setPendingOwner a => s!"setPendingOwner({a})"
  | .acceptOwnership => "acceptOwnership()"

/-- The pending owner, unless the slot holds the zero address. -/
def Snapshot.pending (s : Snapshot) : Option Address :=
  if s.pendingOwner = Address.zero then none else some s.pendingOwner

instance : ToString Contract := ⟨Contract.display⟩

instance : ToString Signer := ⟨Signer.display⟩

instance : ToString Call := ⟨Call.display⟩

/-! ## Call data

A call travels as bytes: four that select the function, the first of the
digest of its signature, and then its arguments, each filled up to thirty-two
bytes.  What a reading function returns is an address in the same form.
-/

def selector (signature : String) : List UInt8 :=
  (Keccak.hash (Text.bytes signature.toList)).take 4

def Address.toBytes (a : Address) : List UInt8 := Hex.toBytes 20 a.bits.toNat

def Address.ofByteList (bs : List UInt8) : Address :=
  ⟨BitVec.ofNat 160 (Hex.ofBytes (bs.map UInt8.toNat))⟩

def Address.argument (a : Address) : List UInt8 := List.replicate 12 0 ++ a.toBytes

def nominationSelector : List UInt8 := selector "setPendingOwner(address)"

def acceptanceSelector : List UInt8 := selector "acceptOwnership()"

/-- The bytes of a call. -/
def Call.data : Call → List UInt8
  | .setPendingOwner a => nominationSelector ++ a.argument
  | .acceptOwnership => acceptanceSelector

def Call.ofData? (bs : List UInt8) : Option Call :=
  if bs = acceptanceSelector then some .acceptOwnership
  else if bs.length = 36 && bs.take 4 = nominationSelector &&
      (bs.drop 4).take 12 = List.replicate 12 0 then
    some (.setPendingOwner (Address.ofByteList (bs.drop 16)))
  else none

/-- The two functions that only read. -/
inductive View where
  | owner
  | pendingOwner
  deriving DecidableEq, Repr

def View.method : View → String
  | .owner => "owner"
  | .pendingOwner => "pendingOwner"

/-- Why returned bytes are no address. -/
inductive ViewFault where
  | empty
  | short
  deriving DecidableEq, Repr

def ViewFault.message (method : String) : ViewFault → String
  | .empty => s!"contract call to `{method}` returned no data (\"0x\"); " ++
      "the called address might not be a contract"
  | .short => "ABI decoding failed: buffer overrun while deserializing"

/-- The address in returned bytes: the last twenty of the first thirty-two. -/
def decodeAddress (bs : List UInt8) : Except ViewFault Address :=
  if bs.isEmpty then .error .empty
  else if bs.length < 32 then .error .short
  else .ok (Address.ofByteList ((bs.drop 12).take 20))

/-! ## Failures

The causes for which a question to the chain or a submitted call fails.  Only
a revert means that the contract itself refused the call.
-/

/-- Why a chain client could not answer. -/
inductive ClientError where
  | unknownSigner (address : Address)
  | signing (message : String)
  | noCode (address : Address)
  | invalidEndpoint (url message : String)
  | transport (message : String)
  | rejected (method message : String)
  | reverted (method : String) (txHash : Option TxHash) (reason : String)
  deriving DecidableEq, Repr

namespace ClientError

def message : ClientError → String
  | .unknownSigner a => s!"no key registered for signer {a}"
  | .signing m => s!"signing unavailable: {m}"
  | .noCode a => s!"no contract code deployed at {a}"
  | .invalidEndpoint url m => s!"invalid RPC endpoint '{url}': {m}"
  | .transport m => s!"transport error: {m}"
  | .rejected method m => s!"{method} rejected: {m}"
  | .reverted method none reason => s!"{method} reverted: {reason}"
  | .reverted method (some h) reason => s!"{method} reverted in {h}: {reason}"

def isRevert : ClientError → Bool
  | .reverted .. => true
  | _ => false

end ClientError

end TwoStep
