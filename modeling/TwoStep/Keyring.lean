import TwoStep.Chain.Call
import TwoStep.Crypto
import TwoStep.Log.Record
import TwoStep.Process

/-!
# Keys by label

Private keys are read from environment variables and kept under a label, one
key per label, in the order in which they were last loaded.  The keyring makes
a wallet in which the first key is the default.
-/

namespace TwoStep

/-- A private key: a nonzero number below the order of the curve. -/
structure PrivateKey where
  value : Nat
  isValid : 0 < value ∧ value < Secp256k1.groupOrder
  deriving DecidableEq

namespace PrivateKey

/-- Why a text is no private key. -/
inductive Fault where
  | hex (fault : Hex.Fault)
  | outOfRange
  deriving DecidableEq, Repr

def Fault.message : Fault → String
  | .hex f => f.message
  | .outOfRange => "signature error"

/-- Reads sixty-four hexadecimal digits, with blanks around them. -/
def read (s : String) : Except Fault PrivateKey :=
  match Hex.read 64 (Text.trimmed s) with
  | .error f => .error (.hex f)
  | .ok n =>
    if h : 0 < n ∧ n < Secp256k1.groupOrder then .ok ⟨n, h⟩ else .error .outOfRange

def address (k : PrivateKey) : Address :=
  let (x, y) := Secp256k1.publicKey k.value
  Address.ofPublicKey x y

end PrivateKey

/-- Why a key is not available. -/
inductive KeyError where
  | missingVariable (label var : String)
  | invalidKey (label : String) (fault : PrivateKey.Fault)
  | unknownLabel (label : String)
  | empty
  deriving DecidableEq, Repr

def KeyError.message : KeyError → String
  | .missingVariable label var => s!"environment variable {var} for {label} is not set"
  | .invalidKey label fault => s!"private key for {label} is invalid: {fault.message}"
  | .unknownLabel label => s!"no key loaded for {label}"
  | .empty => "keyring is empty"

/-- A key under its label, with the address it controls. -/
structure LabelledKey where
  label : String
  key : PrivateKey
  address : Address
  deriving DecidableEq

/-- Labelled keys, the one loaded last at the end. -/
structure Keyring where
  keys : List LabelledKey := []
  deriving DecidableEq

/-- A set of keys to sign with, one of which is the default. -/
structure Wallet where
  default : Address
  signers : List Address
  deriving DecidableEq, Repr

def Wallet.register (w : Wallet) (a : Address) : Wallet :=
  if a ∈ w.signers then w else { w with signers := w.signers ++ [a] }

namespace Keyring

def currentOwner : String := "current-owner"

def newOwner : String := "new-owner"

/-- The keyring with a key put under a label, in place of the one there. -/
def put (ring : Keyring) (label : String) (key : PrivateKey) : Keyring :=
  ⟨ring.keys.filter (·.label ≠ label) ++ [⟨label, key, key.address⟩]⟩

def insert (ring : Keyring) (label text : String) : Except KeyError (Signer × Keyring) :=
  match PrivateKey.read text with
  | .error f => .error (.invalidKey label f)
  | .ok key => .ok (⟨label, key.address⟩, ring.put label key)

def loadVariable (ring : Keyring) (env : Environment) (label var : String) :
    Except KeyError (Signer × Keyring) :=
  match env.get? var with
  | none => .error (.missingVariable label var)
  | some text => ring.insert label text

/-- Loads the current owner's key and then the new owner's. -/
def ofEnvironment (env : Environment) (currentVar newVar : String) : Except KeyError Keyring := do
  let (_, ring) ← Keyring.loadVariable {} env currentOwner currentVar
  let (_, ring) ← ring.loadVariable env newOwner newVar
  return ring

def signer (ring : Keyring) (label : String) : Except KeyError Signer :=
  match ring.keys.find? (·.label = label) with
  | some k => .ok ⟨k.label, k.address⟩
  | none => .error (.unknownLabel label)

def addresses (ring : Keyring) : List Address :=
  ring.keys.map (·.address)

/-- The wallet of all keys, the first being the default. -/
def wallet (ring : Keyring) : Except KeyError Wallet :=
  match ring.addresses with
  | [] => .error .empty
  | first :: rest => .ok (rest.foldl Wallet.register ⟨first, [first]⟩)

def loadedNote (s : Signer) : Log.Record :=
  ⟨.debug, "ownership_handoff::keys", "Loaded signing key",
    [("label", .shown s.label), ("address", .shown s.address.checksum)]⟩

end Keyring

end TwoStep
