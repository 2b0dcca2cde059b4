import TwoStep.Chain.Session

/-!
# A two-step ownable contract in memory

A `Ledger` is one contract with its two ownership slots, the accounts whose
keys are registered, failures to be injected by method, the log of submitted
calls and the height of its chain.  Nothing leaves the process, so a ledger
serves for a dry run.

A submission is refused without a trace if it names another contract or an
unregistered sender.  Otherwise it is recorded; then an injected failure for
its method fires once, or the contract's own rules decide: only the owner
nominates, nobody nominates the zero address, only the pending owner accepts.
-/

namespace TwoStep

/-- A submission as the contract recorded it. -/
structure RecordedCall where
  contract : Address
  call : Call
  sender : Address
  fee : Fee
  deriving DecidableEq, Repr

/-- A contract in memory. -/
structure Ledger where
  address : Address
  owner : Address
  pendingOwner : Address := Address.zero
  signers : List Address := []
  failures : List (String × ClientError) := []
  calls : List RecordedCall := []
  block : UInt64 := 0
  deriving DecidableEq, Repr

namespace Ledger

def new (address owner : Address) : Ledger where
  address := address
  owner := owner

def register (a : Address) (l : Ledger) : Ledger :=
  if a ∈ l.signers then l else { l with signers := l.signers ++ [a] }

/-- Arms a failure for the next recorded call of a method; a failure armed
before is replaced. -/
def failNext (method : String) (e : ClientError) (l : Ledger) : Ledger :=
  { l with failures := l.failures.filter (·.1 ≠ method) ++ [(method, e)] }

def snapshot (l : Ledger) : Snapshot := ⟨l.owner, l.pendingOwner⟩

/-- The hash of the call with a given number: the digest of the number as
eight bytes. -/
def txHash (number : Nat) : TxHash :=
  TxHash.ofDigest (Hex.toBytes 8 number)

/-- The contract's own rules: the slots after a call, or the reason to
refuse it. -/
def apply (sender : Address) (call : Call) (s : Snapshot) : Except String Snapshot :=
  match call with
  | .setPendingOwner a =>
    if sender ≠ s.owner then .error "caller is not the owner"
    else if a = Address.zero then .error "new owner is the zero address"
    else .ok { s with pendingOwner := a }
  | .acceptOwnership =>
    if s.pendingOwner = Address.zero ∨ sender ≠ s.pendingOwner then
      .error "caller is not pending owner"
    else .ok ⟨s.pendingOwner, Address.zero⟩

def logTarget : String := "ownership_handoff::chain::memory"

def submit (c : Contract) (call : Call) (o : CallOptions) (l : Ledger) :
    Turn Ledger (Except ClientError Receipt) :=
  let sender := o.sender.address
  if c.address ≠ l.address then ⟨.error (.noCode c.address), l, []⟩
  else if sender ∉ l.signers then ⟨.error (.unknownSigner sender), l, []⟩
  else
    let calls := l.calls ++ [⟨l.address, call, sender, o.fee⟩]
    let hash := txHash calls.length
    match l.failures.lookup call.method with
    | some e =>
      ⟨.error e,
        { l with calls := calls, failures := l.failures.filter (·.1 ≠ call.method) },
        [⟨.debug, logTarget, "Injected failure",
          [("method", .text call.method), ("from", .shown sender.checksum)]⟩]⟩
    | none =>
      match apply sender call l.snapshot with
      | .error reason =>
        ⟨.error (.reverted call.method (some hash) reason), { l with calls := calls }, []⟩
      | .ok s =>
        let block := l.block + 1
        ⟨.ok ⟨call.method, hash, some block⟩,
          { l with
            owner := s.owner, pendingOwner := s.pendingOwner, calls := calls, block := block },
          [⟨.debug, logTarget, "Call applied",
            [("method", .text call.method), ("from", .shown sender.checksum),
              ("block", .number block.toNat)]⟩]⟩

def readSlot (c : Contract) (slot : Address) (l : Ledger) :
    Turn Ledger (Except ClientError Address) :=
  ⟨if c.address = l.address then .ok slot else .error (.noCode c.address), l, []⟩

def client : Client Ledger
  | .contractAt a, l => ⟨if a = l.address then .ok ⟨a⟩ else .error (.noCode a), l, []⟩
  | .owner c, l => l.readSlot c l.owner
  | .pendingOwner c, l => l.readSlot c l.pendingOwner
  | .submit c call o, l => l.submit c call o

end Ledger

end TwoStep
