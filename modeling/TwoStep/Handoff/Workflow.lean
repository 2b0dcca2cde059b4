import TwoStep.Chain.Call
import TwoStep.Handoff.Phase
import TwoStep.Instant

/-!
# Handing a contract over

The dialogues with a chain client by which ownership moves: `resolve` finds
the contract, `snapshot` reads its slots, `transferOwnership` nominates the new
owner and lets it accept, and `acceptPending` finishes a hand-over whose
nomination already stands.  Each stops at the first question that fails, and
reports at which one.

A workflow tells its events to something that follows it, of which it knows no
more than how to feed it and which phase it is in.  In a run that is a
`Machine`, fed by `advance`.
-/

namespace TwoStep.Handoff

/-! ## Failures

Each failure names the call at which the hand-over stopped and carries the
client's error; only a failed acceptance leaves the contract with a pending
owner.
-/

/-- Why a hand-over stopped. -/
inductive TransferError where
  | resolve (address : Address) (source : ClientError)
  | snapshot (contract : Address) (source : ClientError)
  | nomination (pendingOwner : Address) (source : ClientError)
  | acceptance (newOwner : Address) (nominationTx : Option TxHash) (source : ClientError)
  | notNominated (contract newOwner pendingOwner : Address)
  deriving DecidableEq, Repr

namespace TransferError

/-- The client's error behind a failure. -/
def source? : TransferError → Option ClientError
  | .resolve _ e => some e
  | .snapshot _ e => some e
  | .nomination _ e => some e
  | .acceptance _ _ e => some e
  | .notNominated .. => none

def leftPending : TransferError → Bool
  | .acceptance .. => true
  | _ => false

def message : TransferError → String
  | .resolve a e => s!"could not resolve contract {a}: {e.message}"
  | .snapshot c e => s!"could not read ownership of {c}: {e.message}"
  | .nomination a e => s!"nomination of {a} failed, ownership unchanged: {e.message}"
  | .acceptance a none e =>
    s!"acceptance by {a} failed; contract is left with a pending owner: {e.message}"
  | .acceptance a (some h) e =>
    s!"acceptance by {a} failed after nomination {h}; " ++
      s!"contract is left with a pending owner: {e.message}"
  | .notNominated c a p => s!"{a} is not the pending owner of {c} (pending: {p})"

def chain (e : TransferError) : List String :=
  e.message :: e.source?.toList.map ClientError.message

end TransferError

/-! ## Dialogues -/

/-- What marks one run: its identity and its times. -/
structure Stamp where
  correlationId : String
  startedAt : Instant
  finishedAt : Instant
  deriving DecidableEq, Repr

/-- The account of a completed hand-over. -/
structure Report where
  correlationId : String
  contract : Address
  previousOwner : Address
  newOwner : Address
  fee : Fee
  nomination : Receipt
  acceptance : Receipt
  phase : Phase
  startedAt : Instant
  finishedAt : Instant
  deriving DecidableEq, Repr

def logTarget : String := "ownership_handoff::workflows::transfer"

def resolve (a : Address) : Session (Except TransferError Contract) := do
  return (← Session.question (.contractAt a)).mapError (.resolve a)

/-- Reads both ownership slots, the owner first. -/
def snapshot (c : Contract) : Session (Except TransferError Snapshot) := do
  match ← Session.question (.owner c) with
  | .error e => return .error (.snapshot c.address e)
  | .ok owner =>
    match ← Session.question (.pendingOwner c) with
    | .error e => return .error (.snapshot c.address e)
    | .ok pendingOwner => return .ok ⟨owner, pendingOwner⟩

/-- Moves the machine on, with the log record that belongs to the step. -/
def advance (m : Machine) (e : Event) : Session Machine := do
  Session.sayAll ((m.note e).toList.map Output.log)
  return m.step e

/-- Runs a session inside a span. -/
def inSpan {α : Type} (span : Log.Span) (s : Session α) : Session α := do
  Session.say (.enter span)
  let a ← s
  Session.say .leave
  return a

section Followed

variable {μ : Type} (feed : μ → Event → Session μ)

def accept (m : μ) (c : Contract) (newOwner : Signer) (fee : Fee)
    (nominationTx : Option TxHash) : Session (Except TransferError Receipt × μ) := do
  match ← Session.question (.submit c .acceptOwnership ⟨newOwner, fee⟩) with
  | .ok receipt =>
    let m ← feed m (.acceptanceFinalized receipt.txHash)
    return (.ok receipt, m)
  | .error e =>
    let m ← feed m (.acceptanceFailed e.message)
    return (.error (.acceptance newOwner.address nominationTx e), m)

/-- A whole hand-over, with the follower as it ends. -/
def transfer (phase : μ → Phase) (m : μ) (stamp : Stamp) (c : Contract)
    (currentOwner newOwner : Signer) (fee : Fee) : Session (Except TransferError Report × μ) := do
  match ← snapshot c with
  | .error e => return (.error e, m)
  | .ok slots =>
    Session.say (.log ⟨.info, logTarget, "Starting ownership transfer",
      [("from", .shown currentOwner.display), ("to", .shown newOwner.display),
        ("priority_fee", .shown fee.display)]⟩)
    let m ← feed m (.begin newOwner.address)
    match ← Session.question
        (.submit c (.setPendingOwner newOwner.address) ⟨currentOwner, fee⟩) with
    | .error e =>
      let m ← feed m (.nominationFailed e.message)
      return (.error (.nomination newOwner.address e), m)
    | .ok nomination =>
      let m ← feed m (.nominationFinalized nomination.txHash)
      let (result, m) ← accept feed m c newOwner fee (some nomination.txHash)
      match result with
      | .error e => return (.error e, m)
      | .ok acceptance =>
        return (.ok {
          correlationId := stamp.correlationId
          contract := c.address
          previousOwner := slots.owner
          newOwner := newOwner.address
          fee
          nomination
          acceptance
          phase := phase m
          startedAt := stamp.startedAt
          finishedAt := stamp.finishedAt }, m)

/-- Accepts a standing nomination, with the follower as it ends. -/
def resume (m : μ) (c : Contract) (newOwner : Signer) (fee : Fee) :
    Session (Except TransferError Receipt × μ) := do
  match ← snapshot c with
  | .error e => return (.error e, m)
  | .ok slots =>
    if slots.pendingOwner ≠ newOwner.address then
      return (.error (.notNominated c.address newOwner.address slots.pendingOwner), m)
    else
      let m ← feed m (.resume newOwner.address)
      accept feed m c newOwner fee none

end Followed

def span (stamp : Stamp) (operation : String) (c : Contract) : Log.Span :=
  ⟨operation, c.address.checksum, stamp.correlationId⟩

/-- Nominates the new owner as the current one, then accepts as the new one. -/
def transferOwnership (stamp : Stamp) (c : Contract) (currentOwner newOwner : Signer)
    (fee : Fee) : Session (Except TransferError Report) :=
  inSpan (span stamp "transfer_ownership" c)
    (Prod.fst <$> transfer advance Machine.phase (Machine.new c.address) stamp c currentOwner
      newOwner fee)

def acceptPending (stamp : Stamp) (c : Contract) (newOwner : Signer) (fee : Fee) :
    Session (Except TransferError Receipt) :=
  inSpan (span stamp "accept_pending" c)
    (Prod.fst <$> resume advance (Machine.new c.address) c newOwner fee)

end TwoStep.Handoff
