import TwoStep.Chain.Session

/-!
# The phases of a hand-over

A hand-over starts with a nomination, which is pending until it is finalized
or fails, and ends with an acceptance; a nomination that already stands on the
chain can be resumed.  An acceptance that fails leaves the hand-over stalled:
the contract has a pending owner, and only an acceptance can complete it.

`Machine.step` is the transition function.  An event that does not belong to
the current phase changes nothing.  `Machine.note` is the log record that goes
with a transition.
-/

namespace TwoStep.Handoff

/-- How far a hand-over has come. -/
inductive Phase where
  | notStarted
  | pendingNomination
  | nominated
  | accepted
  | stalled
  deriving DecidableEq, Repr

def Phase.display : Phase → String
  | .notStarted => "not started"
  | .pendingNomination => "pending nomination"
  | .nominated => "nominated"
  | .accepted => "accepted"
  | .stalled => "nominated but unaccepted"

instance : ToString Phase := ⟨Phase.display⟩

/-- What happens to a hand-over. -/
inductive Event where
  | begin (pendingOwner : Address)
  | resume (pendingOwner : Address)
  | nominationFinalized (txHash : TxHash)
  | nominationFailed (reason : String)
  | acceptanceFinalized (txHash : TxHash)
  | acceptanceFailed (reason : String)
  deriving DecidableEq, Repr

/-- A hand-over of one contract, followed phase by phase. -/
structure Machine where
  contract : Address
  phase : Phase := .notStarted
  pendingOwner : Option Address := none
  nominationTx : Option TxHash := none
  acceptanceTx : Option TxHash := none
  lastFailure : Option String := none
  deriving DecidableEq, Repr

namespace Machine

def new (contract : Address) : Machine where
  contract := contract

def step (m : Machine) (e : Event) : Machine :=
  match m.phase, e with
  | .notStarted, .begin a =>
    { m with phase := .pendingNomination, pendingOwner := some a, lastFailure := none }
  | .notStarted, .resume a => { m with phase := .nominated, pendingOwner := some a }
  | .pendingNomination, .nominationFinalized h =>
    { m with phase := .nominated, nominationTx := some h }
  | .pendingNomination, .nominationFailed reason =>
    { m with phase := .notStarted, lastFailure := some reason, pendingOwner := none }
  | .nominated, .acceptanceFinalized h => { m with phase := .accepted, acceptanceTx := some h }
  | .nominated, .acceptanceFailed reason =>
    { m with phase := .stalled, lastFailure := some reason }
  | .stalled, .acceptanceFinalized h =>
    { m with phase := .accepted, acceptanceTx := some h, lastFailure := none }
  | _, _ => m

def steps (m : Machine) (es : List Event) : Machine :=
  es.foldl step m

def trail (m : Machine) : List Event → List Machine
  | [] => []
  | e :: es => m.step e :: (m.step e).trail es

def logTarget : String := "ownership_handoff::workflows::state_machine"

def eventText : Event → String
  | .begin a => fields "Begin" "pending_owner" a.hex
  | .resume a => fields "Resume" "pending_owner" a.hex
  | .nominationFinalized h => fields "NominationFinalized" "tx_hash" h.hex
  | .nominationFailed r => fields "NominationFailed" "reason" (Text.quoted r)
  | .acceptanceFinalized h => fields "AcceptanceFinalized" "tx_hash" h.hex
  | .acceptanceFailed r => fields "AcceptanceFailed" "reason" (Text.quoted r)
where
  /-- One named field in braces behind a name. -/
  fields (name field value : String) : String :=
    name ++ " \x7b " ++ field ++ ": " ++ value ++ " \x7d"

def note (m : Machine) (e : Event) : Option Log.Record :=
  let contract : String × Log.Value := ("contract", .shown m.contract.checksum)
  let record (level : Log.Level) (message : String) (fields : List (String × Log.Value)) :=
    some (Log.Record.mk level logTarget message (contract :: fields))
  match m.phase, e with
  | .notStarted, .begin a =>
    record .info "Submitting nomination" [("pending_owner", .shown a.checksum)]
  | .notStarted, .resume a =>
    record .info "Resuming from an existing nomination" [("pending_owner", .shown a.checksum)]
  | .pendingNomination, .nominationFinalized h =>
    record .info "Nomination finalized" [("tx_hash", .shown h.hex)]
  | .pendingNomination, .nominationFailed reason =>
    record .error "Nomination failed" [("reason", .shown reason)]
  | .nominated, .acceptanceFinalized h =>
    record .info "Ownership accepted" [("tx_hash", .shown h.hex)]
  | .nominated, .acceptanceFailed reason =>
    record .error "Acceptance failed, contract left with a pending owner"
      [("pending_owner", .shown (optional m.pendingOwner)), ("reason", .shown reason)]
  | .stalled, .acceptanceFinalized h =>
    record .info "Stalled transfer accepted" [("tx_hash", .shown h.hex)]
  | .accepted, e => record .debug "Transfer already accepted" [("event", .shown (eventText e))]
  | _, _ => none
where
  /-- An address that may be missing, as a log field. -/
  optional : Option Address → String
    | some a => s!"Some({a.hex})"
    | none => "None"

end Machine

end TwoStep.Handoff
