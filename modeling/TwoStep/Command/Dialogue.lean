import TwoStep.Chain.Session
import TwoStep.Command.Preparation
import TwoStep.CommandLine.Parser
import TwoStep.Handoff.Workflow
import TwoStep.Json.Printer
import TwoStep.Settings.Load
import TwoStep.Wire

/-!
# Commands

Three commands talk to a contract.  Each of them is prepared from the settings
and the variables: a look at the owners uses no variable, and an acceptance only
the one with the new owner's key.  The fourth writes the default settings.
-/

namespace TwoStep

/-! ## Transfer

The current owner nominates the new one, who then accepts.  Both keys are
needed.  A dry run goes through the same dialogue with a contract in memory.
With `json` the report is a JSON document, and nothing else is printed on the
standard output.
-/

namespace Command.Transfer

/-- A transfer whose inputs have been checked. -/
structure Order where
  contract : Address
  fee : Fee
  currentOwner : Signer
  newOwner : Signer
  partner : Partner

/-- Checks the contract, the fee and the keys, and turns to the partner. -/
def order (s : Settings) (env : Environment) (o : TransferOptions) : Preparation Order := do
  let contract ← Preparation.check (contractAddress s o.contract)
  let fee ← Preparation.check (priorityFee s o.fee)
  let ring ← ownerKeys s env
  let (currentOwner, newOwner) ← Preparation.check (signers ring)
  if o.dryRun then
    Preparation.say (progress o.json rehearsalLine)
    return ⟨contract, fee, currentOwner, newOwner,
      .memory (rehearsal contract currentOwner newOwner)⟩
  else
    let c ← connectWithKeys o.json s ring
    return ⟨contract, fee, currentOwner, newOwner, .node c⟩

def receiptLine (r : Receipt) : String :=
  let block := match r.block with
    | some n => s!" (block {n})"
    | none => ""
  s!"   📝 {r.method}: {r.txHash}{block}\n"

def reportLines (r : Handoff.Report) : String :=
  "\n✅ OWNERSHIP TRANSFERRED\n" ++
  "════════════════════════\n" ++
  s!"   📜 Contract:       {r.contract}\n" ++
  s!"   👤 Previous owner: {r.previousOwner}\n" ++
  s!"   👑 New owner:      {r.newOwner}\n" ++
  s!"   ⛽ Priority fee:   {r.fee}\n" ++
  receiptLine r.nomination ++
  receiptLine r.acceptance ++
  s!"   🔖 Correlation ID: {r.correlationId}\n"

def reportText (json : Bool) (r : Handoff.Report) : String :=
  if json then r.toJson.pretty ++ "\n" else reportLines r

def pendingHint (c : Contract) (newOwner : Signer) : String :=
  s!"⚠️  {newOwner.address} is now the pending owner of {c}; " ++
    "run 'ownership-handoff accept' once its key is available\n"

def session (stamp : Handoff.Stamp) (json : Bool) (o : Order) :
    Session (Except CommandError Handoff.Report) := do
  match ← Handoff.resolve o.contract with
  | .error e => return .error (.handOver e)
  | .ok c =>
    Session.sayAll (progress json
      s!"🔑 Handing {c} from {o.currentOwner} to {o.newOwner} at {o.fee}\n")
    match ← Handoff.transferOwnership stamp c o.currentOwner o.newOwner o.fee with
    | .ok report =>
      Session.say (.out (reportText json report))
      return .ok report
    | .error e =>
      Session.sayAll (if e.leftPending then [.err (pendingHint c o.newOwner)] else [])
      return .error (.handOver e)

def plan (s : Settings) (env : Environment) (stamp : Handoff.Stamp) (o : TransferOptions) :
    Preparation (Plan Handoff.Report) := do
  let order ← order s env o
  return ⟨order.partner, session stamp o.json order⟩

end Command.Transfer

/-! ## Acceptance

It finishes a hand-over that was interrupted after the nomination.  Only the
new owner's key is loaded.
-/

namespace Command.Accept

/-- An acceptance whose inputs have been checked. -/
structure Order where
  contract : Address
  fee : Fee
  newOwner : Signer
  connection : Connection

/-- Checks the contract, the fee, the key and the endpoint. -/
def order (s : Settings) (env : Environment) (o : AcceptOptions) : Preparation Order := do
  let contract ← Preparation.check (contractAddress s o.contract)
  let fee ← Preparation.check (priorityFee s o.fee)
  let ring ← nomineeKey s env
  let newOwner ← Preparation.check (signer ring Keyring.newOwner)
  let c ← connectWithKeys false s ring
  return ⟨contract, fee, newOwner, c⟩

def receiptText (c : Contract) (newOwner : Signer) (r : Receipt) : String :=
  let block := match r.block with
    | some n => s!"   📦 Block: {n}\n"
    | none => ""
  s!"✅ {newOwner.address} now owns {c}\n" ++
  s!"   📝 {r.method}: {r.txHash}\n" ++
  block

def session (stamp : Handoff.Stamp) (o : Order) : Session (Except CommandError Receipt) := do
  match ← Handoff.resolve o.contract with
  | .error e => return .error (.handOver e)
  | .ok c =>
    Session.sayAll (progress false s!"🔑 Accepting ownership of {c} as {o.newOwner}\n")
    match ← Handoff.acceptPending stamp c o.newOwner o.fee with
    | .error e => return .error (.handOver e)
    | .ok receipt =>
      Session.say (.out (receiptText c o.newOwner receipt))
      return .ok receipt

def plan (s : Settings) (env : Environment) (stamp : Handoff.Stamp) (o : AcceptOptions) :
    Preparation (Plan Receipt) := do
  let order ← order s env o
  return ⟨.node order.connection, session stamp order⟩

end Command.Accept

/-! ## Status

It reads the two slots and needs no keys.  With `json` the answer is a JSON
document, and nothing else is printed on the standard output.
-/

namespace Command.Status

/-- An enquiry whose inputs have been checked. -/
structure Order where
  contract : Address
  connection : Connection

def order (s : Settings) (o : StatusOptions) : Preparation Order := do
  let contract ← Preparation.check (contractAddress s o.contract)
  let c ← connectReadOnly o.json s
  return ⟨contract, c⟩

def snapshotJson (c : Contract) (s : Snapshot) : Json :=
  .object [("contract", .string c.display), ("owner", s.owner.toJson),
    ("pending_owner", s.pendingOwner.toJson), ("transfer_in_flight", .bool s.pending.isSome)]

def snapshotLines (c : Contract) (s : Snapshot) : String :=
  let pending := match s.pending with
    | some a =>
      s!"   ⏳ Pending owner: {a}\n" ++
      "   💡 Run 'ownership-handoff accept' with the pending owner's key to finish\n"
    | none => "   ✅ No transfer in flight\n"
  s!"\n📜 OWNERSHIP OF {c}\n" ++
  "══════════════════════════════════════════════════════\n" ++
  s!"   👑 Owner:         {s.owner}\n" ++
  pending

def snapshotText (json : Bool) (c : Contract) (s : Snapshot) : String :=
  if json then (snapshotJson c s).pretty ++ "\n" else snapshotLines c s

def session (json : Bool) (o : Order) : Session (Except CommandError Snapshot) := do
  match ← Handoff.resolve o.contract with
  | .error e => return .error (.handOver e)
  | .ok c =>
    match ← Handoff.snapshot c with
    | .error e => return .error (.handOver e)
    | .ok s =>
      Session.say (.out (snapshotText json c s))
      return .ok s

def plan (s : Settings) (o : StatusOptions) : Preparation (Plan Snapshot) := do
  let order ← order s o
  return ⟨.node order.connection, session o.json order⟩

end Command.Status

/-! ## All three -/

def Dialogue.plan (s : Settings) (env : Environment) (stamp : Handoff.Stamp) :
    Dialogue → Preparation (Command.Plan Unit)
  | .transfer o => Command.Plan.forget <$> Command.Transfer.plan s env stamp o
  | .accept o => Command.Plan.forget <$> Command.Accept.plan s env stamp o
  | .status o => Command.Plan.forget <$> Command.Status.plan s o

/-! ## Default settings

A file that is already there is replaced only by force.
-/

namespace Command.InitConfig

def doneText (path : String) : String :=
  s!"📝 Wrote default configuration to {path}\n" ++
  "   🔐 Keys are read from the environment variables named under [accounts]\n"

def run (d : Directory) (path : String) (force : Bool) :
    Except CommandError (Directory × List Output) :=
  if d.exists? path && !force then .error (.fileInTheWay path)
  else
    match Settings.save {} d path with
    | .ok d => .ok (d, [.out (doneText path)])
    | .error e => .error (.file e)

end Command.InitConfig

end TwoStep
