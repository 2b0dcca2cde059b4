import TwoStep.Chain.Ledger
import TwoStep.Chain.Rpc
import TwoStep.Handoff.Workflow
import TwoStep.Keyring
import TwoStep.Process
import TwoStep.Settings.Basic

/-!
# Preparing a command

Before a command talks to a contract it checks all that can be checked without
one: addresses, fees, keys and the endpoint.  A `Preparation` is that part of a
command.  It may print, and it stops at the first mistake; nothing in it can
reach a node.

A flag, where it is given, takes the place of the configured value.
-/

namespace TwoStep

/-! ## Why a command fails

A command fails at one of its inputs, at its keys, at the connection, or in
the hand-over itself.  The failure keeps what caused it, and `chain` puts both
into words, the command's own words first.
-/

/-- Why a command was not carried out. -/
inductive CommandError where
  | contract (raw : String) (fault : Hex.Fault)
  | fee (raw : String) (e : Fee.ReadError)
  | ownerKeys (e : KeyError)
  | nomineeKey (e : KeyError)
  | signer (e : KeyError)
  | connection (e : ClientError)
  | handOver (e : Handoff.TransferError)
  | fileInTheWay (path : String)
  | file (e : FileError)
  deriving DecidableEq, Repr

def CommandError.chain : CommandError → List String
  | .contract raw f => [s!"Invalid contract address '{raw}'", f.message]
  | .fee raw e => [s!"Invalid priority fee '{raw}'", e.message]
  | .ownerKeys e => ["Failed to load signing keys", e.message]
  | .nomineeKey e => ["Failed to load the new owner's signing key", e.message]
  | .signer e => [e.message]
  | .connection e => ["Failed to create contract client", e.message]
  | .handOver e => e.chain
  | .fileInTheWay path => [s!"{path} already exists; pass --force to overwrite it"]
  | .file e => [e.message]

/-! ## Checks -/

/-- The part of a command before its dialogue: what was printed, and a value or
the first mistake. -/
structure Preparation (α : Type) where
  outputs : List Output := []
  result : Except CommandError α

namespace Preparation

variable {α β : Type}

/-- Continues a preparation with another, unless it has stopped. -/
def bind (p : Preparation α) (f : α → Preparation β) : Preparation β :=
  match p.result with
  | .ok a => ⟨p.outputs ++ (f a).outputs, (f a).result⟩
  | .error e => ⟨p.outputs, .error e⟩

instance : Monad Preparation where
  pure a := ⟨[], .ok a⟩
  bind := Preparation.bind

/-- A check that prints nothing. -/
def check (r : Except CommandError α) : Preparation α := ⟨[], r⟩

def say (outputs : List Output) : Preparation Unit := ⟨outputs, .ok ()⟩

end Preparation

namespace Command

/-- A text that tells the operator how the command gets on; a quiet command
leaves it out. -/
def progress (quiet : Bool) (text : String) : List Output :=
  if quiet then [] else [.out text]

/-! ## Address and fee -/

def contractAddress (s : Settings) (flag : Option String) : Except CommandError Address :=
  let raw := flag.getD s.contractAddress
  (Address.read (Text.trimmed raw)).mapError (.contract raw)

def priorityFee (s : Settings) (flag : Option String) : Except CommandError Fee :=
  let raw := flag.getD s.priorityFee
  (Fee.read raw).mapError (.fee raw)

/-! ## Keys -/

/-- Loads a key from a variable, and notes it in the log. -/
def loadKey (mistake : KeyError → CommandError) (env : Environment) (label var : String)
    (ring : Keyring) : Preparation Keyring :=
  match ring.loadVariable env label var with
  | .ok (signer, ring) => ⟨[.log (Keyring.loadedNote signer)], .ok ring⟩
  | .error e => ⟨[], .error (mistake e)⟩

/-- The keys of both owners, the current one's first. -/
def ownerKeys (s : Settings) (env : Environment) : Preparation Keyring := do
  let ring ← loadKey .ownerKeys env Keyring.currentOwner s.currentOwnerKeyVar {}
  loadKey .ownerKeys env Keyring.newOwner s.newOwnerKeyVar ring

/-- The new owner's key only, which is enough to accept. -/
def nomineeKey (s : Settings) (env : Environment) : Preparation Keyring :=
  loadKey .nomineeKey env Keyring.newOwner s.newOwnerKeyVar {}

def signer (ring : Keyring) (label : String) : Except CommandError Signer :=
  (ring.signer label).mapError .signer

def signers (ring : Keyring) : Except CommandError (Signer × Signer) := do
  return (← signer ring Keyring.currentOwner, ← signer ring Keyring.newOwner)

/-! ## The other side -/

/-- Whom a command talks to. -/
inductive Partner where
  | memory (ledger : Ledger)
  | node (connection : Connection)

/-- Tells about a connection that was made, or that failed. -/
def connect (quiet : Bool) (rpcUrl : String) (note : Connection → Log.Record)
    (made : Except ClientError Connection) : Preparation Connection :=
  let opening := progress quiet s!"🔄 Connecting to {rpcUrl}... "
  match made with
  | .ok c => ⟨opening ++ .log (note c) :: progress quiet "✅\n", .ok c⟩
  | .error e => ⟨opening ++ progress quiet "❌\n", .error (.connection e)⟩

/-- A connection to the configured node that signs with a keyring. -/
def connectWithKeys (quiet : Bool) (s : Settings) (ring : Keyring) : Preparation Connection :=
  connect quiet s.rpcUrl (·.keysNote ring) (Connection.withKeys s.rpcUrl ring)

/-- A connection to the configured node that only reads. -/
def connectReadOnly (quiet : Bool) (s : Settings) : Preparation Connection :=
  connect quiet s.rpcUrl (·.readOnlyNote) (Connection.readOnly s.rpcUrl)

/-- A contract in memory as a dry run needs it: it belongs to the current owner
and takes calls from both. -/
def rehearsal (contract : Address) (currentOwner newOwner : Signer) : Ledger :=
  ((Ledger.new contract currentOwner.address).register currentOwner.address).register
    newOwner.address

def rehearsalLine : String :=
  "🧪 Dry run: using an in-memory contract, nothing is sent to the network\n"

end Command

/-! ## Carrying a command out

A prepared command is a `Plan`: a partner and a dialogue with it.  A plan with
a contract in memory leaves the network alone; a plan with a node talks to the
node that the network has at the plan's endpoint.  A command whose preparation
stopped talks to nobody.
-/

namespace Command

/-- A dialogue, and whom to hold it with. -/
structure Plan (α : Type) where
  partner : Partner
  session : Session (Except CommandError α)

/-- What came of a command. -/
structure Outcome (ν α : Type) where
  result : Except CommandError α
  outputs : List Output
  /-- What the partner was asked. -/
  asked : List Query
  /-- What the nodes were asked. -/
  link : Link ν

variable {ν α : Type}

def Plan.run (network : Url → Node ν) (link : Link ν) (p : Plan α) : Outcome ν α :=
  match p.partner with
  | .memory ledger =>
    let r := p.session.run Ledger.client ledger
    ⟨r.value, r.outputs, r.asked, link⟩
  | .node c =>
    let r := p.session.run (Rpc.client (network c.url) c.signers) link
    ⟨r.value, r.outputs, r.asked, r.state⟩

/-- Carries a command out as far as its preparation allows. -/
def run (network : Url → Node ν) (link : Link ν) (p : Preparation (Plan α)) : Outcome ν α :=
  match p.result with
  | .error e => ⟨.error e, p.outputs, [], link⟩
  | .ok plan =>
    let o := plan.run network link
    { o with outputs := p.outputs ++ o.outputs }

/-- A plan of which only the failure matters. -/
def Plan.forget (p : Plan α) : Plan Unit :=
  ⟨p.partner, (·.map fun _ => ()) <$> p.session⟩

end Command

end TwoStep
