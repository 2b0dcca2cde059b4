import TwoStep.Chain.Node
import TwoStep.Chain.Session
import TwoStep.Keyring

/-!
# A client over a node

The client turns each question into requests to a node.  To submit a call it
asks for the fees, the gas, the sender's nonce and the chain, sends the signed
transaction and waits for its inclusion, and it stops at the first failure.  It
asks for the chain only until it knows it, and for a sender's nonce once.  A
sender without a key is turned away before anything is asked.

All requests are kept with their answers, in order, so that what reached the
node can be read off a run.
-/

namespace TwoStep

/-- A request with what came back. -/
structure Exchange where
  request : Request
  answer : Except NodeFailure request.Answer

/-- The transaction of an exchange that sent one. -/
def Exchange.sent? (x : Exchange) : Option Transaction :=
  match x.request with
  | .send t => some t
  | _ => none

/-- The client's side of the connection to a node: the node's state, the next
nonce of each sender, the chain if it is known, and what was said. -/
structure Link (ν : Type) where
  node : ν
  nonces : List (Address × Nat) := []
  chainId : Option Nat := none
  exchanges : List Exchange := []

/-- The transactions that reached the node. -/
def Link.sent {ν : Type} (l : Link ν) : List Transaction :=
  l.exchanges.filterMap Exchange.sent?

namespace Rpc

variable {ν : Type}

/-- A dialogue with a node that may fail. -/
abbrev Talk (ν : Type) := ExceptT ClientError (StateM (Link ν))

def exchange (node : Node ν) (r : Request) : StateM (Link ν) (Except NodeFailure r.Answer) :=
  fun l =>
    let (a, n) := node.answer r l.node
    (a, { l with node := n, exchanges := l.exchanges ++ [⟨r, a⟩] })

/-- Asks the node; a failure ends the dialogue. -/
def ask (node : Node ν) (failure : NodeFailure → ClientError) (r : Request) :
    Talk ν r.Answer := do
  match ← (exchange node r : StateM (Link ν) _) with
  | .ok a => pure a
  | .error f => throw (failure f)

def broken (f : NodeFailure) : ClientError := .transport f.message

/-- A failure that means that a call was not taken. -/
def refusedCall (method : String) (f : NodeFailure) : ClientError := .rejected method f.message

/-! ## Fees -/

/-- The largest fee that can be offered. -/
def feeLimit : Nat := Fee.bound - 1

/-- The room for the base fee in an estimate, and the tip that is offered.  An
estimate below its own tip leaves no room. -/
def maxFeeFor (e : FeeEstimate) (tip : Nat) : Nat :=
  min (e.maxFee.wei - e.tip.wei + tip) feeLimit

/-- The base fee of the latest block, asked for if the history does not tell
it. -/
def baseFee (node : Node ν) (h : FeeHistory) : Talk ν Nat := do
  match h.latest? with
  | some (n + 1) => return n + 1
  | _ =>
    match ← ask node broken .latestBaseFee with
    | none =>
      throw (.transport
        "server returned a null response when a non-null response was expected")
    | some none => throw (.transport "unsupported feature: eip1559")
    | some (some n) => return n

def feeEstimate (node : Node ν) : Talk ν FeeEstimate := do
  let h ← ask node broken .feeHistory
  let base ← baseFee node h
  return node.estimate base h.rewards

/-! ## Submitting -/

/-- The nonce of a sender's next transaction.  The node is asked for the first
one; after that the client counts by itself. -/
def nextNonce (node : Node ν) (method : String) (sender : Address) : Talk ν Nat := do
  let n ← match (← get).nonces.lookup sender with
    | some n => pure n
    | none => ask node (refusedCall method) (.nonce sender)
  modify fun l => { l with nonces := (sender, n + 1) :: l.nonces.filter (·.1 ≠ sender) }
  return n

/-- The chain of the node, asked for until it is known. -/
def chainId (node : Node ν) (method : String) : Talk ν Nat := do
  match (← get).chainId with
  | some n => return n
  | none =>
    let n ← ask node (refusedCall method) .chainId
    modify fun l => { l with chainId := some n }
    return n

def fill (node : Node ν) (contract : Contract) (call : Call) (options : CallOptions) :
    Talk ν Transaction := do
  let sender := options.sender.address
  let e ← feeEstimate node
  let gas ← ask node (refusedCall call.method) (.gas sender contract.address call.data)
  let nonce ← nextNonce node call.method sender
  let chainId ← chainId node call.method
  return {
    sender, gas, nonce, chainId
    destination := contract.address
    data := call.data
    maxFee := maxFeeFor e options.fee.wei
    tip := options.fee.wei }

def lostTrack (method : String) (hash : TxHash) (f : NodeFailure) : ClientError :=
  .transport s!"waiting for {method} receipt {hash}: {f.message}"

def submit (node : Node ν) (signers : List Address) (contract : Contract) (call : Call)
    (options : CallOptions) : Talk ν Receipt := do
  if options.sender.address ∈ signers then
    let t ← fill node contract call options
    let hash ← ask node (refusedCall call.method) (.send t)
    let i ← ask node (lostTrack call.method hash) (.inclusion hash)
    if i.succeeded then return ⟨call.method, hash, i.block⟩
    else throw (.reverted call.method (some hash) "transaction receipt reports failure")
  else throw (.unknownSigner options.sender.address)

/-! ## Reading -/

/-- Finds a contract: there must be code at its address. -/
def contractAt (node : Node ν) (address : Address) : Talk ν Contract := do
  let code ← ask node broken (.code address)
  if code.isEmpty then throw (.noCode address) else return ⟨address⟩

/-- A failed reading: a refusal is the contract's, anything else the
connection's. -/
def viewFailure (method : String) (f : NodeFailure) : ClientError :=
  if f.isRefusal then .rejected method f.message else broken f

def readSlot (node : Node ν) (contract : Contract) (view : View) : Talk ν Address := do
  let bytes ← ask node (viewFailure view.method) (.view contract.address view)
  match decodeAddress bytes with
  | .ok a => return a
  | .error f => throw (.rejected view.method (f.message view.method))

/-! ## The client -/

/-- The part of the program that a client's records come from. -/
def target : String := "ownership_handoff::chain::client"

def note? (method : String) (sender : Address) (x : Exchange) : Option Log.Record :=
  match x with
  | ⟨.code a, .ok code⟩ =>
    if code.isEmpty then none
    else some ⟨.debug, target, "Resolved contract",
      [("address", .shown a.checksum), ("code_len", .number code.length)]⟩
  | ⟨.send _, .ok hash⟩ =>
    some ⟨.info, target, "Submitted call, waiting for receipt",
      [("method", .text method), ("from", .shown sender.checksum), ("tx_hash", .shown hash.hex)]⟩
  | ⟨.inclusion hash, .ok i⟩ =>
    if i.succeeded then none
    else some ⟨.warn, target, "Call reverted",
      [("method", .text method), ("tx_hash", .shown hash.hex)]⟩
  | _ => none

/-- The name of the contract function and the sender behind a question. -/
def subject : Query → String × Address
  | .submit _ call options => (call.method, options.sender.address)
  | _ => ("", Address.zero)

def answer (node : Node ν) (signers : List Address) : (q : Query) →
    StateM (Link ν) q.Reply
  | .contractAt a => (contractAt node a).run
  | .owner c => (readSlot node c .owner).run
  | .pendingOwner c => (readSlot node c .pendingOwner).run
  | .submit c call options => (submit node signers c call options).run

/-- The client of a node that signs for some addresses. -/
def client (node : Node ν) (signers : List Address) : Client (Link ν) := fun q l =>
  let (reply, l') := (answer node signers q).run l
  let (method, sender) := subject q
  ⟨reply, l', (l'.exchanges.drop l.exchanges.length).filterMap (note? method sender)⟩

end Rpc

/-! ## Connecting -/

/-- An endpoint with the addresses that calls are taken from, each once, and the
wallet that signs them; nothing has been sent yet. -/
structure Connection where
  rpcUrl : String
  url : Url
  signers : List Address
  wallet : Option Wallet
  deriving DecidableEq, Repr

namespace Connection

def endpoint (rpcUrl : String) : Except ClientError Url :=
  match Url.parse rpcUrl with
  | .ok url => .ok url
  | .error f => .error (.invalidEndpoint rpcUrl f.message)

/-- A connection that takes calls from the accounts of a keyring and signs with
its wallet, so there must be a key. -/
def withKeys (rpcUrl : String) (ring : Keyring) : Except ClientError Connection := do
  let url ← endpoint rpcUrl
  match ring.wallet with
  | .ok wallet => return ⟨rpcUrl, url, ring.addresses.eraseDups, some wallet⟩
  | .error e => .error (.signing e.message)

def readOnly (rpcUrl : String) : Except ClientError Connection := do
  return ⟨rpcUrl, ← endpoint rpcUrl, [], none⟩

def keysNote (c : Connection) (ring : Keyring) : Log.Record :=
  ⟨.info, Rpc.target, "Connected contract client",
    [("rpc_url", .shown c.rpcUrl), ("signers", .number ring.keys.length)]⟩

def readOnlyNote (c : Connection) : Log.Record :=
  ⟨.info, Rpc.target, "Connected read-only contract client", [("rpc_url", .shown c.rpcUrl)]⟩

end Connection

end TwoStep
