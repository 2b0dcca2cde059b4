import TwoStep.Chain.Call
import TwoStep.Json.Printer
import TwoStep.Url.Basic

/-!
# Nodes

A node answers requests about the chain and takes signed transactions.  It
carries a state of its own and may answer anything, or fail.

What to offer for a transaction is estimated from a node's fee history by a
library between the program and the node.  The estimate is part of a `Node`, and
may be any two fees; `FeeEstimate.usual` is the library's.
-/

namespace TwoStep

/-! ## Requests and answers -/

/-- The fields of a transaction that are signed and sent. -/
structure Transaction where
  sender : Address
  destination : Address
  data : List UInt8
  nonce : Nat
  gas : Nat
  chainId : Nat
  maxFee : Nat
  tip : Nat
  deriving DecidableEq, Repr

/-- What was paid in past blocks, the block to come included: the base fee of
each, and the tips at some percentiles. -/
structure FeeHistory where
  baseFees : List Nat
  rewards : List (List Nat)
  deriving DecidableEq, Repr

/-- The base fee of the latest block: the last but one of the history, which
ends with the block to come. -/
def FeeHistory.latest? (h : FeeHistory) : Option Nat :=
  (h.baseFees.reverse.drop 1).head?

/-- Whether a transaction went through, and in which block. -/
structure Inclusion where
  succeeded : Bool
  block : Option UInt64
  deriving DecidableEq, Repr

/-- What a node can be asked. -/
inductive Request where
  | code (address : Address)
  | view (contract : Address) (view : View)
  | feeHistory
  | latestBaseFee
  | gas (sender destination : Address) (data : List UInt8)
  | nonce (account : Address)
  | chainId
  | send (transaction : Transaction)
  | inclusion (hash : TxHash)
  deriving DecidableEq, Repr

/-- What a request is answered with.  A latest block may be missing, and may
have no base fee. -/
abbrev Request.Answer : Request → Type
  | .code _ => List UInt8
  | .view .. => List UInt8
  | .feeHistory => FeeHistory
  | .latestBaseFee => Option (Option Nat)
  | .gas .. => Nat
  | .nonce _ => Nat
  | .chainId => Nat
  | .send _ => TxHash
  | .inclusion _ => Inclusion

/-- Why a request has no answer. -/
inductive NodeFailure where
  /-- The node says that it cannot answer. -/
  | refused (code : Int) (message : String) (data : Option String)
  /-- The server in front of the node answers with a status. -/
  | status (code : Nat) (body : String)
  | unreadable (fault body : String)
  | unreachable (url : Url)
  /-- No request can be sent to the endpoint. -/
  | unsupported (url : Url)
  deriving DecidableEq, Repr

namespace NodeFailure

def message : NodeFailure → String
  | .refused code m data =>
    let tail := match data with
      | some d => s!", data: {(Json.string d).compact}"
      | none => ""
    s!"server returned an error response: error code {code}: {m}{tail}"
  | .status code body =>
    if body.isEmpty then s!"HTTP error {code} with empty body"
    else s!"HTTP error {code} with body: {body}"
  | .unreadable fault body => s!"deserialization error: {fault}\n{body}"
  | .unreachable url => s!"error sending request for url ({url.display})"
  | .unsupported url => s!"builder error for url ({url.display})"

def isRefusal : NodeFailure → Bool
  | .refused .. => true
  | _ => false

end NodeFailure

/-! ## Estimates -/

/-- What a sender is advised to offer: at most `maxFee` in all, with `tip` for
whoever makes the block. -/
structure FeeEstimate where
  maxFee : Fee
  tip : Fee
  deriving DecidableEq, Repr

namespace FeeEstimate

/-- A number of wei in 128 bits; what does not fit is lost. -/
def wrapped (n : Nat) : Fee := ⟨n % Fee.bound, Nat.mod_lt n (by decide)⟩

/-- The median of the positive tips at the first percentile, at least one. -/
def medianTip (rewards : List (List Nat)) : Fee :=
  let tips := (rewards.filterMap List.head?).filter (0 < ·) |>.mergeSort (· ≤ ·)
  let n := tips.length
  let upper := tips.getD (n / 2) 0
  let median := if n % 2 = 0 then (wrapped (tips.getD (n / 2 - 1) 0 + upper)).wei / 2 else upper
  wrapped (max median 1)

/-- Twice the base fee leaves room for it to rise.  Sums wrap around at 128
bits. -/
def usual (baseFee : Nat) (rewards : List (List Nat)) : FeeEstimate :=
  let tip := medianTip rewards
  ⟨wrapped (2 * baseFee + tip.wei), tip⟩

end FeeEstimate

/-- A node as the program meets it. -/
structure Node (ν : Type) where
  answer : (r : Request) → ν → Except NodeFailure r.Answer × ν
  /-- The estimate for a base fee and the tips of past blocks. -/
  estimate : Nat → List (List Nat) → FeeEstimate := FeeEstimate.usual

/-- The node behind an endpoint at which nothing listens. -/
def Node.silent {ν : Type} (url : Url) : Node ν where
  answer _ s :=
    let url := url.anonymous
    if url.canRequest then (.error (.unreachable url), s) else (.error (.unsupported url), s)

/-! ## Prepared answers

A `NodeScript` holds for each question the outcomes to give in turn, the last
of which repeats.  A question for which nothing is prepared is refused.
-/

abbrev Outcomes (α : Type) := List (Except NodeFailure α)

/-- Prepared outcomes, by question. -/
structure NodeScript where
  code : Outcomes (List UInt8) := []
  owner : Outcomes (List UInt8) := []
  pendingOwner : Outcomes (List UInt8) := []
  feeHistory : Outcomes FeeHistory := []
  latestBaseFee : Outcomes (Option (Option Nat)) := []
  gas : Outcomes Nat := []
  nonce : Outcomes Nat := []
  chainId : Outcomes Nat := []
  send : Outcomes TxHash := []
  inclusions : List (TxHash × Except NodeFailure Inclusion) := []

namespace NodeScript

/-- The failure of a question for which nothing is prepared. -/
def unprepared (question : String) : NodeFailure :=
  .refused (-32601) s!"{question} is not scripted" none

/-- Takes the next outcome; the last one stays. -/
def next {α : Type} (question : String) : Outcomes α → Except NodeFailure α × Outcomes α
  | [] => (.error (unprepared question), [])
  | [last] => (last, [last])
  | outcome :: rest => (outcome, rest)

def answer : (r : Request) → NodeScript → Except NodeFailure r.Answer × NodeScript
  | .code _, s =>
    let (a, rest) := next "code" s.code
    (a, { s with code := rest })
  | .view _ .owner, s =>
    let (a, rest) := next "owner" s.owner
    (a, { s with owner := rest })
  | .view _ .pendingOwner, s =>
    let (a, rest) := next "pending_owner" s.pendingOwner
    (a, { s with pendingOwner := rest })
  | .feeHistory, s =>
    let (a, rest) := next "fee_history" s.feeHistory
    (a, { s with feeHistory := rest })
  | .latestBaseFee, s =>
    let (a, rest) := next "latest_base_fee" s.latestBaseFee
    (a, { s with latestBaseFee := rest })
  | .gas .., s =>
    let (a, rest) := next "gas" s.gas
    (a, { s with gas := rest })
  | .nonce _, s =>
    let (a, rest) := next "nonce" s.nonce
    (a, { s with nonce := rest })
  | .chainId, s =>
    let (a, rest) := next "chain_id" s.chainId
    (a, { s with chainId := rest })
  | .send _, s =>
    let (a, rest) := next "send" s.send
    (a, { s with send := rest })
  | .inclusion h, s => ((s.inclusions.lookup h).getD (.error (unprepared "receipt")), s)

def node : Node NodeScript where
  answer := answer

end NodeScript

end TwoStep
