import TwoStep.Chain.Call
import TwoStep.Log.Record

/-!
# Sessions with a chain client

A hand-over is a dialogue: it asks a chain client one question after another
and goes on according to the replies.  A `Session` is such a dialogue as data,
before any client is chosen: it either ends with a value, prints something, or
asks a question and continues with the reply.  A `Client` answers questions
while it carries a state of its own.  `Session.run` lets the two talk, and
returns with the value also the list of questions asked, so that what was done
to the chain can be read off a run; because a session is data, several of them
can also be interleaved question by question.
-/

namespace TwoStep

/-- The questions a client answers. -/
inductive Query where
  | contractAt (address : Address)
  | owner (contract : Contract)
  | pendingOwner (contract : Contract)
  | submit (contract : Contract) (call : Call) (options : CallOptions)
  deriving DecidableEq, Repr

abbrev Query.Reply : Query → Type
  | .contractAt _ => Except ClientError Contract
  | .owner _ => Except ClientError Address
  | .pendingOwner _ => Except ClientError Address
  | .submit .. => Except ClientError Receipt

def Query.display : Query → String
  | .contractAt a => s!"at {a}"
  | .owner c => s!"owner {c}"
  | .pendingOwner c => s!"pending_owner {c}"
  | .submit c call o => s!"submit {c} {call} from {o.sender} at {o.fee}"

/-- What a session leaves behind for the operator. -/
inductive Output where
  | out (text : String)
  | err (text : String)
  | log (record : Log.Record)
  /-- The records up to the matching `leave` belong to a span. -/
  | enter (span : Log.Span)
  | leave
  deriving DecidableEq, Repr

/-- A dialogue with a client that ends with a value. -/
inductive Session (α : Type) where
  | done (value : α)
  | emit (output : Output) (rest : Session α)
  | ask (query : Query) (next : query.Reply → Session α)

namespace Session

variable {α β : Type}

def bind : Session α → (α → Session β) → Session β
  | .done a, f => f a
  | .emit o rest, f => .emit o (rest.bind f)
  | .ask q next, f => .ask q fun r => (next r).bind f

instance : Monad Session where
  pure := .done
  bind := Session.bind

def say (o : Output) : Session Unit := .emit o (.done ())

def sayAll : List Output → Session Unit
  | [] => .done ()
  | o :: rest => .emit o (sayAll rest)

def question (q : Query) : Session q.Reply := .ask q .done

end Session

/-- A client's reply, its next state, and what it logged on the way. -/
structure Turn (σ ρ : Type) where
  reply : ρ
  state : σ
  notes : List Log.Record := []

/-- Answers every question from a state. -/
abbrev Client (σ : Type) := (q : Query) → σ → Turn σ q.Reply

/-- What came of a session. -/
structure Run (σ α : Type) where
  value : α
  state : σ
  outputs : List Output
  asked : List Query

/-- Lets a session talk to a client. -/
def Session.run {σ α : Type} (client : Client σ) : Session α → σ → Run σ α
  | .done a, s => ⟨a, s, [], []⟩
  | .emit o rest, s =>
    let r := rest.run client s
    { r with outputs := o :: r.outputs }
  | .ask q next, s =>
    let turn := client q s
    let r := (next turn.reply).run client turn.state
    { r with
      outputs := turn.notes.map Output.log ++ r.outputs
      asked := q :: r.asked }

/-! ## Prepared answers

A `Script` holds for each kind of question the answers to give, in order.  A
question whose answers are used up fails as a broken connection would.
-/

/-- Prepared answers, by kind of question. -/
structure Script where
  contractAt : List (Except ClientError Contract) := []
  owner : List (Except ClientError Address) := []
  pendingOwner : List (Except ClientError Address) := []
  submit : List (Except ClientError Receipt) := []

namespace Script

def exhausted (queue : String) : ClientError :=
  .transport s!"script for {queue} is exhausted"

def next {ρ : Type} (queue : String) : List (Except ClientError ρ) →
    Except ClientError ρ × List (Except ClientError ρ)
  | [] => (.error (exhausted queue), [])
  | answer :: rest => (answer, rest)

def client : Client Script
  | .contractAt _, s =>
    let (reply, rest) := next "at" s.contractAt
    ⟨reply, { s with contractAt := rest }, []⟩
  | .owner _, s =>
    let (reply, rest) := next "owner" s.owner
    ⟨reply, { s with owner := rest }, []⟩
  | .pendingOwner _, s =>
    let (reply, rest) := next "pending_owner" s.pendingOwner
    ⟨reply, { s with pendingOwner := rest }, []⟩
  | .submit .., s =>
    let (reply, rest) := next "submit" s.submit
    ⟨reply, { s with submit := rest }, []⟩

end Script

end TwoStep
