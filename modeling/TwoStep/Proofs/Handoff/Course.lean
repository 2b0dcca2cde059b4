import TwoStep.Handoff.Workflow
import TwoStep.Proofs.Session

/-!
# The course of a hand-over

What a hand-over asks and returns, over a client about which nothing is
assumed: it may change its mind between two questions, or contradict itself.

`TransferCourse` and `AcceptCourse` list the ways the two workflows can go, one
constructor for each question at which they can stop; `transferOwnership_course`
and `acceptPending_course` say that every run is one of them.  From there
everything about the order of the questions is read off the constructors:
`workflows_follow_their_plans` says that a workflow goes down its plan, stops
exactly after the first question that fails, and returns what the answers to
its questions give.
-/

namespace TwoStep.Handoff

open Session

/-! ## The questions of a workflow

With the printing and the machine left out, a workflow is its questions and
what it makes of the replies. -/

/-- The questions of a whole hand-over. -/
def transferQuestions (stamp : Stamp) (c : Contract) (currentOwner newOwner : Signer)
    (fee : Fee) : Session (Except TransferError Report) :=
  .ask (.owner c) fun
    | .error e => .done (.error (.snapshot c.address e))
    | .ok owner => .ask (.pendingOwner c) fun
      | .error e => .done (.error (.snapshot c.address e))
      | .ok _ => .ask (.submit c (.setPendingOwner newOwner.address) ⟨currentOwner, fee⟩) fun
        | .error e => .done (.error (.nomination newOwner.address e))
        | .ok nomination => .ask (.submit c .acceptOwnership ⟨newOwner, fee⟩) fun
          | .error e =>
            .done (.error (.acceptance newOwner.address (some nomination.txHash) e))
          | .ok acceptance =>
            .done (.ok ⟨stamp.correlationId, c.address, owner, newOwner.address, fee,
              nomination, acceptance, .accepted, stamp.startedAt, stamp.finishedAt⟩)

/-- The questions of the acceptance of a standing nomination. -/
def acceptQuestions (c : Contract) (newOwner : Signer) (fee : Fee) :
    Session (Except TransferError Receipt) :=
  .ask (.owner c) fun
    | .error e => .done (.error (.snapshot c.address e))
    | .ok _ => .ask (.pendingOwner c) fun
      | .error e => .done (.error (.snapshot c.address e))
      | .ok pendingOwner =>
        if pendingOwner ≠ newOwner.address then
          .done (.error (.notNominated c.address newOwner.address pendingOwner))
        else .ask (.submit c .acceptOwnership ⟨newOwner, fee⟩) fun
          | .error e => .done (.error (.acceptance newOwner.address none e))
          | .ok receipt => .done (.ok receipt)

@[simp] theorem quiet_advance (m : Machine) (e : Event) :
    (advance m e).quiet = .done (m.step e) := by
  simp [advance]

@[simp] theorem quiet_inSpan {α : Type} (span : Log.Span) (m : Session α) :
    (inSpan span m).quiet = m.quiet.bind .done := by
  simp [inSpan, say]

theorem quiet_transferOwnership (stamp : Stamp) (c : Contract) (currentOwner newOwner : Signer)
    (fee : Fee) :
    (transferOwnership stamp c currentOwner newOwner fee).quiet =
      transferQuestions stamp c currentOwner newOwner fee := by
  simp only [transferOwnership, transfer, snapshot, accept, question, quiet_inSpan, bind_eq,
    map_eq, pure_eq, quiet_bind, quiet, bind_ask, transferQuestions]
  -- one split for each question, in the order in which they are asked
  refine congrArg (Session.ask _) (funext fun r1 => ?_)
  rcases r1 with e | owner
  · simp
  refine congrArg (Session.ask _) (funext fun r2 => ?_)
  rcases r2 with e | pendingOwner
  · simp
  simp only [say, quiet, quiet_advance, bind_done, quiet_bind, quiet, bind_ask]
  refine congrArg (Session.ask _) (funext fun r3 => ?_)
  rcases r3 with e | nomination
  · simp
  simp only [quiet_advance, bind_done, quiet_bind, quiet, bind_ask]
  refine congrArg (Session.ask _) (funext fun r4 => ?_)
  rcases r4 with e | acceptance
  · simp
  · simp [Machine.step, Machine.new]

theorem quiet_acceptPending (stamp : Stamp) (c : Contract) (newOwner : Signer) (fee : Fee) :
    (acceptPending stamp c newOwner fee).quiet = acceptQuestions c newOwner fee := by
  simp only [acceptPending, resume, snapshot, accept, question, quiet_inSpan, bind_eq,
    map_eq, pure_eq, quiet_bind, quiet, bind_ask, acceptQuestions]
  refine congrArg (Session.ask _) (funext fun r1 => ?_)
  rcases r1 with e | owner
  · simp
  refine congrArg (Session.ask _) (funext fun r2 => ?_)
  rcases r2 with e | pendingOwner
  · simp
  by_cases hp : pendingOwner = newOwner.address
  · simp only [hp, ne_eq, not_true, if_false, quiet, bind_done, quiet_bind, quiet_advance,
      bind_ask]
    refine congrArg (Session.ask _) (funext fun r3 => ?_)
    rcases r3 with e | receipt <;> simp
  · simp [hp]

/-! ## The ways a workflow can go -/

/-- The ways a whole hand-over can go: the answers it got, in order, and what
it returned. -/
inductive TransferCourse (stamp : Stamp) (c : Contract) (currentOwner newOwner : Signer)
    (fee : Fee) : List Answer → Except TransferError Report → Prop where
  | ownerUnread (e : ClientError) :
      TransferCourse stamp c currentOwner newOwner fee
        [⟨.owner c, .error e⟩]
        (.error (.snapshot c.address e))
  | pendingUnread (owner : Address) (e : ClientError) :
      TransferCourse stamp c currentOwner newOwner fee
        [⟨.owner c, .ok owner⟩, ⟨.pendingOwner c, .error e⟩]
        (.error (.snapshot c.address e))
  | unnominated (owner pendingOwner : Address) (e : ClientError) :
      TransferCourse stamp c currentOwner newOwner fee
        [⟨.owner c, .ok owner⟩, ⟨.pendingOwner c, .ok pendingOwner⟩,
          ⟨.submit c (.setPendingOwner newOwner.address) ⟨currentOwner, fee⟩, .error e⟩]
        (.error (.nomination newOwner.address e))
  | stalled (owner pendingOwner : Address) (nomination : Receipt) (e : ClientError) :
      TransferCourse stamp c currentOwner newOwner fee
        [⟨.owner c, .ok owner⟩, ⟨.pendingOwner c, .ok pendingOwner⟩,
          ⟨.submit c (.setPendingOwner newOwner.address) ⟨currentOwner, fee⟩, .ok nomination⟩,
          ⟨.submit c .acceptOwnership ⟨newOwner, fee⟩, .error e⟩]
        (.error (.acceptance newOwner.address (some nomination.txHash) e))
  | completed (owner pendingOwner : Address) (nomination acceptance : Receipt) :
      TransferCourse stamp c currentOwner newOwner fee
        [⟨.owner c, .ok owner⟩, ⟨.pendingOwner c, .ok pendingOwner⟩,
          ⟨.submit c (.setPendingOwner newOwner.address) ⟨currentOwner, fee⟩, .ok nomination⟩,
          ⟨.submit c .acceptOwnership ⟨newOwner, fee⟩, .ok acceptance⟩]
        (.ok ⟨stamp.correlationId, c.address, owner, newOwner.address, fee, nomination,
          acceptance, .accepted, stamp.startedAt, stamp.finishedAt⟩)

/-- The ways the acceptance of a standing nomination can go. -/
inductive AcceptCourse (c : Contract) (newOwner : Signer) (fee : Fee) :
    List Answer → Except TransferError Receipt → Prop where
  | ownerUnread (e : ClientError) :
      AcceptCourse c newOwner fee
        [⟨.owner c, .error e⟩]
        (.error (.snapshot c.address e))
  | pendingUnread (owner : Address) (e : ClientError) :
      AcceptCourse c newOwner fee
        [⟨.owner c, .ok owner⟩, ⟨.pendingOwner c, .error e⟩]
        (.error (.snapshot c.address e))
  | notNominated (owner pendingOwner : Address) (hne : pendingOwner ≠ newOwner.address) :
      AcceptCourse c newOwner fee
        [⟨.owner c, .ok owner⟩, ⟨.pendingOwner c, .ok pendingOwner⟩]
        (.error (.notNominated c.address newOwner.address pendingOwner))
  | stalled (owner : Address) (e : ClientError) :
      AcceptCourse c newOwner fee
        [⟨.owner c, .ok owner⟩, ⟨.pendingOwner c, .ok newOwner.address⟩,
          ⟨.submit c .acceptOwnership ⟨newOwner, fee⟩, .error e⟩]
        (.error (.acceptance newOwner.address none e))
  | completed (owner : Address) (receipt : Receipt) :
      AcceptCourse c newOwner fee
        [⟨.owner c, .ok owner⟩, ⟨.pendingOwner c, .ok newOwner.address⟩,
          ⟨.submit c .acceptOwnership ⟨newOwner, fee⟩, .ok receipt⟩]
        (.ok receipt)

section Course

variable {σ : Type} (client : Client σ) (s : σ) (stamp : Stamp) (c : Contract)
  (currentOwner newOwner : Signer) (fee : Fee)

/-- Every run of a whole hand-over takes one of its courses. -/
theorem transferOwnership_course :
    TransferCourse stamp c currentOwner newOwner fee
      ((transferOwnership stamp c currentOwner newOwner fee).answers client s)
      ((transferOwnership stamp c currentOwner newOwner fee).run client s).value := by
  rw [answers, ← transcript_quiet, ← run_quiet_value, quiet_transferOwnership, transferQuestions]
  simp only [transcript_ask, run_ask_value, List.map_cons, Moment.ask, Moment.answer]
  generalize client (.owner c) s = t1
  obtain ⟨e | owner, s1, -⟩ := t1
  · exact .ownerUnread e
  simp only [transcript_ask, run_ask_value, List.map_cons, Moment.ask, Moment.answer]
  generalize client (.pendingOwner c) s1 = t2
  obtain ⟨e | pendingOwner, s2, -⟩ := t2
  · exact .pendingUnread owner e
  simp only [transcript_ask, run_ask_value, List.map_cons, Moment.ask, Moment.answer]
  generalize client (.submit c (.setPendingOwner newOwner.address) ⟨currentOwner, fee⟩) s2 = t3
  obtain ⟨e | nomination, s3, -⟩ := t3
  · exact .unnominated owner pendingOwner e
  simp only [transcript_ask, run_ask_value, List.map_cons, Moment.ask, Moment.answer]
  generalize client (.submit c .acceptOwnership ⟨newOwner, fee⟩) s3 = t4
  obtain ⟨e | acceptance, s4, -⟩ := t4
  · exact .stalled owner pendingOwner nomination e
  · exact .completed owner pendingOwner nomination acceptance

/-- Every run of an acceptance takes one of its courses. -/
theorem acceptPending_course :
    AcceptCourse c newOwner fee
      ((acceptPending stamp c newOwner fee).answers client s)
      ((acceptPending stamp c newOwner fee).run client s).value := by
  rw [answers, ← transcript_quiet, ← run_quiet_value, quiet_acceptPending, acceptQuestions]
  simp only [transcript_ask, run_ask_value, List.map_cons, Moment.ask, Moment.answer]
  generalize client (.owner c) s = t1
  obtain ⟨e | owner, s1, -⟩ := t1
  · exact .ownerUnread e
  simp only [transcript_ask, run_ask_value, List.map_cons, Moment.ask, Moment.answer]
  generalize client (.pendingOwner c) s1 = t2
  obtain ⟨e | pendingOwner, s2, -⟩ := t2
  · exact .pendingUnread owner e
  by_cases hp : pendingOwner = newOwner.address
  case neg =>
    simp only [ne_eq, hp, not_false_eq_true, if_true]
    exact .notNominated owner pendingOwner hp
  subst hp
  simp only [ne_eq, not_true, if_false, transcript_ask, run_ask_value, List.map_cons, Moment.ask,
    Moment.answer]
  generalize client (.submit c .acceptOwnership ⟨newOwner, fee⟩) s2 = t3
  obtain ⟨e | receipt, s3, -⟩ := t3
  · exact .stalled owner e
  · exact .completed owner receipt

end Course

/-! ## Either workflow -/

/-- A hand-over that somebody runs: a whole one, or the acceptance of a
standing nomination. -/
inductive Errand where
  | transfer (stamp : Stamp) (c : Contract) (currentOwner newOwner : Signer) (fee : Fee)
  | accept (stamp : Stamp) (c : Contract) (newOwner : Signer) (fee : Fee)
  deriving DecidableEq, Repr

/-- The workflow of an errand; of a success only the fact is kept. -/
def Errand.session : Errand → Session (Except TransferError Unit)
  | .transfer stamp c currentOwner newOwner fee =>
    Except.map (fun _ => ()) <$> transferOwnership stamp c currentOwner newOwner fee
  | .accept stamp c newOwner fee =>
    Except.map (fun _ => ()) <$> acceptPending stamp c newOwner fee

/-! ## Going down a plan -/

/-- The questions go down a plan, and none is asked after one that failed. -/
structure Follows (plan : List Query) (xs : List Answer) : Prop where
  asked : xs.map Sigma.fst <+: plan
  unfailing : ∀ x ∈ xs.dropLast, x.error? = none

/-- The last question failed with a given error. -/
def FailsLast (xs : List Answer) (e : ClientError) : Prop :=
  ∃ x, xs.getLast? = some x ∧ x.error? = some e

/-- All questions up to the last of a plan were asked and answered. -/
def Completes (plan : List Query) (xs : List Answer) : Prop :=
  xs.length = plan.length ∧ ∀ x ∈ xs, x.error? = none

/-- The questions of a whole hand-over, if none fails. -/
def transferPlan (c : Contract) (currentOwner newOwner : Signer) (fee : Fee) : List Query :=
  [.owner c, .pendingOwner c, .submit c (.setPendingOwner newOwner.address) ⟨currentOwner, fee⟩,
    .submit c .acceptOwnership ⟨newOwner, fee⟩]

/-- The questions of the acceptance of a standing nomination, if none fails. -/
def acceptPlan (c : Contract) (newOwner : Signer) (fee : Fee) : List Query :=
  [.owner c, .pendingOwner c, .submit c .acceptOwnership ⟨newOwner, fee⟩]

/-- How the answers to a whole hand-over decide its result. -/
structure TransferFollows (c : Contract) (currentOwner newOwner : Signer) (fee : Fee)
    (xs : List Answer) (result : Except TransferError Report) : Prop
    extends Follows (transferPlan c currentOwner newOwner fee) xs where
  /-- It stops early only after a question that failed. -/
  stops : xs.length < 4 → ∃ e, FailsLast xs e
  /-- It succeeds iff all four questions do. -/
  succeeds : (∃ r, result = .ok r) ↔ Completes (transferPlan c currentOwner newOwner fee) xs
  /-- The report holds the answers to the first, third and fourth question. -/
  report : ∀ r, result = .ok r →
    xs[0]? = some ⟨.owner c, .ok r.previousOwner⟩ ∧
    xs[2]? = some ⟨.submit c (.setPendingOwner newOwner.address) ⟨currentOwner, fee⟩,
      .ok r.nomination⟩ ∧
    xs[3]? = some ⟨.submit c .acceptOwnership ⟨newOwner, fee⟩, .ok r.acceptance⟩
  /-- An error is the client's own, and named by the question that failed. -/
  blames : ∀ e, result = .error e → ∃ source, FailsLast xs source ∧ e.source? = some source ∧
    ((xs.length = 1 ∨ xs.length = 2) ∧ e = .snapshot c.address source ∨
      xs.length = 3 ∧ e = .nomination newOwner.address source ∨
      xs.length = 4 ∧ ∃ r, e = .acceptance newOwner.address (some r.txHash) source ∧
        xs[2]? = some ⟨.submit c (.setPendingOwner newOwner.address) ⟨currentOwner, fee⟩, .ok r⟩)

/-- How the answers to an acceptance decide its result. -/
structure AcceptFollows (c : Contract) (newOwner : Signer) (fee : Fee)
    (xs : List Answer) (result : Except TransferError Receipt) : Prop
    extends Follows (acceptPlan c newOwner fee) xs where
  /-- Nothing is submitted for somebody who is not nominated. -/
  refuses : ∀ p, xs[1]? = some ⟨.pendingOwner c, .ok p⟩ → p ≠ newOwner.address →
    xs.length = 2 ∧ result = .error (.notNominated c.address newOwner.address p)
  /-- Otherwise it stops early only after a question that failed. -/
  stops : xs.length < 3 → (∃ e, FailsLast xs e) ∨
    ∃ p, xs[1]? = some ⟨.pendingOwner c, .ok p⟩ ∧ p ≠ newOwner.address
  /-- It succeeds iff all three questions do, and returns the last answer. -/
  succeeds : (∃ r, result = .ok r) ↔ Completes (acceptPlan c newOwner fee) xs
  receipt : ∀ r, result = .ok r →
    xs[2]? = some ⟨.submit c .acceptOwnership ⟨newOwner, fee⟩, .ok r⟩
  /-- An error says who is pending, or is the client's own. -/
  blames : ∀ e, result = .error e →
    (∃ p, xs[1]? = some ⟨.pendingOwner c, .ok p⟩ ∧
      e = .notNominated c.address newOwner.address p ∧ p ≠ newOwner.address) ∨
    ∃ source, FailsLast xs source ∧ e.source? = some source ∧
      ((xs.length = 1 ∨ xs.length = 2) ∧ e = .snapshot c.address source ∨
        xs.length = 3 ∧ e = .acceptance newOwner.address none source)

theorem TransferCourse.follows {stamp : Stamp} {c : Contract} {currentOwner newOwner : Signer}
    {fee : Fee} {xs : List Answer} {result : Except TransferError Report}
    (h : TransferCourse stamp c currentOwner newOwner fee xs result) :
    TransferFollows c currentOwner newOwner fee xs result where
  asked := by cases h <;> simp [transferPlan]
  unfailing := by cases h <;> simp [Answer.error?]
  stops := by cases h <;> simp [FailsLast, Answer.error?]
  succeeds := by cases h <;> simp [Completes, transferPlan, Answer.error?]
  report := by cases h <;> simp
  blames := by cases h <;> simp [FailsLast, Answer.error?, TransferError.source?]

theorem AcceptCourse.follows {c : Contract} {newOwner : Signer} {fee : Fee} {xs : List Answer}
    {result : Except TransferError Receipt} (h : AcceptCourse c newOwner fee xs result) :
    AcceptFollows c newOwner fee xs result where
  asked := by cases h <;> simp [acceptPlan]
  unfailing := by cases h <;> simp [Answer.error?]
  refuses := by cases h <;> simp +contextual
  stops := by cases h <;> simp [FailsLast, Answer.error?, *]
  succeeds := by cases h <;> simp [Completes, acceptPlan, Answer.error?]
  receipt := by cases h <;> simp
  blames := by cases h <;> simp [FailsLast, Answer.error?, TransferError.source?, *]

/-- Over any client, a workflow goes down its plan, stops exactly after the
first question that fails, and returns what the answers give: a hand-over its
report or the failed question's error, an acceptance its receipt, the failed
question's error, or a refusal when somebody else is pending. -/
theorem workflows_follow_their_plans {σ : Type} (client : Client σ) (s : σ) (stamp : Stamp)
    (c : Contract) (currentOwner newOwner : Signer) (fee : Fee) :
    let transfer := transferOwnership stamp c currentOwner newOwner fee
    let accept := acceptPending stamp c newOwner fee
    ((transfer.answers client s).map Sigma.fst = (transfer.run client s).asked ∧
      TransferFollows c currentOwner newOwner fee (transfer.answers client s)
        (transfer.run client s).value) ∧
    ((accept.answers client s).map Sigma.fst = (accept.run client s).asked ∧
      AcceptFollows c newOwner fee (accept.answers client s) (accept.run client s).value) := by
  have htransfer := transferOwnership_course client s stamp c currentOwner newOwner fee
  have haccept := acceptPending_course client s stamp c newOwner fee
  exact ⟨⟨map_fst_answers .., htransfer.follows⟩, ⟨map_fst_answers .., haccept.follows⟩⟩

end TwoStep.Handoff
