import TwoStep.Proofs.Handoff.Course
import TwoStep.Proofs.Handoff.Phases

/-!
# A workflow and its machine

The machine that follows a workflow ignores without a word what does not belong
to its phase, so a workflow that told it the wrong events would go unnoticed.
This module says that none does: every event moves the machine, and the phase
and fields in which it ends say what the workflow returned.

An event that is ignored leaves no trace in the machine, so the events have to
be seen before the machine gets them.  A workflow knows nothing of what follows
it but how to feed it, and so the events it tells are those that arrive at
`listen`, which keeps them all and answers as the machine would.
`transfer_of_view` and `resume_of_view` say that followers of which one is a
view of the other take a workflow the same way; hence the machine of a run is
the one that the events kept by `listen` lead to.

`TransferEvents` and `AcceptEvents` list what can arrive, with the result of the
workflow; that machine and result agree is read off the lists.
-/

namespace TwoStep.Handoff

open Session

/-! ## One follower as a view of another -/

section View

variable {μ ν : Type} {feed : μ → Event → Session μ} {feed' : ν → Event → Session ν}
  {view : μ → ν} (hfeed : ∀ m e, feed' (view m) e = (feed m e).bind fun m' => .done (view m'))

include hfeed

theorem accept_of_view (m : μ) (c : Contract) (newOwner : Signer) (fee : Fee)
    (nominationTx : Option TxHash) :
    accept feed' (view m) c newOwner fee nominationTx =
      (accept feed m c newOwner fee nominationTx).bind fun x => .done (x.1, view x.2) := by
  simp only [accept, question, bind_eq, pure_eq, bind_ask, bind_done]
  refine congrArg (Session.ask _) (funext fun r => ?_)
  rcases r with e | receipt <;> simp only [hfeed, bind_assoc, bind_done]

theorem transfer_of_view {phase : μ → Phase} {phase' : ν → Phase}
    (hphase : ∀ m, phase' (view m) = phase m) (m : μ) (stamp : Stamp) (c : Contract)
    (currentOwner newOwner : Signer) (fee : Fee) :
    transfer feed' phase' (view m) stamp c currentOwner newOwner fee =
      (transfer feed phase m stamp c currentOwner newOwner fee).bind
        fun x => .done (x.1, view x.2) := by
  simp only [transfer, bind_eq, pure_eq, bind_assoc]
  refine congrArg (Session.bind _) (funext fun slots => ?_)
  rcases slots with e | slots
  · rfl
  simp only [bind_assoc, hfeed, bind_done]
  refine congrArg (Session.bind _) (funext fun _ => ?_)
  refine congrArg (Session.bind _) (funext fun m1 => ?_)
  refine congrArg (Session.bind _) (funext fun r => ?_)
  rcases r with e | nomination
  · simp only [bind_assoc, bind_done]
  simp only [bind_assoc, bind_done, accept_of_view hfeed]
  refine congrArg (Session.bind _) (funext fun m2 => ?_)
  refine congrArg (Session.bind _) (funext fun x => ?_)
  obtain ⟨e | acceptance, m3⟩ := x
  · rfl
  · simp only [hphase, bind_done]

theorem resume_of_view (m : μ) (c : Contract) (newOwner : Signer) (fee : Fee) :
    resume feed' (view m) c newOwner fee =
      (resume feed m c newOwner fee).bind fun x => .done (x.1, view x.2) := by
  simp only [resume, bind_eq, pure_eq, bind_assoc]
  refine congrArg (Session.bind _) (funext fun slots => ?_)
  rcases slots with e | slots
  · rfl
  by_cases hp : slots.pendingOwner = newOwner.address
  · simp only [hp, ne_eq, not_true, if_false, hfeed, bind_assoc, bind_done,
      accept_of_view hfeed]
  · simp only [ne_eq, hp, not_false_eq_true, if_true, bind_done]

end View

/-! ## The events of a workflow -/

/-- Keeps an event, and answers as the machine would. -/
def listen (contract : Address) (es : List Event) (e : Event) : Session (List Event) := do
  let _ ← advance ((Machine.new contract).steps es) e
  return es ++ [e]

/-- A whole hand-over, with the events it told. -/
def transferTold (stamp : Stamp) (c : Contract) (currentOwner newOwner : Signer) (fee : Fee) :
    Session (Except TransferError Report × List Event) :=
  transfer (listen c.address) (fun es => ((Machine.new c.address).steps es).phase) [] stamp c
    currentOwner newOwner fee

/-- The acceptance of a standing nomination, with the events it told. -/
def acceptTold (c : Contract) (newOwner : Signer) (fee : Fee) :
    Session (Except TransferError Receipt × List Event) :=
  resume (listen c.address) [] c newOwner fee

/-- The machine is a view of the events: it is where they lead. -/
theorem advance_steps (contract : Address) (es : List Event) (e : Event) :
    advance ((Machine.new contract).steps es) e =
      (listen contract es e).bind fun es' => .done ((Machine.new contract).steps es') := by
  simp only [listen, advance, bind_eq, pure_eq, bind_assoc, bind_done, Machine.steps_append]
  rfl

theorem transfer_eq_told (stamp : Stamp) (c : Contract) (currentOwner newOwner : Signer)
    (fee : Fee) :
    transfer advance Machine.phase (Machine.new c.address) stamp c currentOwner newOwner fee =
      (transferTold stamp c currentOwner newOwner fee).bind
        fun x => .done (x.1, (Machine.new c.address).steps x.2) :=
  transfer_of_view (advance_steps c.address) (fun _ => rfl) [] stamp c currentOwner newOwner fee

theorem resume_eq_told (c : Contract) (newOwner : Signer) (fee : Fee) :
    resume advance (Machine.new c.address) c newOwner fee =
      (acceptTold c newOwner fee).bind
        fun x => .done (x.1, (Machine.new c.address).steps x.2) :=
  resume_of_view (advance_steps c.address) [] c newOwner fee

/-- What a whole hand-over can tell, with its result. -/
inductive TransferEvents (newOwner : Address) :
    Except TransferError Report → List Event → Prop where
  | unread (contract : Address) (e : ClientError) :
      TransferEvents newOwner (.error (.snapshot contract e)) []
  | unnominated (e : ClientError) :
      TransferEvents newOwner (.error (.nomination newOwner e))
        [.begin newOwner, .nominationFailed e.message]
  | stalled (tx : TxHash) (e : ClientError) :
      TransferEvents newOwner (.error (.acceptance newOwner (some tx) e))
        [.begin newOwner, .nominationFinalized tx, .acceptanceFailed e.message]
  | completed (report : Report) (hphase : report.phase = .accepted) :
      TransferEvents newOwner (.ok report)
        [.begin newOwner, .nominationFinalized report.nomination.txHash,
          .acceptanceFinalized report.acceptance.txHash]

/-- What the acceptance of a standing nomination can tell, with its result. -/
inductive AcceptEvents (newOwner : Address) :
    Except TransferError Receipt → List Event → Prop where
  | unread (contract : Address) (e : ClientError) :
      AcceptEvents newOwner (.error (.snapshot contract e)) []
  | notNominated (contract pendingOwner : Address) :
      AcceptEvents newOwner (.error (.notNominated contract newOwner pendingOwner)) []
  | stalled (e : ClientError) :
      AcceptEvents newOwner (.error (.acceptance newOwner none e))
        [.resume newOwner, .acceptanceFailed e.message]
  | completed (receipt : Receipt) :
      AcceptEvents newOwner (.ok receipt)
        [.resume newOwner, .acceptanceFinalized receipt.txHash]

section Told

variable {σ : Type} (client : Client σ) (s : σ)

theorem run_listen (contract : Address) (es : List Event) (e : Event) :
    ((listen contract es e).run client s).value = es ++ [e] ∧
      ((listen contract es e).run client s).state = s := by
  rw [← run_quiet_value, ← run_quiet_state]
  simp [listen]

theorem run_snapshot_error {c : Contract} {e : TransferError}
    (h : ((snapshot c).run client s).value = .error e) :
    ∃ source, e = .snapshot c.address source := by
  simp only [snapshot, question, bind_eq, pure_eq, bind_ask, bind_done, run_ask_value] at h
  cases howner : (client (.owner c) s).reply with
  | error source =>
      rw [howner] at h
      exact ⟨source, (Except.error.inj h).symm⟩
  | ok owner =>
      simp only [howner, run_ask_value] at h
      cases hpending : (client (.pendingOwner c) (client (.owner c) s).state).reply with
      | error source =>
          rw [hpending] at h
          exact ⟨source, (Except.error.inj h).symm⟩
      | ok pendingOwner =>
          rw [hpending] at h
          cases h

theorem run_accept (contract : Address) (es : List Event) (c : Contract) (newOwner : Signer)
    (fee : Fee) (nominationTx : Option TxHash) :
    let told := ((accept (listen contract) es c newOwner fee nominationTx).run client s).value
    (∃ receipt, told = (.ok receipt, es ++ [.acceptanceFinalized receipt.txHash])) ∨
      ∃ e, told = (.error (.acceptance newOwner.address nominationTx e),
        es ++ [.acceptanceFailed e.message]) := by
  intro told
  simp only [told, accept, question, bind_eq, pure_eq, bind_ask, bind_done, run_ask_value]
  generalize client (.submit c .acceptOwnership ⟨newOwner, fee⟩) s = turn
  obtain ⟨e | receipt, s', -⟩ := turn
  · simp only [run_bind, run_listen, run_done]
    exact .inr ⟨e, rfl⟩
  · simp only [run_bind, run_listen, run_done]
    exact .inl ⟨receipt, rfl⟩

variable (stamp : Stamp) (c : Contract) (currentOwner newOwner : Signer) (fee : Fee)

theorem transferTold_events :
    let told := ((transferTold stamp c currentOwner newOwner fee).run client s).value
    TransferEvents newOwner.address told.1 told.2 := by
  intro told
  simp only [told, transferTold, transfer, bind_eq, pure_eq, run_bind]
  cases hslots : ((snapshot c).run client s).value with
  | error e =>
      obtain ⟨source, rfl⟩ := run_snapshot_error client s hslots
      exact .unread c.address source
  | ok slots =>
      simp only [run_bind, run_listen, question, bind_ask, bind_done, run_ask_value,
        List.nil_append]
      generalize client (.submit c (.setPendingOwner newOwner.address) ⟨currentOwner, fee⟩) _ = turn
      obtain ⟨e | nomination, s', -⟩ := turn
      · simp only [run_bind, run_listen, run_done]
        exact .unnominated e
      simp only [run_bind, run_listen]
      obtain ⟨acceptance, htold⟩ | ⟨e, htold⟩ := run_accept client s' c.address
        ([.begin newOwner.address] ++ [.nominationFinalized nomination.txHash]) c newOwner fee
        (some nomination.txHash)
      · simp only [htold, run_done]
        exact .completed _ rfl
      · simp only [htold, run_done]
        exact .stalled nomination.txHash e

theorem acceptTold_events :
    let told := ((acceptTold c newOwner fee).run client s).value
    AcceptEvents newOwner.address told.1 told.2 := by
  intro told
  simp only [told, acceptTold, resume, bind_eq, pure_eq, run_bind]
  cases hslots : ((snapshot c).run client s).value with
  | error e =>
      obtain ⟨source, rfl⟩ := run_snapshot_error client s hslots
      exact .unread c.address source
  | ok slots =>
      by_cases hp : slots.pendingOwner = newOwner.address
      case neg =>
        simp only [ne_eq, hp, not_false_eq_true, if_true, run_done]
        exact .notNominated c.address slots.pendingOwner
      simp only [hp, ne_eq, not_true, if_false, run_bind, run_listen, List.nil_append]
      obtain ⟨receipt, htold⟩ | ⟨e, htold⟩ := run_accept client
        ((snapshot c).run client s).state c.address [.resume newOwner.address] c newOwner fee none
      · simp only [htold]
        exact .completed receipt
      · simp only [htold]
        exact .stalled e

end Told

/-! ## Agreement -/

/-- Each event of a history moves the machine to another phase. -/
def Machine.Heeds (m : Machine) : List Event → Prop
  | [] => True
  | e :: es => (m.step e).phase ≠ m.phase ∧ (m.step e).Heeds es

/-- The machine heeded every event, is where they lead, and says what the
workflow returned. -/
structure Agrees {α : Type} (contract newOwner : Address) (result : Except TransferError α)
    (es : List Event) (m : Machine) : Prop where
  heeded : (Machine.new contract).Heeds es
  led : m = (Machine.new contract).steps es
  accepted : m.phase = .accepted ↔ ∃ a, result = .ok a
  unnominated : m.phase = .notStarted ∧ m.lastFailure ≠ none ↔
    ∃ a e, result = .error (.nomination a e)
  /-- The failure of a nomination is the client's. -/
  nominationFailure : ∀ a e, result = .error (.nomination a e) → m.lastFailure = some e.message
  stalled : m.phase = .stalled ↔ ∃ a tx e, result = .error (.acceptance a tx e)
  /-- The failure of an acceptance is the client's, and the machine knows of the
  same nomination as the error. -/
  acceptanceFailure : ∀ a tx e, result = .error (.acceptance a tx e) →
    m.lastFailure = some e.message ∧ m.pendingOwner = some newOwner ∧ m.nominationTx = tx

section Agreement

variable {contract newOwner : Address} {es : List Event}

theorem TransferEvents.agrees {result : Except TransferError Report}
    (h : TransferEvents newOwner result es) :
    Agrees contract newOwner result es ((Machine.new contract).steps es) where
  heeded := by cases h <;> simp [Machine.Heeds, Machine.step, Machine.new]
  led := rfl
  accepted := by cases h <;> simp [Machine.steps, Machine.step, Machine.new]
  unnominated := by cases h <;> simp [Machine.steps, Machine.step, Machine.new]
  nominationFailure := by cases h <;> simp [Machine.steps, Machine.step, Machine.new]
  stalled := by cases h <;> simp [Machine.steps, Machine.step, Machine.new]
  acceptanceFailure := by cases h <;> simp [Machine.steps, Machine.step, Machine.new]

theorem AcceptEvents.agrees {result : Except TransferError Receipt}
    (h : AcceptEvents newOwner result es) :
    Agrees contract newOwner result es ((Machine.new contract).steps es) where
  heeded := by cases h <;> simp [Machine.Heeds, Machine.step, Machine.new]
  led := rfl
  accepted := by cases h <;> simp [Machine.steps, Machine.step, Machine.new]
  unnominated := by cases h <;> simp [Machine.steps, Machine.step, Machine.new]
  nominationFailure := by cases h <;> simp
  stalled := by cases h <;> simp [Machine.steps, Machine.step, Machine.new]
  acceptanceFailure := by cases h <;> simp [Machine.steps, Machine.step, Machine.new]

end Agreement

theorem run_inSpan_value {σ α : Type} (client : Client σ) (s : σ) (span : Log.Span)
    (m : Session α) : ((inSpan span m).run client s).value = (m.run client s).value := by
  rw [← run_quiet_value, quiet_inSpan, run_bind]
  simp only [run_done, run_quiet_value]

/-- Over any client, every event that a workflow tells its machine moves it, and
the machine ends accepted iff the workflow succeeds, not started with the
client's failure iff the nomination failed, and stalled with the client's
failure, the nominee and the nomination iff the acceptance failed.  After a
success it holds the hashes of the receipts, and the report says so. -/
theorem machine_agrees_with_workflow {σ : Type} (client : Client σ) (s : σ) (stamp : Stamp)
    (c : Contract) (currentOwner newOwner : Signer) (fee : Fee) :
    (let result := ((transferOwnership stamp c currentOwner newOwner fee).run client s).value
      ∃ es m,
        ((transferTold stamp c currentOwner newOwner fee).run client s).value = (result, es) ∧
        ((transfer advance Machine.phase (Machine.new c.address) stamp c currentOwner newOwner
          fee).run client s).value = (result, m) ∧
        Agrees c.address newOwner.address result es m ∧
        ∀ report, result = .ok report → report.phase = .accepted ∧
          m.nominationTx = some report.nomination.txHash ∧
          m.acceptanceTx = some report.acceptance.txHash) ∧
    (let result := ((acceptPending stamp c newOwner fee).run client s).value
      ∃ es m,
        ((acceptTold c newOwner fee).run client s).value = (result, es) ∧
        ((resume advance (Machine.new c.address) c newOwner fee).run client s).value =
          (result, m) ∧
        Agrees c.address newOwner.address result es m ∧
        ∀ receipt, result = .ok receipt →
          m.nominationTx = none ∧ m.acceptanceTx = some receipt.txHash) := by
  have htransfer := transferTold_events client s stamp c currentOwner newOwner fee
  have haccept := acceptTold_events client s c newOwner fee
  simp only [transferOwnership, acceptPending, run_inSpan_value, map_eq, transfer_eq_told,
    resume_eq_told, run_bind, run_done]
  generalize ((transferTold stamp c currentOwner newOwner fee).run client s).value = x at htransfer
  generalize ((acceptTold c newOwner fee).run client s).value = y at haccept
  obtain ⟨result, es⟩ := x
  obtain ⟨result', es'⟩ := y
  refine ⟨⟨es, _, rfl, rfl, htransfer.agrees, ?_⟩, ⟨es', _, rfl, rfl, haccept.agrees, ?_⟩⟩
  · rintro report rfl
    cases htransfer with
    | completed _ hphase => exact ⟨hphase, rfl, rfl⟩
  · rintro receipt rfl
    cases haccept with
    | completed _ => exact ⟨rfl, rfl⟩

end TwoStep.Handoff
