import TwoStep.Proofs.Command.Preparation
import TwoStep.Proofs.Handoff.Course
import TwoStep.Proofs.Rpc.Exchanges

/-!
# The course of a command

A command that talks to a contract first finds it, and then has a workflow's
dialogue with it.  So it goes down a plan as well: the question for the contract,
and behind it the plan of the workflow.  What a command prints in between has no
bearing on that.

The plan names the contract at the address that was asked for.  Both clients find
no other (`Finds`), which is all that is assumed of a client here.
-/

namespace TwoStep

open Session

/-- A client finds at an address only the contract that is there. -/
def Finds {σ : Type} (client : Client σ) : Prop :=
  ∀ a s c, (client (.contractAt a) s).reply = .ok c → c = ⟨a⟩

theorem Ledger.finds : Finds Ledger.client := by
  intro a l c h
  simp only [Ledger.client] at h
  split at h
  · exact (Except.ok.inj h).symm
  · cases h

theorem Rpc.finds {ν : Type} (node : Node ν) (signers : List Address) :
    Finds (Rpc.client node signers) := by
  intro a l c h
  have htalk : Talks (contractAt node a) (Inquires fun c => c = ⟨a⟩) := by
    refine Inquires.bind (Inquires.ask fun _ => rfl) fun code _ => ?_
    split
    · exact Talks.of_throw Inquires.error
    · exact Talks.of_pure (Inquires.ok rfl)
  obtain ⟨xs, -, -, hfound⟩ := htalk l
  exact hfound c h

namespace Handoff

/-- A plan is gone down one question further. -/
theorem Follows.cons {plan : List Query} {xs : List Answer} (h : Follows plan xs) {x : Answer}
    (hx : x.error? = none) : Follows (x.1 :: plan) (x :: xs) where
  asked := List.cons_prefix_cons.mpr ⟨rfl, h.asked⟩
  unfailing := by
    cases xs with
    | nil => simp
    | cons y ys =>
        intro z hz
        rw [List.dropLast_cons_cons, List.mem_cons] at hz
        obtain rfl | hz := hz
        · exact hx
        · exact h.unfailing z hz

theorem Follows.single (plan : List Query) (x : Answer) : Follows (x.1 :: plan) [x] where
  asked := List.cons_prefix_cons.mpr ⟨rfl, List.nil_prefix⟩
  unfailing := by simp

/-- The questions for both ownership slots. -/
def snapshotPlan (c : Contract) : List Query :=
  [.owner c, .pendingOwner c]

variable {σ : Type} {client : Client σ}

theorem snapshot_follows (c : Contract) (s : σ) :
    Follows (snapshotPlan c) ((snapshot c).answers client s) := by
  simp only [snapshot, question, bind_eq, bind_ask, bind_done, answers, transcript_ask,
    List.map_cons, Moment.ask, Moment.answer, snapshotPlan]
  generalize client (.owner c) s = t1
  obtain ⟨e | owner, s1, -⟩ := t1
  · exact .single _ ⟨.owner c, .error e⟩
  refine .cons (x := ⟨.owner c, .ok owner⟩) ?_ rfl
  simp only [transcript_ask, List.map_cons, Moment.ask, Moment.answer]
  generalize client (.pendingOwner c) s1 = t2
  obtain ⟨e | pendingOwner, s2, -⟩ := t2
  · exact .single _ ⟨.pendingOwner c, .error e⟩
  · exact .single _ ⟨.pendingOwner c, .ok pendingOwner⟩

section Resolve

variable {α : Type} (a : Address) (f : Except TransferError Contract → Session α) (s : σ)

theorem answers_of_resolve :
    let turn := client (.contractAt a) s
    ((resolve a).bind f).answers client s =
      ⟨.contractAt a, turn.reply⟩ ::
        (f (turn.reply.mapError (.resolve a))).answers client turn.state := rfl

theorem value_of_resolve :
    let turn := client (.contractAt a) s
    (((resolve a).bind f).run client s).value =
      ((f (turn.reply.mapError (.resolve a))).run client turn.state).value := rfl

end Resolve

/-- What starts by finding a contract goes down the plan of what it does with
it. -/
theorem follows_of_resolve {α : Type} (hfinds : Finds client) {a : Address}
    {f : Except TransferError Contract → Session α} {plan : List Query}
    (hok : ∀ s, Follows plan ((f (.ok ⟨a⟩)).answers client s))
    (herror : ∀ e s, (f (.error e)).answers client s = []) (s : σ) :
    Follows (.contractAt a :: plan) (((resolve a).bind f).answers client s) := by
  rw [answers_of_resolve]
  have hfound := hfinds a s
  generalize client (.contractAt a) s = turn at hfound
  obtain ⟨e | c, s', notes⟩ := turn
  · rw [Except.mapError, herror]
    exact .single _ ⟨.contractAt a, .error e⟩
  · obtain rfl := hfound c rfl
    exact (hok s').cons (x := ⟨.contractAt a, .ok ⟨a⟩⟩) rfl

end Handoff

namespace Command

section Dialogues

open Handoff

/-! ## The three commands -/

variable {σ : Type} {client : Client σ} (hfinds : Finds client) (s : σ)

include hfinds

theorem Status.session_follows (json : Bool) (o : Status.Order) :
    Follows (.contractAt o.contract :: snapshotPlan ⟨o.contract⟩)
      ((Status.session json o).answers client s) := by
  refine follows_of_resolve hfinds (fun s => ?_) (fun e s => rfl) s
  simp only [bind_eq]
  rw [answers_bind_of_quiet]
  · exact snapshot_follows _ s
  · rintro (e | slots)
    · exact ⟨_, rfl⟩
    · exact ⟨_, rfl⟩

theorem Accept.session_follows (stamp : Stamp) (o : Accept.Order) :
    Follows (.contractAt o.contract :: acceptPlan ⟨o.contract⟩ o.newOwner o.fee)
      ((Accept.session stamp o).answers client s) := by
  refine follows_of_resolve hfinds (fun s => ?_) (fun e s => rfl) s
  simp only [bind_eq]
  rw [answers_sayAll_bind, answers_bind_of_quiet]
  · exact (acceptPending_course client s stamp _ o.newOwner o.fee).follows.toFollows
  · rintro (e | receipt)
    · exact ⟨_, rfl⟩
    · exact ⟨_, rfl⟩

omit hfinds in
/-- Once the contract is found, a transfer is its workflow. -/
theorem Transfer.session_of_found {s s' : σ} {notes : List Log.Record} (stamp : Stamp) (json : Bool)
    {o : Transfer.Order} {c : Contract}
    (hfound : client (.contractAt o.contract) s = ⟨.ok c, s', notes⟩) :
    let workflow := transferOwnership stamp c o.currentOwner o.newOwner o.fee
    (Transfer.session stamp json o).answers client s =
        ⟨.contractAt o.contract, .ok c⟩ :: workflow.answers client s' ∧
      ((Transfer.session stamp json o).run client s).value =
        (workflow.run client s').value.mapError .handOver := by
  intro workflow
  rw [Transfer.session]
  simp only [bind_eq]
  rw [answers_of_resolve, value_of_resolve, hfound]
  simp only [Except.mapError]
  refine ⟨congrArg (List.cons _) ?_, ?_⟩
  · rw [answers_sayAll_bind, answers_bind_of_quiet]
    rintro (e | report)
    · simp only [quiet_bind, quiet_sayAll, bind_done]
      exact ⟨_, rfl⟩
    · exact ⟨_, rfl⟩
  · rw [← run_quiet_value, quiet_bind, quiet_sayAll, bind_done, run_quiet_value, run_bind]
    change (Session.run client _ _).value = Except.mapError _ (workflow.run client s').value
    generalize workflow.run client s' = r
    obtain ⟨e | report, s'', outputs, asked⟩ := r
    · rw [← run_quiet_value]
      simp only [quiet_bind, quiet_sayAll, bind_done]
      rfl
    · rfl

theorem Transfer.session_follows (stamp : Stamp) (json : Bool) (o : Transfer.Order) :
    Follows
      (.contractAt o.contract :: transferPlan ⟨o.contract⟩ o.currentOwner o.newOwner o.fee)
      ((Transfer.session stamp json o).answers client s) := by
  generalize hturn : client (.contractAt o.contract) s = turn
  obtain ⟨e | c, s', notes⟩ := turn
  · have hasked : (Transfer.session stamp json o).answers client s =
        [⟨.contractAt o.contract, .error e⟩] := by
      rw [Transfer.session, bind_eq, answers_of_resolve, hturn]
      rfl
    rw [hasked]
    exact .single _ ⟨.contractAt o.contract, .error e⟩
  · obtain rfl := hfinds o.contract s c (by rw [hturn])
    have hcourse := transferOwnership_course client s' stamp ⟨o.contract⟩ o.currentOwner o.newOwner
      o.fee
    rw [(Transfer.session_of_found stamp json hturn).1]
    exact hcourse.follows.toFollows.cons (x := ⟨.contractAt o.contract, .ok ⟨o.contract⟩⟩) rfl

end Dialogues

/-! ## Carrying out a plan -/

variable {ν α : Type} (network : Url → Node ν) (link : Link ν)

theorem run_of_error {p : Preparation (Plan α)} {e : CommandError} (h : p.result = .error e) :
    run network link p = ⟨.error e, p.outputs, [], link⟩ := by
  rw [run, h]

theorem run_of_node {p : Preparation (Plan α)} {c : Connection}
    {session : Session (Except CommandError α)} (h : p.result = .ok ⟨.node c, session⟩) :
    let o := run network link p
    let r := session.run (Rpc.client (network c.url) c.signers) link
    o.result = r.value ∧ o.asked = r.asked ∧ o.link = r.state := by
  simp only [run, h]
  exact ⟨rfl, rfl, rfl⟩

theorem run_of_memory {p : Preparation (Plan α)} {ledger : Ledger}
    {session : Session (Except CommandError α)} (h : p.result = .ok ⟨.memory ledger, session⟩) :
    let o := run network link p
    let r := session.run Ledger.client ledger
    o.result = r.value ∧ o.asked = r.asked ∧ o.link = link := by
  simp only [run, h]
  exact ⟨rfl, rfl, rfl⟩

theorem outputs_of_memory {p : Preparation (Plan α)} {ledger : Ledger}
    {session : Session (Except CommandError α)} (h : p.result = .ok ⟨.memory ledger, session⟩) :
    (run network link p).outputs = p.outputs ++ (session.run Ledger.client ledger).outputs := by
  simp only [run, h]
  rfl

/-- An outcome of which only the failure matters. -/
def Outcome.forget (o : Outcome ν α) : Outcome ν Unit :=
  ⟨o.result.map fun _ => (), o.outputs, o.asked, o.link⟩

@[simp] theorem link_forget (o : Outcome ν α) : o.forget.link = o.link := rfl

theorem run_plan_forget (p : Plan α) :
    p.forget.run network link = (p.run network link).forget := by
  obtain ⟨partner, session⟩ := p
  simp only [Plan.forget, Plan.run, Outcome.forget]
  cases partner <;> simp [Session.run_bind, Session.run]

theorem run_forget (p : Preparation (Plan α)) :
    run network link (Plan.forget <$> p) = (run network link p).forget := by
  obtain ⟨outputs, e | plan⟩ := p
  · rfl
  · simp only [Preparation.map_eq, run, Except.map, run_plan_forget]
    rfl

end Command

end TwoStep
