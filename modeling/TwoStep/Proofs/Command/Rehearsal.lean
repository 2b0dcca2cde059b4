import TwoStep.Proofs.Command.Course
import TwoStep.Proofs.Handoff.Recovery
import TwoStep.Proofs.Rpc.Requested

/-!
# A dry run previews the real one

A dry run and a real one hold the same dialogue with different partners.  Over any
partner a transfer goes down one plan, with two submissions in it.  The contract
in memory that a dry run makes for itself refuses nothing, if the new owner is
somebody, so there the plan is gone down to its end.  A real run may stop
anywhere, and then what it has submitted is a prefix.

What is submitted to a client over a node does not always get to the node.  But a
submission that is not sent fails, and then nothing else is submitted, so what the
node received is again a prefix (`recorded_of_said`).
-/

namespace TwoStep

/-! ## Submissions on record -/

/-- The submission that a question asks for. -/
def Query.recorded? : Query → Option RecordedCall
  | .submit contract call options =>
    some ⟨contract.address, call, options.sender.address, options.fee⟩
  | _ => none

/-- The submission that a transaction is read as. -/
def Transaction.recorded? (t : Transaction) : Option RecordedCall := do
  let call ← Call.ofData? t.data
  let fee ← Fee.ofWei? t.tip
  return ⟨t.destination, call, t.sender, fee⟩

theorem Fee.ofWei?_wei (f : Fee) : ofWei? f.wei = some f :=
  dif_pos f.fits

namespace Rpc

variable {signers : List Address}

theorem Carries.recorded {contract : Contract} {call : Call} {options : CallOptions}
    {t : Transaction} (h : Carries signers contract call options t) :
    t.recorded? = (Query.submit contract call options).recorded? := by
  rw [Transaction.recorded?, h.data, h.tip, Call.ofData?_data, Fee.ofWei?_wei, h.destination,
    h.sender]
  rfl

/-- At a question that does not fail, what is sent is what is asked for; at one
that fails, it may be missing. -/
theorem Said.recorded {x : Answer} {xs : List Exchange} (h : Said signers x xs) :
    (xs.filterMap Exchange.sent?).map Transaction.recorded? = x.1.recorded?.toList.map some ∨
      x.error? ≠ none ∧ xs.filterMap Exchange.sent? = [] := by
  obtain ⟨q, reply⟩ := x
  have hinquiries (hxs : ∀ x ∈ xs, x.isInquiry) :
      (xs.filterMap Exchange.sent?).map Transaction.recorded? = [] := by
    rw [Handoff.sent_of_inquiries hxs, List.map_nil]
  cases q with
  | contractAt a => exact .inl (hinquiries (And.left h))
  | owner c => exact .inl (hinquiries (ReadCourse.inquires h))
  | pendingOwner c => exact .inl (hinquiries (ReadCourse.inquires h))
  | submit c call options =>
      have hsent {t : Transaction} (ht : Carries signers c call options t)
          (hxs : xs.filterMap Exchange.sent? = [t]) :
          (xs.filterMap Exchange.sent?).map Transaction.recorded? =
            (Query.submit c call options).recorded?.toList.map some := by
        rw [hxs, List.map_singleton, ht.recorded]
        rfl
      cases reply with
      | ok receipt =>
          obtain ⟨t, ht, hxs⟩ := Handoff.sent_of_success h
          exact .inl (hsent ht hxs)
      | error e =>
          obtain hnone | ⟨t, ht, hxs⟩ := Handoff.sent_of_submission h
          · exact .inr ⟨by simp [Answer.error?], hnone⟩
          · exact .inl (hsent ht hxs)

/-- Of what is asked for, a prefix is sent, if nothing is asked after a failure. -/
theorem recorded_of_said {answers : List Answer} {pieces : List (List Exchange)}
    (hsaid : List.Forall₂ (Said signers) answers pieces)
    (hunfailing : ∀ x ∈ answers.dropLast, x.error? = none) :
    ∃ calls, calls <+: (answers.map Sigma.fst).filterMap Query.recorded? ∧
      (pieces.flatten.filterMap Exchange.sent?).map Transaction.recorded? = calls.map some := by
  -- question by question; one at which something is missing is the last
  induction hsaid with
  | nil => exact ⟨[], List.nil_prefix, rfl⟩
  | @cons x xs answers pieces hx hsaid ih =>
      have hcalls : ((x :: answers).map Sigma.fst).filterMap Query.recorded? =
          x.1.recorded?.toList ++ (answers.map Sigma.fst).filterMap Query.recorded? := by
        rw [List.map_cons, List.filterMap_cons]
        cases x.1.recorded? <;> rfl
      rw [hcalls, List.flatten_cons, List.filterMap_append, List.map_append]
      obtain hsent | ⟨herror, hnone⟩ := hx.recorded
      · have hrest : ∀ y ∈ answers.dropLast, y.error? = none := by
          intro y hy
          cases answers with
          | nil => cases hy
          | cons z answers => exact hunfailing y (List.mem_cons_of_mem x hy)
        obtain ⟨calls, hprefix, hmap⟩ := ih hrest
        refine ⟨x.1.recorded?.toList ++ calls, (List.prefix_append_right_inj _).mpr hprefix, ?_⟩
        rw [hsent, hmap, List.map_append]
      · cases answers with
        | nil =>
            cases hsaid
            exact ⟨[], List.nil_prefix, by rw [hnone]; rfl⟩
        | cons z answers => exact absurd (hunfailing x List.mem_cons_self) herror

end Rpc

namespace Command

open Handoff Session

/-- The nomination of the new owner and its acceptance. -/
def handoverCalls (contract : Address) (fee : Fee) (current new : Address) : List RecordedCall :=
  [⟨contract, .setPendingOwner new, current, fee⟩, ⟨contract, .acceptOwnership, new, fee⟩]

/-! ## The contract of a dry run -/

section Rehearsal

variable (contract : Address) (currentOwner newOwner : Signer)

theorem address_rehearsal : (rehearsal contract currentOwner newOwner).address = contract := by
  rw [rehearsal, Ledger.address_register, Ledger.address_register]
  rfl

/-- It is found at its address. -/
theorem found_rehearsal :
    let ledger := rehearsal contract currentOwner newOwner
    Ledger.client (.contractAt contract) ledger = ⟨.ok ⟨contract⟩, ledger, []⟩ := by
  simp only [Ledger.client, address_rehearsal, if_true]

theorem failures_rehearsal : (rehearsal contract currentOwner newOwner).failures = [] := by
  rw [rehearsal, Ledger.register, Ledger.register]
  split <;> split <;> rfl

/-- It takes the nomination of anybody, from the current owner. -/
theorem nominates_rehearsal (hz : newOwner.address ≠ Address.zero) :
    Nominates (rehearsal contract currentOwner newOwner) currentOwner.address newOwner.address := by
  have hslots : (rehearsal contract currentOwner newOwner).snapshot =
      ⟨currentOwner.address, Address.zero⟩ := by
    rw [rehearsal, Ledger.snapshot_register, Ledger.snapshot_register]
    rfl
  refine ⟨?_, ?_, (congrArg Snapshot.owner hslots).symm, hz⟩
  · simp [rehearsal, Ledger.mem_signers_register]
  · rw [failures_rehearsal, List.lookup_nil]

theorem accepts_rehearsal :
    Accepts (rehearsal contract currentOwner newOwner) newOwner.address := by
  refine ⟨?_, ?_⟩
  · simp [rehearsal, Ledger.mem_signers_register]
  · rw [failures_rehearsal, List.lookup_nil]

end Rehearsal

/-- A dry run goes down its plan to the end, and succeeds. -/
theorem Transfer.rehearse (stamp : Stamp) (json : Bool) (contract : Address) (fee : Fee)
    (currentOwner newOwner : Signer) (partner : Partner) (hz : newOwner.address ≠ Address.zero) :
    let run :=
      (Transfer.session stamp json ⟨contract, fee, currentOwner, newOwner, partner⟩).run
        Ledger.client (rehearsal contract currentOwner newOwner)
    (∃ report, run.value = .ok report) ∧
      run.asked.filterMap Query.recorded? =
        handoverCalls contract fee currentOwner.address newOwner.address := by
  intro run
  let ledger := rehearsal contract currentOwner newOwner
  have haddress : ledger.address = contract := address_rehearsal contract currentOwner newOwner
  obtain ⟨hanswers, hvalue⟩ := Transfer.session_of_found stamp json
    (o := ⟨contract, fee, currentOwner, newOwner, partner⟩)
    (found_rehearsal contract currentOwner newOwner)
  have hcourse := (transferOwnership_course Ledger.client ledger stamp ⟨contract⟩ currentOwner
    newOwner fee).follows
  have hdecided := (transferOwnership_outcome ledger stamp ⟨contract⟩ currentOwner newOwner
    fee).decided
  obtain ⟨report, hreport⟩ := hdecided.succeeds_iff.mpr
    ⟨haddress.symm, nominates_rehearsal contract currentOwner newOwner hz,
      accepts_rehearsal contract currentOwner newOwner⟩
  obtain ⟨hlength, -⟩ := hcourse.succeeds.mp ⟨report, hreport⟩
  have hplan := hcourse.asked.eq_of_length (by rw [List.length_map, hlength])
  refine ⟨⟨report, ?_⟩, ?_⟩
  · rw [hvalue, hreport]
    rfl
  · rw [← map_fst_answers, hanswers, List.map_cons, hplan]
    rfl

/-! ## A run over a node -/

/-- Over a node the same is submitted, as far as the run gets, and of that a
prefix is sent. -/
theorem Transfer.submit {ν : Type} (node : Node ν) (signers : List Address) (link : Link ν)
    (stamp : Stamp) (json : Bool) (o : Transfer.Order) :
    let run := (Transfer.session stamp json o).run (Rpc.client node signers) link
    run.asked.filterMap Query.recorded? <+:
        handoverCalls o.contract o.fee o.currentOwner.address o.newOwner.address ∧
      ∃ calls, calls <+: run.asked.filterMap Query.recorded? ∧
        ((link.since run.state).filterMap Exchange.sent?).map Transaction.recorded? =
          calls.map some := by
  intro run
  have hfollows := Transfer.session_follows (Rpc.finds node signers) link stamp json o
  obtain ⟨pieces, hsaid, hsince⟩ :=
    Rpc.said_of_run node signers (Transfer.session stamp json o) link
  obtain ⟨calls, hcalls, hsent⟩ := Rpc.recorded_of_said hsaid hfollows.unfailing
  have hasked := hfollows.asked
  rw [map_fst_answers] at hcalls hasked
  refine ⟨hasked.filterMap Query.recorded?, calls, hcalls, ?_⟩
  rw [hsince]
  exact hsent

/-! ## Both runs -/

theorem Transfer.Inputs.unique {s : Settings} {env : Environment}
    {contractFlag feeFlag : Option String} {contract contract' : Address} {fee fee' : Fee}
    {current current' new new' : PrivateKey}
    (h : Transfer.Inputs s env contractFlag feeFlag contract fee current new)
    (h' : Transfer.Inputs s env contractFlag feeFlag contract' fee' current' new') :
    contract = contract' ∧ fee = fee' ∧ current = current' ∧ new = new' :=
  ⟨Except.ok.inj (h.contract.symm.trans h'.contract), Except.ok.inj (h.fee.symm.trans h'.fee),
    Option.some.inj (h.current.symm.trans h'.current), Option.some.inj (h.new.symm.trans h'.new)⟩

/-- The submissions of a command, whether they got to the contract or not. -/
def Outcome.submissions {ν α : Type} (o : Outcome ν α) : List RecordedCall :=
  o.asked.filterMap Query.recorded?

section Runs

variable {ν : Type} (network : Url → Node ν) (link : Link ν) (s : Settings) (env : Environment)
  (stamp : Stamp) (o : TransferOptions)

/-- A dry run stops for want of an input, or goes all the way. -/
theorem Transfer.dry_run
    (hkeys : ∀ key, Keyring.keyIn? env s.newOwnerKeyVar = some key → key.address ≠ Address.zero) :
    let dry := run network link (Transfer.plan s env stamp { o with dryRun := true })
    dry.link = link ∧
      ((∀ contract fee current new,
          ¬Transfer.Inputs s env o.contract o.fee contract fee current new) ∧
          (∃ e, dry.result = .error e) ∧ dry.submissions = [] ∨
        ∃ contract fee current new,
          Transfer.Inputs s env o.contract o.fee contract fee current new ∧
          (∃ report, dry.result = .ok report) ∧
          dry.submissions = handoverCalls contract fee current.address new.address) := by
  intro dry
  cases hplan : (Transfer.plan s env stamp { o with dryRun := true }).result with
  | error e =>
      have hdry : dry = ⟨.error e, _, [], link⟩ := run_of_error network link hplan
      rw [hdry]
      refine ⟨rfl, .inl ⟨fun contract fee current new hin => ?_, ⟨e, rfl⟩, rfl⟩⟩
      -- without an endpoint to connect to, nothing but an input can be missing
      have horder : (Transfer.order s env { o with dryRun := true }).result = .ok _ :=
        Transfer.order_eq_ok_iff.mpr ⟨contract, fee, current, new, _, hin, .rehearsal, rfl⟩
      cases hplan.symm.trans (Transfer.plan_eq_ok_iff.mpr ⟨_, horder, rfl⟩)
  | ok plan =>
      obtain ⟨order, horder, rfl⟩ := Transfer.plan_eq_ok_iff.mp hplan
      obtain ⟨contract, fee, current, new, partner, hin, hfaces, rfl⟩ :=
        Transfer.order_eq_ok_iff.mp horder
      cases hfaces with
      | rehearsal =>
          obtain ⟨hresult, hasked, hlink⟩ := run_of_memory network link hplan
          obtain ⟨hvalue, hsubmissions⟩ := Transfer.rehearse stamp o.json contract fee
            (currentSigner current) (newSigner new)
            (.memory (rehearsal contract (currentSigner current) (newSigner new)))
            (hkeys new hin.new)
          refine ⟨hlink, .inr ⟨contract, fee, current, new, hin, ?_, ?_⟩⟩
          · rw [hresult]
            exact hvalue
          · rw [Outcome.submissions, hasked]
            exact hsubmissions

/-- A real run gets as far as it gets: it stops for want of an input or a
connection, or submits a prefix of the hand-over. -/
theorem Transfer.real_run :
    let real := run network link (Transfer.plan s env stamp { o with dryRun := false })
    (∃ calls, calls <+: real.submissions ∧
      ((link.since real.link).filterMap Exchange.sent?).map Transaction.recorded? =
        calls.map some) ∧
      (real.submissions = [] ∨ ∃ contract fee current new,
        Transfer.Inputs s env o.contract o.fee contract fee current new ∧
        real.submissions <+: handoverCalls contract fee current.address new.address) := by
  intro real
  cases hplan : (Transfer.plan s env stamp { o with dryRun := false }).result with
  | error e =>
      have hreal : real = ⟨.error e, _, [], link⟩ := run_of_error network link hplan
      have hsince : link.since link = [] := List.drop_length
      rw [hreal]
      refine ⟨⟨[], List.prefix_rfl, ?_⟩, .inl rfl⟩
      rw [hsince]
      rfl
  | ok plan =>
      obtain ⟨order, horder, rfl⟩ := Transfer.plan_eq_ok_iff.mp hplan
      obtain ⟨contract, fee, current, new, partner, hin, hfaces, rfl⟩ :=
        Transfer.order_eq_ok_iff.mp horder
      cases hfaces with
      | node c hc =>
          obtain ⟨-, hasked, hlink⟩ := run_of_node network link hplan
          obtain ⟨hsubmissions, hsent⟩ := Transfer.submit (network c.url) c.signers link stamp
            o.json ⟨contract, fee, currentSigner current, newSigner new, .node c⟩
          rw [Outcome.submissions, hasked, hlink]
          exact ⟨hsent, .inr ⟨contract, fee, current, new, hin, hsubmissions⟩⟩

end Runs

/-- A dry run from one link shows what a real run from another can do at most. -/
structure Previews {ν ν' : Type} (s : Settings) (env : Environment) (o : TransferOptions)
    (link : Link ν) (real : Outcome ν Unit) (link' : Link ν') (dry : Outcome ν' Unit) : Prop where
  submitted : real.submissions <+: dry.submissions
  /-- What the node was sent is a prefix as well. -/
  sent : ∃ calls, calls <+: real.submissions ∧
    ((link.since real.link).filterMap Exchange.sent?).map Transaction.recorded? = calls.map some
  /-- Without its inputs a dry run stops before it submits anything; with them it
  submits the whole hand-over and succeeds. -/
  rehearsed :
    (∀ contract fee current new,
        ¬Transfer.Inputs s env o.contract o.fee contract fee current new) ∧
        (∃ e, dry.result = .error e) ∧ dry.submissions = [] ∨
      ∃ contract fee current new,
        Transfer.Inputs s env o.contract o.fee contract fee current new ∧
          dry.result = .ok () ∧
          dry.submissions = handoverCalls contract fee current.address new.address
  unsent : dry.link = link'

/-- If the new owner's key is that of an account that can own anything, a dry run
shows all that the real command can submit: the same calls, in the same order, of
which a real run may leave out the last ones, whatever its node answers.  And the
dry run itself leaves every node alone. -/
theorem dry_run_previews_transfer {ν ν' : Type} (network : Url → Node ν) (link : Link ν)
    (network' : Url → Node ν') (link' : Link ν') (s : Settings) (env : Environment)
    (stamp stamp' : Stamp) (o : TransferOptions)
    (hkeys : ∀ key, Keyring.keyIn? env s.newOwnerKeyVar = some key → key.address ≠ Address.zero) :
    Previews s env o
      link (run network link (Dialogue.plan s env stamp (.transfer { o with dryRun := false })))
      link' (run network' link'
        (Dialogue.plan s env stamp' (.transfer { o with dryRun := true }))) := by
  obtain ⟨hsent, hreal⟩ := Transfer.real_run network link s env stamp o
  obtain ⟨hunsent, hdry⟩ := Transfer.dry_run network' link' s env stamp' o hkeys
  simp only [Dialogue.plan, run_forget]
  generalize run network link _ = real at *
  generalize run network' link' _ = dry at *
  refine ⟨?_, hsent, ?_, hunsent⟩
  · change real.submissions <+: dry.submissions
    obtain hnone | ⟨contract, fee, current, new, hin, hprefix⟩ := hreal
    · rw [hnone]
      exact List.nil_prefix
    obtain ⟨hmissing, -⟩ | ⟨contract', fee', current', new', hin', -, hcalls⟩ := hdry
    · exact absurd hin (hmissing contract fee current new)
    · obtain ⟨rfl, rfl, rfl, rfl⟩ := hin.unique hin'
      rw [hcalls]
      exact hprefix
  · obtain ⟨hmissing, ⟨e, he⟩, hnone⟩ | ⟨contract, fee, current, new, hin, ⟨report, hr⟩, hcalls⟩ :=
      hdry
    · exact .inl ⟨hmissing, ⟨e, congrArg (Except.map _) he⟩, hnone⟩
    · exact .inr ⟨contract, fee, current, new, hin, congrArg (Except.map _) hr, hcalls⟩

/-! One key serves as both owners' in the smallest environment for a transfer. -/

def soleEnvironment : Environment :=
  ["CURRENT_OWNER_PRIVATE_KEY", "NEW_OWNER_PRIVATE_KEY"].map fun name =>
    (name, "0000000000000000000000000000000000000000000000000000000000000001")

theorem keyIn?_soleEnvironment :
    Keyring.keyIn? soleEnvironment "NEW_OWNER_PRIVATE_KEY" = some Rpc.soleKey := by
  decide +kernel

theorem address_soleKey_ne_zero : Rpc.soleKey.address ≠ Address.zero := by
  decide +kernel

theorem sole_inputs :
    ∃ contract fee current new,
      Transfer.Inputs {} soleEnvironment none none contract fee current new :=
  ⟨_, _, Rpc.soleKey, Rpc.soleKey, rfl, rfl, by decide +kernel, keyIn?_soleEnvironment⟩

theorem sole_transfer_is_previewed :
    (∀ key, Keyring.keyIn? soleEnvironment "NEW_OWNER_PRIVATE_KEY" = some key →
      key.address ≠ Address.zero) ∧
    let stamp : Stamp := ⟨"", ⟨1970, 1, 1, 0, 0, 0, 0⟩, ⟨1970, 1, 1, 0, 0, 0, 0⟩⟩
    let link : Link Unit := { node := () }
    let command (dryRun : Bool) := run Node.silent link
      (Dialogue.plan {} soleEnvironment stamp (.transfer { dryRun }))
    Previews {} soleEnvironment {} link (command false) link (command true) ∧
      (command true).submissions.length = 2 := by
  have hkeys (key : PrivateKey)
      (h : Keyring.keyIn? soleEnvironment "NEW_OWNER_PRIVATE_KEY" = some key) :
      key.address ≠ Address.zero := by
    obtain rfl := Option.some.inj (keyIn?_soleEnvironment.symm.trans h)
    exact address_soleKey_ne_zero
  refine ⟨hkeys, ?_⟩
  intro stamp link command
  have hpreviews := dry_run_previews_transfer Node.silent link Node.silent link {} soleEnvironment
    stamp stamp {} hkeys
  refine ⟨hpreviews, ?_⟩
  obtain ⟨hmissing, -⟩ | ⟨contract, fee, current, new, -, -, hcalls⟩ := hpreviews.rehearsed
  · obtain ⟨contract, fee, current, new, hin⟩ := sole_inputs
    exact absurd hin (hmissing contract fee current new)
  · change (Outcome.submissions (run Node.silent link _)).length = 2
    rw [hcalls]
    rfl

end Command

end TwoStep
