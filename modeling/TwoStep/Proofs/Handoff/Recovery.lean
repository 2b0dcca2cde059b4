import TwoStep.Proofs.Handoff.Outcome
import TwoStep.Proofs.Ledger.History

/-!
# A stalled hand-over can be finished

A hand-over that stalls leaves its nominee pending.  The slots then stay as
they are for as long as no submission goes through, whatever else is done to
the ledger (`kept_untouched`), so the nominee is still the one who may accept
when its key is there and no failure is in the way.  Then one acceptance
finishes the hand-over, and the slots are those that the hand-over would have
left had nothing been in its way (`transferOwnership_cleared`).
-/

namespace TwoStep

namespace Ledger

/-! ## What no failed submission changes -/

theorem address_register (a : Address) (l : Ledger) : (l.register a).address = l.address := by
  unfold register
  split <;> rfl

theorem address_submit (l : Ledger) (c : Contract) (call : Call) (o : CallOptions) :
    (l.submit c call o).state.address = l.address := by
  have hsubmitted := submitted l c call o
  generalize (l.submit c call o).reply = reply, (l.submit c call o).state = l' at hsubmitted ⊢
  cases hsubmitted <;> rfl

theorem address_client (l : Ledger) (q : Query) : (client q l).state.address = l.address := by
  cases q with
  | submit c call o => exact address_submit l c call o
  | _ => rfl

theorem address_run {α : Type} (session : Session α) (l : Ledger) :
    (session.run client l).state.address = l.address := by
  have hstep : ∀ past l' q, l'.address = l.address → (client q l').state.address = l.address :=
    fun (_ : List (Moment Ledger)) l' q h => (address_client l' q).trans h
  exact @Session.transcript_invariant _ _ client (fun _ l' => l'.address = l.address) hstep session
    [] l rfl

/-- The ledger of a history is still the same contract, and has the same slots
if no submission went through. -/
def Untouched (l : Ledger) (h : History) : Prop :=
  h.ledger.address = l.address ∧ (applied h.moments = [] → h.ledger.snapshot = l.snapshot)

theorem kept_untouched (l : Ledger) : History.Kept (Untouched l) where
  register := by
    rintro h a ⟨haddress, hslots⟩
    refine ⟨(address_register a h.ledger).trans haddress, fun hnone => ?_⟩
    rw [snapshot_register]
    exact hslots hnone
  failNext := by
    rintro h method e ⟨haddress, hslots⟩
    exact ⟨haddress, hslots⟩
  ask := by
    rintro h q ⟨haddress, hslots⟩
    refine ⟨(address_client h.ledger q).trans haddress, fun hnone => ?_⟩
    simp only [applied_concat, List.append_eq_nil_iff, Option.toList_eq_nil_iff] at hnone
    obtain ⟨hpast, hlast⟩ := hnone
    rcases ask_slots h.ledger q with ⟨-, hs⟩ | ⟨sender, call, t, hsome, -, -⟩
    · rw [hs, hslots hpast]
    · rw [hsome] at hlast
      cases hlast

theorem untouched_of (l : Ledger) (ops : List Operation) : Untouched l (History.of l ops) :=
  (kept_untouched l).of ⟨rfl, fun _ => rfl⟩ ops

/-! ## A ledger with nothing in the way of an acceptance -/

/-- The ledger with the key of a nominee registered, and no failure armed for
acceptances. -/
def cleared (l : Ledger) (nominee : Address) : Ledger :=
  { l.register nominee with
    failures := l.failures.filter (·.1 ≠ Call.acceptOwnership.method) }

theorem mem_signers_register {a b : Address} {l : Ledger} :
    b ∈ (l.register a).signers ↔ b ∈ l.signers ∨ b = a := by
  unfold register
  split
  · rename_i hmem
    constructor
    · exact Or.inl
    · rintro (hb | rfl)
      · exact hb
      · exact hmem
  · simp

end Ledger

namespace Handoff

open Session

variable {l : Ledger} {c : Contract}

theorem nominates_cleared {a b : Address} (h : Nominates l a b) : Nominates (l.cleared b) a b := by
  obtain ⟨hsigner, hfailure, howner, hz⟩ := h
  refine ⟨Ledger.mem_signers_register.mpr (Or.inl hsigner), ?_, ?_, hz⟩
  · exact (Ledger.lookup_filter_of_ne (by decide) l.failures).trans hfailure
  · rw [howner]
    exact (congrArg Snapshot.owner (Ledger.snapshot_register b l)).symm

theorem accepts_cleared (l : Ledger) (a : Address) : Accepts (l.cleared a) a :=
  ⟨Ledger.mem_signers_register.mpr (Or.inr rfl), Ledger.lookup_filter_self _ l.failures⟩

/-- A hand-over whose nomination may go through completes if nothing is in the
way of the acceptance. -/
theorem transferOwnership_cleared (hc : c.address = l.address) (stamp : Stamp)
    {currentOwner newOwner : Signer} (hn : Nominates l currentOwner.address newOwner.address)
    (fee : Fee) :
    let r := (transferOwnership stamp c currentOwner newOwner fee).run Ledger.client
      (l.cleared newOwner.address)
    (∃ report, r.value = .ok report) ∧ r.state.snapshot = ⟨newOwner.address, Address.zero⟩ := by
  have hcleared : c.address = (l.cleared newOwner.address).address :=
    hc.trans (Ledger.address_register newOwner.address l).symm
  have hdecided := (transferOwnership_outcome (l.cleared newOwner.address) stamp c currentOwner
    newOwner fee).decided
  obtain ⟨report, hvalue⟩ := hdecided.succeeds_iff.mpr
    ⟨hcleared, nominates_cleared hn, accepts_cleared l newOwner.address⟩
  obtain ⟨howner, hpending, -, -⟩ := hdecided.success report hvalue
  refine ⟨⟨report, hvalue⟩, ?_⟩
  simp only [Ledger.snapshot, howner, hpending]

/-! ## One acceptance -/

/-- For its own contract's nominee an acceptance is its one submission. -/
theorem run_acceptPending (hc : c.address = l.address) (stamp : Stamp) {newOwner : Signer}
    (hp : l.pendingOwner = newOwner.address) (fee : Fee) :
    let r := (acceptPending stamp c newOwner fee).run Ledger.client l
    let a := l.submit c .acceptOwnership ⟨newOwner, fee⟩
    (r.value, r.state) =
      match a.reply with
      | .error e => (.error (.acceptance newOwner.address none e), a.state)
      | .ok receipt => (.ok receipt, a.state) := by
  dsimp only
  rw [← run_quiet_value, ← run_quiet_state, quiet_acceptPending]
  simp only [acceptQuestions, run_ask_value, run_ask_state, Ledger.client, Ledger.readSlot, hc,
    if_true, hp, ne_eq, not_true, if_false]
  generalize l.submit c .acceptOwnership ⟨newOwner, fee⟩ = a
  rcases a with ⟨e | receipt, l1, -⟩
  · rfl
  · rfl

/-- A nominee with nothing in its way takes over by one call. -/
theorem acceptPending_completes (hc : c.address = l.address) (stamp : Stamp) {newOwner : Signer}
    (hp : l.pendingOwner = newOwner.address) (hz : newOwner.address ≠ Address.zero)
    (ha : Accepts l newOwner.address) (fee : Fee) :
    let r := (acceptPending stamp c newOwner fee).run Ledger.client l
    (∃ receipt, r.value = .ok receipt) ∧
      r.state.calls = l.calls ++ [⟨l.address, .acceptOwnership, newOwner.address, fee⟩] ∧
      r.state.snapshot = ⟨newOwner.address, Address.zero⟩ := by
  have hrun := run_acceptPending hc stamp hp fee
  obtain ⟨hreached, hunarmed, s, happly⟩ := (allows_acceptance_iff newOwner fee hc hp hz).mpr ha
  obtain ⟨⟨receipt, hreply⟩, hslots, hcalls⟩ := Ledger.submit_succeeds hreached hunarmed happly
  obtain ⟨-, -, rfl⟩ := Ledger.apply_acceptOwnership_iff.mp happly
  dsimp only at hrun
  rw [hreply] at hrun
  obtain ⟨hvalue, hstate⟩ := Prod.mk.inj hrun
  dsimp only
  rw [hvalue, hstate]
  refine ⟨⟨receipt, rfl⟩, hcalls, ?_⟩
  rw [hslots]
  exact congrArg (Snapshot.mk · Address.zero) hp

/-! ## Recovery -/

theorem stalled_of_leftPending {stamp : Stamp} {currentOwner newOwner : Signer} {fee : Fee}
    {e : TransferError}
    (h : ((transferOwnership stamp c currentOwner newOwner fee).run Ledger.client l).value =
      .error e) (hpending : e.leftPending = true) :
    c.address = l.address ∧ Nominates l currentOwner.address newOwner.address ∧
      ((transferOwnership stamp c currentOwner newOwner fee).run Ledger.client l).state.snapshot =
        ⟨l.owner, newOwner.address⟩ := by
  have houtcome := transferOwnership_outcome l stamp c currentOwner newOwner fee
  rw [h] at houtcome
  generalize ((transferOwnership stamp c currentOwner newOwner fee).run Ledger.client l).state = l'
    at houtcome ⊢
  cases houtcome with
  | foreign => cases hpending
  | unnominated => cases hpending
  | stalled hc hn ha tx e _ hslots hcalls => exact ⟨hc, hn, hslots⟩

/-- Once a hand-over has stalled, and whatever is done to the ledger without a
submission that goes through, the nominee finishes it by one acceptance as
soon as its key is registered and no failure is armed; the slots end up as if
the hand-over had not been disturbed. -/
theorem stalled_handover_recovers (l : Ledger) (stamp stamp' : Stamp) (c : Contract)
    (currentOwner newOwner : Signer) (fee fee' : Fee) {e : TransferError}
    (hstalled : ((transferOwnership stamp c currentOwner newOwner fee).run Ledger.client l).value =
      .error e) (hpending : e.leftPending = true) (ops : List Ledger.Operation) :
    let h := Ledger.History.of
      ((transferOwnership stamp c currentOwner newOwner fee).run Ledger.client l).state ops
    let accept := (acceptPending stamp' c newOwner fee').run Ledger.client h.ledger
    let undisturbed := (transferOwnership stamp c currentOwner newOwner fee).run Ledger.client
      (l.cleared newOwner.address)
    Ledger.applied h.moments = [] → newOwner.address ∈ h.ledger.signers →
    h.ledger.failures.lookup "acceptOwnership" = none →
    (∃ receipt, accept.value = .ok receipt) ∧
      accept.state.calls =
        h.ledger.calls ++ [⟨c.address, .acceptOwnership, newOwner.address, fee'⟩] ∧
      accept.state.owner = newOwner.address ∧ accept.state.pendingOwner = Address.zero ∧
      (∃ report, undisturbed.value = .ok report) ∧
      accept.state.snapshot = undisturbed.state.snapshot := by
  intro h accept undisturbed hfailed hsigner hunarmed
  obtain ⟨hc, hn, hstate⟩ := stalled_of_leftPending hstalled hpending
  obtain ⟨haddress, hslots⟩ := Ledger.untouched_of
    ((transferOwnership stamp c currentOwner newOwner fee).run Ledger.client l).state ops
  have hsame : h.ledger.address = c.address :=
    haddress.trans ((Ledger.address_run _ l).trans hc.symm)
  have hnominee : h.ledger.pendingOwner = newOwner.address :=
    congrArg Snapshot.pendingOwner ((hslots hfailed).trans hstate)
  obtain ⟨hreceipt, hcalls, htaken⟩ := acceptPending_completes hsame.symm stamp' hnominee
    hn.2.2.2 ⟨hsigner, hunarmed⟩ fee'
  obtain ⟨hreport, hleft⟩ := transferOwnership_cleared hc stamp hn fee
  obtain ⟨howner, hpendingOwner⟩ := Snapshot.mk.inj htaken
  rw [hsame] at hcalls
  exact ⟨hreceipt, hcalls, howner, hpendingOwner, hreport, htaken.trans hleft.symm⟩

/-! The contract at 9 goes from account 1 to account 2, whose key is missing.
Before the key is registered and the acceptance made, account 1 tries to hand
the contract to nobody, account 3 tries to accept, and a first acceptance by
account 2 runs into a failure. -/

def keyless : Ledger where
  address := ⟨9⟩
  owner := ⟨1⟩
  signers := [⟨1⟩, ⟨3⟩]

def epochStamp : Stamp :=
  let epoch : Instant := ⟨1970, 1, 1, 0, 0, 0, 0⟩
  ⟨"", epoch, epoch⟩

def keylessTransfer : Session (Except TransferError Report) :=
  transferOwnership epochStamp ⟨⟨9⟩⟩ ⟨"owner", ⟨1⟩⟩ ⟨"second", ⟨2⟩⟩ Fee.default

def troubles : List Ledger.Operation := [
  .handOver (.transfer epochStamp ⟨⟨9⟩⟩ ⟨"owner", ⟨1⟩⟩ ⟨"nobody", Address.zero⟩ Fee.default),
  .ask (.submit ⟨⟨9⟩⟩ .acceptOwnership ⟨⟨"third", ⟨3⟩⟩, Fee.default⟩),
  .failNext "acceptOwnership" (.transport "connection reset"),
  .register ⟨2⟩,
  .handOver (.accept epochStamp ⟨⟨9⟩⟩ ⟨"second", ⟨2⟩⟩ Fee.default)]

def troubled : Ledger.History :=
  .of (keylessTransfer.run Ledger.client keyless).state troubles

theorem keyless_handover_recovers :
    (∃ e, (keylessTransfer.run Ledger.client keyless).value = .error e ∧ e.leftPending = true) ∧
      Ledger.applied troubled.moments = [] ∧ (⟨2⟩ : Address) ∈ troubled.ledger.signers ∧
      troubled.ledger.failures.lookup "acceptOwnership" = none ∧
      let accept := (acceptPending epochStamp ⟨⟨9⟩⟩ ⟨"second", ⟨2⟩⟩ Fee.default).run Ledger.client
        troubled.ledger
      (∃ receipt, accept.value = .ok receipt) ∧ accept.state.owner = ⟨2⟩ := by
  have hdecided := (transferOwnership_outcome keyless epochStamp ⟨⟨9⟩⟩ ⟨"owner", ⟨1⟩⟩
    ⟨"second", ⟨2⟩⟩ Fee.default).decided
  obtain ⟨a, tx, e, hstalled⟩ := hdecided.stalled_iff.mpr
    ⟨rfl, ⟨by decide, rfl, rfl, by decide⟩, fun ha => absurd ha.1 (by decide)⟩
  have hfailed : Ledger.applied troubled.moments = [] := by decide +kernel
  have hsigner : (⟨2⟩ : Address) ∈ troubled.ledger.signers := by decide +kernel
  have hunarmed : troubled.ledger.failures.lookup "acceptOwnership" = none := by decide +kernel
  have hrecovers := stalled_handover_recovers keyless epochStamp epochStamp ⟨⟨9⟩⟩
    ⟨"owner", ⟨1⟩⟩ ⟨"second", ⟨2⟩⟩ Fee.default Fee.default hstalled rfl troubles hfailed hsigner
    hunarmed
  exact ⟨⟨_, hstalled, rfl⟩, hfailed, hsigner, hunarmed, hrecovers.1, hrecovers.2.2.1⟩

end Handoff

end TwoStep
