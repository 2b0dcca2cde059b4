import TwoStep.Proofs.Handoff.Course
import TwoStep.Proofs.Ledger.Submission

/-!
# What a hand-over makes of a ledger

Over a ledger nothing is left open: from the ledger before it, a whole
hand-over that nobody interrupts is decided by the contract it names, by
whether the nomination may go through (`Nominates`), and then by whether the
nominee's acceptance may (`Accepts`).  `TransferOutcome` is the table, one
constructor a row; `transferOwnership_outcome` says that every run is the row
its conditions name.
-/

namespace TwoStep.Handoff

open Session

/-! ## Conditions -/

/-- One account can nominate another: its key is registered, no failure is
armed, it is the owner, and the other is somebody. -/
def Nominates (l : Ledger) (currentOwner newOwner : Address) : Prop :=
  currentOwner ∈ l.signers ∧ l.failures.lookup "setPendingOwner" = none ∧
    currentOwner = l.owner ∧ newOwner ≠ Address.zero

/-- A nominee can accept: its key is registered, and no failure is armed. -/
def Accepts (l : Ledger) (newOwner : Address) : Prop :=
  newOwner ∈ l.signers ∧ l.failures.lookup "acceptOwnership" = none

/-- The nomination of a hand-over as the contract records it. -/
def nominationEntry (l : Ledger) (currentOwner newOwner : Signer) (fee : Fee) : RecordedCall :=
  l.entry (.setPendingOwner newOwner.address) ⟨currentOwner, fee⟩

/-- The acceptance of a hand-over as the contract records it. -/
def acceptanceEntry (l : Ledger) (newOwner : Signer) (fee : Fee) : RecordedCall :=
  l.entry .acceptOwnership ⟨newOwner, fee⟩

/-- The ledger once a nomination went through. -/
def afterNomination (l : Ledger) (currentOwner newOwner : Signer) (fee : Fee) : Ledger :=
  { l with
    pendingOwner := newOwner.address
    calls := l.calls ++ [nominationEntry l currentOwner newOwner fee]
    block := l.block + 1 }

section Submissions

variable {l : Ledger} {c : Contract} (currentOwner newOwner : Signer) (fee : Fee)

theorem allows_nomination_iff (hc : c.address = l.address) :
    l.Allows c (.setPendingOwner newOwner.address) ⟨currentOwner, fee⟩ ↔
      Nominates l currentOwner.address newOwner.address := by
  simp [Ledger.Allows, Ledger.Reached, Nominates, Call.method, Ledger.apply_setPendingOwner_iff,
    Ledger.snapshot, hc]

theorem allows_acceptance_iff (hc : c.address = l.address)
    (hp : l.pendingOwner = newOwner.address) (hz : newOwner.address ≠ Address.zero) :
    l.Allows c .acceptOwnership ⟨newOwner, fee⟩ ↔ Accepts l newOwner.address := by
  simp [Ledger.Allows, Ledger.Reached, Accepts, Call.method, Ledger.apply_acceptOwnership_iff,
    Ledger.snapshot, hc, hp, hz]

theorem submit_nomination (hc : c.address = l.address)
    (hn : Nominates l currentOwner.address newOwner.address) :
    (∃ r, (l.submit c (.setPendingOwner newOwner.address) ⟨currentOwner, fee⟩).reply = .ok r) ∧
      (l.submit c (.setPendingOwner newOwner.address) ⟨currentOwner, fee⟩).state =
        afterNomination l currentOwner newOwner fee := by
  obtain ⟨hsigner, hfailure, howner, hz⟩ := hn
  have happly : Ledger.apply currentOwner.address (.setPendingOwner newOwner.address) l.snapshot =
      .ok ⟨l.owner, newOwner.address⟩ :=
    Ledger.apply_setPendingOwner_iff.mpr ⟨howner, hz, rfl⟩
  have hreached : l.Reached c ⟨currentOwner, fee⟩ := ⟨hc, hsigner⟩
  have hunarmed : l.failures.lookup (Call.setPendingOwner newOwner.address).method = none :=
    hfailure
  obtain ⟨hreply, hstate⟩ := Ledger.submit_applied hreached hunarmed happly
  exact ⟨⟨_, hreply⟩, hstate⟩

end Submissions

/-! ## A run, submission by submission -/

section Run

variable {l : Ledger} {c : Contract} (stamp : Stamp) (currentOwner newOwner : Signer) (fee : Fee)

theorem run_transferOwnership_foreign (hc : c.address ≠ l.address) :
    ((transferOwnership stamp c currentOwner newOwner fee).run Ledger.client l).value =
        .error (.snapshot c.address (.noCode c.address)) ∧
      ((transferOwnership stamp c currentOwner newOwner fee).run Ledger.client l).state = l := by
  rw [← run_quiet_value, ← run_quiet_state, quiet_transferOwnership]
  simp [transferQuestions, Ledger.client, Ledger.readSlot, hc]

/-- On its own contract a hand-over is its two submissions; the readings in
front of them only find the owner. -/
theorem run_transferOwnership (hc : c.address = l.address) :
    let r := (transferOwnership stamp c currentOwner newOwner fee).run Ledger.client l
    let n := l.submit c (.setPendingOwner newOwner.address) ⟨currentOwner, fee⟩
    let a := n.state.submit c .acceptOwnership ⟨newOwner, fee⟩
    (r.value, r.state) =
      match n.reply with
      | .error e => (.error (.nomination newOwner.address e), n.state)
      | .ok nomination =>
        match a.reply with
        | .error e =>
          (.error (.acceptance newOwner.address (some nomination.txHash) e), a.state)
        | .ok acceptance =>
          (.ok ⟨stamp.correlationId, c.address, l.owner, newOwner.address, fee, nomination,
            acceptance, .accepted, stamp.startedAt, stamp.finishedAt⟩, a.state) := by
  dsimp only
  rw [← run_quiet_value, ← run_quiet_state, quiet_transferOwnership]
  simp only [transferQuestions, run_ask_value, run_ask_state, Ledger.client, Ledger.readSlot, hc,
    if_true]
  generalize l.submit c (.setPendingOwner newOwner.address) ⟨currentOwner, fee⟩ = n
  rcases n with ⟨e | nomination, l1, -⟩
  · rfl
  simp only [run_ask_value, run_ask_state, Ledger.client]
  generalize l1.submit c .acceptOwnership ⟨newOwner, fee⟩ = a
  rcases a with ⟨e | acceptance, l2, -⟩
  · rfl
  · rfl

end Run

/-! ## The table -/

/-- What a hand-over returns, and the ledger it leaves, by the conditions it
meets. -/
inductive TransferOutcome (l : Ledger) (c : Contract) (currentOwner newOwner : Signer)
    (fee : Fee) : Except TransferError Report → Ledger → Prop where
  | foreign (hc : c.address ≠ l.address) (e : ClientError) :
      TransferOutcome l c currentOwner newOwner fee (.error (.snapshot c.address e)) l
  | unnominated (hc : c.address = l.address)
      (hn : ¬Nominates l currentOwner.address newOwner.address) (e : ClientError) (l' : Ledger)
      (hslots : l'.snapshot = l.snapshot)
      (hcalls : l'.calls = l.calls ++ if currentOwner.address ∈ l.signers then
        [nominationEntry l currentOwner newOwner fee] else []) :
      TransferOutcome l c currentOwner newOwner fee
        (.error (.nomination newOwner.address e)) l'
  | stalled (hc : c.address = l.address)
      (hn : Nominates l currentOwner.address newOwner.address)
      (ha : ¬Accepts l newOwner.address) (tx : TxHash) (e : ClientError) (l' : Ledger)
      (hslots : l'.snapshot = ⟨l.owner, newOwner.address⟩)
      (hcalls : l'.calls = l.calls ++ nominationEntry l currentOwner newOwner fee ::
        if newOwner.address ∈ l.signers then [acceptanceEntry l newOwner fee] else []) :
      TransferOutcome l c currentOwner newOwner fee
        (.error (.acceptance newOwner.address (some tx) e)) l'
  | completed (hc : c.address = l.address)
      (hn : Nominates l currentOwner.address newOwner.address)
      (ha : Accepts l newOwner.address) (r : Report) (l' : Ledger)
      (hprevious : r.previousOwner = currentOwner.address)
      (hslots : l'.snapshot = ⟨newOwner.address, Address.zero⟩)
      (hcalls : l'.calls = l.calls ++
        [nominationEntry l currentOwner newOwner fee, acceptanceEntry l newOwner fee]) :
      TransferOutcome l c currentOwner newOwner fee (.ok r) l'

/-- A hand-over over a ledger is the row of the table that its conditions
name. -/
theorem transferOwnership_outcome (l : Ledger) (stamp : Stamp) (c : Contract)
    (currentOwner newOwner : Signer) (fee : Fee) :
    TransferOutcome l c currentOwner newOwner fee
      ((transferOwnership stamp c currentOwner newOwner fee).run Ledger.client l).value
      ((transferOwnership stamp c currentOwner newOwner fee).run Ledger.client l).state := by
  by_cases hc : c.address = l.address
  case neg =>
    obtain ⟨hvalue, hstate⟩ := run_transferOwnership_foreign stamp currentOwner newOwner fee hc
    rw [hvalue, hstate]
    exact .foreign hc _
  have hrun := run_transferOwnership stamp currentOwner newOwner fee hc
  dsimp only at hrun
  by_cases hn : Nominates l currentOwner.address newOwner.address
  case neg =>
    obtain ⟨⟨e, hreply⟩, hslots, hcalls⟩ :=
      Ledger.submit_fails (mt (allows_nomination_iff currentOwner newOwner fee hc).mp hn)
    rw [hreply] at hrun
    obtain ⟨hvalue, hstate⟩ := Prod.mk.inj hrun
    rw [hvalue, hstate]
    refine .unnominated hc hn e _ hslots ?_
    simpa [Ledger.Reached, hc, nominationEntry] using hcalls
  obtain ⟨⟨x, hreply⟩, hnominated⟩ := submit_nomination currentOwner newOwner fee hc hn
  rw [hreply, hnominated] at hrun
  have hallows : (afterNomination l currentOwner newOwner fee).Allows c .acceptOwnership
      ⟨newOwner, fee⟩ ↔ Accepts l newOwner.address :=
    allows_acceptance_iff newOwner fee hc rfl hn.2.2.2
  by_cases ha : Accepts l newOwner.address
  case neg =>
    obtain ⟨⟨e, hreply⟩, hslots, hcalls⟩ := Ledger.submit_fails (mt hallows.mp ha)
    rw [hreply] at hrun
    obtain ⟨hvalue, hstate⟩ := Prod.mk.inj hrun
    rw [hvalue, hstate]
    refine .stalled hc hn ha _ e _ hslots ?_
    simpa [Ledger.Reached, hc, afterNomination, acceptanceEntry, Ledger.entry] using hcalls
  · obtain ⟨hr, hf, t, happly⟩ := hallows.mpr ha
    obtain ⟨⟨y, hreply⟩, hslots, hcalls⟩ := Ledger.submit_succeeds hr hf happly
    obtain ⟨-, -, rfl⟩ := Ledger.apply_acceptOwnership_iff.mp happly
    rw [hreply] at hrun
    obtain ⟨hvalue, hstate⟩ := Prod.mk.inj hrun
    rw [hvalue, hstate]
    refine .completed hc hn ha _ _ hn.2.2.1.symm hslots ?_
    simpa [afterNomination, acceptanceEntry, Ledger.entry] using hcalls

/-! ## The table, read both ways -/

/-- Which result a hand-over has exactly when, and what it leaves behind. -/
structure TransferDecided (l : Ledger) (c : Contract) (currentOwner newOwner : Signer)
    (fee : Fee) (result : Except TransferError Report) (l' : Ledger) : Prop where
  succeeds_iff : (∃ r, result = .ok r) ↔
    c.address = l.address ∧ Nominates l currentOwner.address newOwner.address ∧
      Accepts l newOwner.address
  /-- Success moves the owner, clears the pending owner and records both calls. -/
  success : ∀ r, result = .ok r →
    l'.owner = newOwner.address ∧ l'.pendingOwner = Address.zero ∧
      l'.calls = l.calls ++
        [⟨l.address, .setPendingOwner newOwner.address, currentOwner.address, fee⟩,
          ⟨l.address, .acceptOwnership, newOwner.address, fee⟩] ∧
      r.previousOwner = currentOwner.address
  unread_iff : (∃ a e, result = .error (.snapshot a e)) ↔ c.address ≠ l.address
  /-- A contract that is not there is not touched. -/
  unread : ∀ a e, result = .error (.snapshot a e) → l' = l
  unnominated_iff : (∃ a e, result = .error (.nomination a e)) ↔
    c.address = l.address ∧ ¬Nominates l currentOwner.address newOwner.address
  /-- A failed nomination leaves the slots alone, and nothing was accepted. -/
  unnominated : ∀ a e, result = .error (.nomination a e) →
    (TransferError.nomination a e).leftPending = false ∧
      l'.owner = l.owner ∧ l'.pendingOwner = l.pendingOwner ∧
      ∃ added, l'.calls = l.calls ++ added ∧ ∀ x ∈ added, x.call ≠ .acceptOwnership
  stalled_iff : (∃ a tx e, result = .error (.acceptance a tx e)) ↔
    c.address = l.address ∧ Nominates l currentOwner.address newOwner.address ∧
      ¬Accepts l newOwner.address
  /-- A failed acceptance leaves the nominee pending under the old owner. -/
  stalled : ∀ a tx e, result = .error (.acceptance a tx e) →
    (TransferError.acceptance a tx e).leftPending = true ∧
      l'.owner = l.owner ∧ l'.pendingOwner = newOwner.address ∧
      l'.calls = l.calls ++
        ⟨l.address, .setPendingOwner newOwner.address, currentOwner.address, fee⟩ ::
          if newOwner.address ∈ l.signers then
            [⟨l.address, .acceptOwnership, newOwner.address, fee⟩] else []

theorem TransferOutcome.decided {l l' : Ledger} {c : Contract} {currentOwner newOwner : Signer}
    {fee : Fee} {result : Except TransferError Report}
    (h : TransferOutcome l c currentOwner newOwner fee result l') :
    TransferDecided l c currentOwner newOwner fee result l' where
  succeeds_iff := by cases h <;> simp [*]
  success := by
    cases h with
    | completed hc hn ha r _ hprevious hslots hcalls =>
        obtain ⟨howner, hpending⟩ := Snapshot.mk.inj hslots
        rintro r' hr
        obtain rfl := Except.ok.inj hr
        exact ⟨howner, hpending, hcalls, hprevious⟩
    | _ => simp
  unread_iff := by cases h <;> simp [*]
  unread := by cases h <;> simp
  unnominated_iff := by cases h <;> simp [*]
  unnominated := by
    cases h with
    | unnominated hc hn e _ hslots hcalls =>
        obtain ⟨howner, hpending⟩ := Snapshot.mk.inj hslots
        rintro a e -
        refine ⟨rfl, howner, hpending, _, hcalls, ?_⟩
        split <;> simp [nominationEntry, Ledger.entry]
    | _ => simp
  stalled_iff := by cases h <;> simp [*]
  stalled := by
    cases h with
    | stalled hc hn ha tx e _ hslots hcalls =>
        obtain ⟨howner, hpending⟩ := Snapshot.mk.inj hslots
        rintro a tx e -
        exact ⟨rfl, howner, hpending, hcalls⟩
    | _ => simp

/-- A hand-over over any ledger that nobody interrupts is decided by the
ledger before it. -/
theorem transferOwnership_decided (l : Ledger) (stamp : Stamp) (c : Contract)
    (currentOwner newOwner : Signer) (fee : Fee) :
    let run := (transferOwnership stamp c currentOwner newOwner fee).run Ledger.client l
    TransferDecided l c currentOwner newOwner fee run.value run.state :=
  (transferOwnership_outcome l stamp c currentOwner newOwner fee).decided

end TwoStep.Handoff
