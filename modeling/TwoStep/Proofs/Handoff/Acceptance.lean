import TwoStep.Proofs.Handoff.Recovery

/-!
# What an acceptance makes of a ledger

Over a ledger the acceptance of a standing nomination is decided, like a whole
hand-over, by the ledger before it.  `AcceptOutcome` is the table, one
constructor a row, and `acceptPending_outcome` says that every run is the row
its conditions name.

An empty slot holds the zero address, and the workflow compares addresses.  So
there is one row in which it submits without a nomination: the one in which the
new owner is the zero address as well (`AcceptOutcome.vacant`).  The ledger
turns that acceptance down, and the failure is reported as one that leaves the
contract with a pending owner.  `acceptance_acts_on_nomination` says that
nothing else stands between an acceptance and what it promises.
-/

namespace TwoStep.Handoff

open Session

/-! ## The table -/

/-- What the acceptance of a standing nomination asks and returns, and the
ledger it leaves, by the conditions it meets. -/
inductive AcceptOutcome (l : Ledger) (c : Contract) (newOwner : Signer) (fee : Fee) :
    List Query → Except TransferError Receipt → Ledger → Prop where
  | unnominated (hne : l.pendingOwner ≠ newOwner.address) :
      AcceptOutcome l c newOwner fee [.owner c, .pendingOwner c]
        (.error (.notNominated c.address newOwner.address l.pendingOwner)) l
  | vacant (hz : newOwner.address = Address.zero) (hp : l.pendingOwner = Address.zero)
      (e : ClientError) (l' : Ledger) (hslots : l'.snapshot = l.snapshot) :
      AcceptOutcome l c newOwner fee
        [.owner c, .pendingOwner c, .submit c .acceptOwnership ⟨newOwner, fee⟩]
        (.error (.acceptance newOwner.address none e)) l'
  | stalled (hz : newOwner.address ≠ Address.zero) (hp : l.pendingOwner = newOwner.address)
      (ha : ¬Accepts l newOwner.address) (e : ClientError) (l' : Ledger)
      (hslots : l'.snapshot = l.snapshot) :
      AcceptOutcome l c newOwner fee
        [.owner c, .pendingOwner c, .submit c .acceptOwnership ⟨newOwner, fee⟩]
        (.error (.acceptance newOwner.address none e)) l'
  | completed (hz : newOwner.address ≠ Address.zero) (hp : l.pendingOwner = newOwner.address)
      (ha : Accepts l newOwner.address) (r : Receipt) (l' : Ledger)
      (hslots : l'.snapshot = ⟨newOwner.address, Address.zero⟩) :
      AcceptOutcome l c newOwner fee
        [.owner c, .pendingOwner c, .submit c .acceptOwnership ⟨newOwner, fee⟩] (.ok r) l'

section Run

variable {l : Ledger} {c : Contract} (stamp : Stamp) (newOwner : Signer) (fee : Fee)

theorem asked_acceptPending (hc : c.address = l.address) :
    ((acceptPending stamp c newOwner fee).run Ledger.client l).asked =
      [.owner c, .pendingOwner c] ++
        if l.pendingOwner = newOwner.address then [.submit c .acceptOwnership ⟨newOwner, fee⟩]
        else [] := by
  rw [← map_query_transcript, ← transcript_quiet, quiet_acceptPending]
  simp only [acceptQuestions, transcript_ask, Ledger.client, Ledger.readSlot, hc, if_true]
  by_cases hp : l.pendingOwner = newOwner.address
  · simp only [hp, ne_eq, not_true, if_false, if_true, transcript_ask]
    cases (Ledger.client (.submit c .acceptOwnership ⟨newOwner, fee⟩) l).reply <;> rfl
  · simp [hp, Moment.ask]

theorem run_acceptPending_unnominated (hc : c.address = l.address)
    (hne : l.pendingOwner ≠ newOwner.address) :
    let r := (acceptPending stamp c newOwner fee).run Ledger.client l
    r.value = .error (.notNominated c.address newOwner.address l.pendingOwner) ∧ r.state = l := by
  dsimp only
  rw [← run_quiet_value, ← run_quiet_state, quiet_acceptPending]
  simp [acceptQuestions, Ledger.client, Ledger.readSlot, hc, hne]

/-- An acceptance that the contract does not allow is reported, and leaves the
slots alone. -/
theorem run_acceptPending_fails (hc : c.address = l.address)
    (hp : l.pendingOwner = newOwner.address)
    (h : ¬l.Allows c .acceptOwnership ⟨newOwner, fee⟩) :
    let r := (acceptPending stamp c newOwner fee).run Ledger.client l
    (∃ e, r.value = .error (.acceptance newOwner.address none e)) ∧
      r.state.snapshot = l.snapshot := by
  have hrun := run_acceptPending hc stamp hp fee
  obtain ⟨⟨e, hreply⟩, hslots, -⟩ := Ledger.submit_fails h
  dsimp only at hrun
  rw [hreply] at hrun
  obtain ⟨hvalue, hstate⟩ := Prod.mk.inj hrun
  dsimp only
  rw [hvalue, hstate]
  exact ⟨⟨e, rfl⟩, hslots⟩

/-- The acceptance of a standing nomination is the row of the table that its
conditions name. -/
theorem acceptPending_outcome (hc : c.address = l.address) :
    let r := (acceptPending stamp c newOwner fee).run Ledger.client l
    AcceptOutcome l c newOwner fee r.asked r.value r.state := by
  dsimp only
  have hasked := asked_acceptPending stamp newOwner fee hc
  by_cases hp : l.pendingOwner = newOwner.address
  case neg =>
    obtain ⟨hvalue, hstate⟩ := run_acceptPending_unnominated stamp newOwner fee hc hp
    rw [hasked, if_neg hp, hvalue, hstate]
    exact .unnominated hp
  rw [hasked, if_pos hp]
  by_cases hz : newOwner.address = Address.zero
  case pos =>
    have hforbidden : ¬l.Allows c .acceptOwnership ⟨newOwner, fee⟩ := by
      rintro ⟨-, -, s, happly⟩
      exact (Ledger.apply_acceptOwnership_iff.mp happly).1 (hp.trans hz)
    obtain ⟨⟨e, hvalue⟩, hslots⟩ := run_acceptPending_fails stamp newOwner fee hc hp hforbidden
    rw [hvalue]
    exact .vacant hz (hp.trans hz) e _ hslots
  have hallows := allows_acceptance_iff newOwner fee hc hp hz
  by_cases ha : Accepts l newOwner.address
  case neg =>
    obtain ⟨⟨e, hvalue⟩, hslots⟩ :=
      run_acceptPending_fails stamp newOwner fee hc hp (mt hallows.mp ha)
    rw [hvalue]
    exact .stalled hz hp ha e _ hslots
  · obtain ⟨⟨r, hvalue⟩, -, hslots⟩ := acceptPending_completes hc stamp hp hz ha fee
    rw [hvalue]
    exact .completed hz hp ha r _ hslots

end Run

/-! ## Acting on a nomination -/

/-- An acceptance acts only on a nomination: it submits something only if the
new owner is pending, refuses to act if nobody is, and if it says that the
contract is left with a pending owner, then that is the new owner. -/
structure ActsOnNomination (l : Ledger) (newOwner : Signer)
    (run : Run Ledger (Except TransferError Receipt)) : Prop where
  submits : ∀ c call o, .submit c call o ∈ run.asked →
    l.snapshot.pending = some newOwner.address
  refuses : l.snapshot.pending = none →
    run.value = .error (.notNominated l.address newOwner.address Address.zero) ∧ run.state = l
  leaves : ∀ e, run.value = .error e → e.leftPending = true →
    run.state.snapshot.pending = some newOwner.address ∧ run.state.owner = l.owner

theorem pending_eq_some_iff {s : Snapshot} {a : Address} :
    s.pending = some a ↔ s.pendingOwner = a ∧ a ≠ Address.zero := by
  unfold Snapshot.pending
  split
  · rename_i hz
    simp only [reduceCtorEq, hz, false_iff, not_and, Decidable.not_not]
    exact Eq.symm
  · rename_i hz
    rw [Option.some.injEq]
    exact ⟨fun h => ⟨h, h ▸ hz⟩, And.left⟩

theorem pending_eq_none_iff {s : Snapshot} : s.pending = none ↔ s.pendingOwner = Address.zero := by
  unfold Snapshot.pending
  split <;> simp [*]

section Outcome

variable {l : Ledger} {newOwner : Signer} {fee : Fee}
  {run : Run Ledger (Except TransferError Receipt)}

/-- Every row of the table but one acts on a nomination. -/
theorem AcceptOutcome.acts
    (h : AcceptOutcome l ⟨l.address⟩ newOwner fee run.asked run.value run.state)
    (hnominee : ¬(newOwner.address = Address.zero ∧ l.snapshot.pending = none)) :
    ActsOnNomination l newOwner run := by
  obtain ⟨value, l', outputs, asked⟩ := run
  dsimp only at h
  cases h with
  | unnominated hne =>
      refine ⟨fun c call o hasked => by simp at hasked, fun hnone => ?_, fun e he hleft => ?_⟩
      · have hempty : l.pendingOwner = Address.zero := pending_eq_none_iff.mp hnone
        rw [hempty]
        exact ⟨rfl, rfl⟩
      · obtain rfl := Except.error.inj he
        cases hleft
  | vacant hz hp => exact absurd ⟨hz, pending_eq_none_iff.mpr hp⟩ hnominee
  | stalled hz hp ha e _ hslots =>
      have hpending : l.snapshot.pending = some newOwner.address := pending_eq_some_iff.mpr ⟨hp, hz⟩
      refine ⟨fun _ _ _ _ => hpending, fun hnone => ?_, fun _ _ _ => ?_⟩
      · rw [hpending] at hnone
        cases hnone
      · dsimp only
        rw [hslots]
        exact ⟨hpending, congrArg Snapshot.owner hslots⟩
  | completed hz hp ha r _ hslots =>
      have hpending : l.snapshot.pending = some newOwner.address := pending_eq_some_iff.mpr ⟨hp, hz⟩
      refine ⟨fun _ _ _ _ => hpending, fun hnone => ?_, fun e he _ => ?_⟩
      · rw [hpending] at hnone
        cases hnone
      · cases he

/-- The row that does not: the call goes out, and the report of a pending owner
is false. -/
theorem AcceptOutcome.vacancy
    (h : AcceptOutcome l ⟨l.address⟩ newOwner fee run.asked run.value run.state)
    (hz : newOwner.address = Address.zero) (hnone : l.snapshot.pending = none) :
    .submit ⟨l.address⟩ .acceptOwnership ⟨newOwner, fee⟩ ∈ run.asked ∧
      (∃ e, run.value = .error (.acceptance Address.zero none e)) ∧
      run.state.snapshot = l.snapshot := by
  obtain ⟨value, l', outputs, asked⟩ := run
  dsimp only at h
  have hp : l.pendingOwner = Address.zero := pending_eq_none_iff.mp hnone
  cases h with
  | unnominated hne => exact absurd (hp.trans hz.symm) hne
  | vacant _ _ e _ hslots => exact ⟨by simp, ⟨e, by rw [hz]⟩, hslots⟩
  | stalled hne => exact absurd hz hne
  | completed hne => exact absurd hz hne

theorem ActsOnNomination.not_vacant (h : ActsOnNomination l newOwner run) {e : ClientError}
    (hvalue : run.value = .error (.acceptance Address.zero none e)) :
    l.snapshot.pending ≠ none := by
  intro hnone
  obtain ⟨hrefused, -⟩ := h.refuses hnone
  rw [hvalue] at hrefused
  cases hrefused

end Outcome

/-- Over every ledger the acceptance of a standing nomination acts on a
nomination, unless nobody is pending and the new owner is the zero address.
Then it submits a call nevertheless, and reports a pending owner that the
contract does not have. -/
theorem acceptance_acts_on_nomination (l : Ledger) (stamp : Stamp) (newOwner : Signer)
    (fee : Fee) :
    let run := (acceptPending stamp ⟨l.address⟩ newOwner fee).run Ledger.client l
    (ActsOnNomination l newOwner run ↔
      ¬(newOwner.address = Address.zero ∧ l.snapshot.pending = none)) ∧
    (newOwner.address = Address.zero → l.snapshot.pending = none →
      .submit ⟨l.address⟩ .acceptOwnership ⟨newOwner, fee⟩ ∈ run.asked ∧
      (∃ e, run.value = .error (.acceptance Address.zero none e)) ∧
      run.state.snapshot = l.snapshot) := by
  intro run
  have houtcome : AcceptOutcome l ⟨l.address⟩ newOwner fee run.asked run.value run.state :=
    acceptPending_outcome stamp newOwner fee rfl
  refine ⟨⟨?_, houtcome.acts⟩, houtcome.vacancy⟩
  rintro hacts ⟨hz, hnone⟩
  obtain ⟨-, ⟨e, hvalue⟩, -⟩ := houtcome.vacancy hz hnone
  exact hacts.not_vacant hvalue hnone

/-- A fresh contract has no pending owner, and the zero address is let through
to it all the same. -/
theorem zero_address_accepts_without_nomination :
    ¬∀ (l : Ledger) (stamp : Stamp) (newOwner : Signer) (fee : Fee),
      ActsOnNomination l newOwner
        ((acceptPending stamp ⟨l.address⟩ newOwner fee).run Ledger.client l) := by
  intro h
  have hacts := h (Ledger.new ⟨9⟩ ⟨1⟩) epochStamp ⟨"nobody", Address.zero⟩ Fee.default
  have hrefused := (hacts.refuses rfl).1
  cases hrefused

end TwoStep.Handoff
