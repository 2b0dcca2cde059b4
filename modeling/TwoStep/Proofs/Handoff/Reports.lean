import TwoStep.Chain.Node
import TwoStep.Proofs.Handoff.Transactions

/-!
# What a failed hand-over says about the chain

A failed nomination is reported as one that changed nothing, and a failed
acceptance as one that left the new owner pending.  Over a node that is so if
every transaction of that kind that the node took came back with a receipt of
failure: then it is `Undone`.

The client also gives up when the receipt of a transaction cannot be had, and
then nobody knows what became of it.  `report_true_iff_tracked` says that this
is the only way to a false report.  `untracked_nomination_reported_undone` is
such a run.
-/

namespace TwoStep.Handoff

open Rpc

/-- Every transaction of a kind that the node took was answered by a receipt
that reports failure. -/
def Undone (kind : Transaction → Prop) (xs : List Exchange) : Prop :=
  ∀ t h, ⟨.send t, .ok h⟩ ∈ xs → kind t → ∃ block, ⟨.inclusion h, .ok ⟨false, block⟩⟩ ∈ xs

/-- The receipt of a transaction could not be had. -/
def LosesTrack (xs : List Exchange) : Prop :=
  ∃ h f, ⟨.inclusion h, .error f⟩ ∈ xs

/-- No transaction of a kind was sent, and all receipts report success. -/
structure Clean (kind : Transaction → Prop) (xs : List Exchange) : Prop where
  unsent : ∀ t answer, ⟨.send t, answer⟩ ∈ xs → ¬kind t
  succeeded : ∀ h answer, ⟨.inclusion h, answer⟩ ∈ xs → ∃ block, answer = .ok ⟨true, block⟩

section Reports

variable {signers : List Address} {c : Contract} {call : Call} {options : CallOptions}
  {kind : Transaction → Prop} {xs ys : List Exchange}

theorem Clean.of_inquiries (hxs : ∀ x ∈ xs, x.isInquiry) : Clean kind xs where
  unsent t answer h := absurd h (not_mem_send hxs t answer)
  succeeded h answer hmem := absurd hmem (not_mem_inclusion hxs h answer)

theorem Clean.append (hxs : Clean kind xs) (hys : Clean kind ys) : Clean kind (xs ++ ys) where
  unsent t answer h := by
    obtain h | h := List.mem_append.mp h
    · exact hxs.unsent t answer h
    · exact hys.unsent t answer h
  succeeded h answer hmem := by
    obtain hmem | hmem := List.mem_append.mp hmem
    · exact hxs.succeeded h answer hmem
    · exact hys.succeeded h answer hmem

theorem Clean.of_success {receipt : Receipt}
    (h : SubmitCourse signers c call options xs (.ok receipt))
    (hkind : ∀ t, Carries signers c call options t → ¬kind t) : Clean kind xs where
  unsent t answer hmem := hkind t (carries_of_mem h hmem)
  succeeded hash answer hmem := by
    cases h with
    | sent xs t ys reply hxs ht hfate =>
        obtain hmem | hmem := List.mem_append.mp hmem
        · exact absurd hmem (not_mem_inclusion hxs hash answer)
        · cases hfate with
          | completed h block =>
              obtain _ | ⟨_, _ | ⟨_, ⟨⟩⟩⟩ := hmem
              exact ⟨block, rfl⟩

/-! ## One submission -/

theorem Clean.not_losesTrack (h : Clean kind xs) : ¬LosesTrack xs := by
  rintro ⟨hash, f, hmem⟩
  obtain ⟨block, hanswer⟩ := h.succeeded hash _ hmem
  cases hanswer

theorem Clean.undone (h : Clean kind xs) : Undone kind xs :=
  fun t _ hmem ht => absurd ht (h.unsent t _ hmem)

theorem LosesTrack.append_iff : LosesTrack (xs ++ ys) ↔ LosesTrack xs ∨ LosesTrack ys := by
  simp only [LosesTrack, List.mem_append, exists_or]

/-- Behind a clean record, the fate of one transaction decides. -/
theorem undone_iff_of_fate {method : String} {t : Transaction} {e : ClientError}
    (hxs : Clean kind xs) (ht : kind t) (hfate : Fate method t ys (.error e)) :
    Undone kind (xs ++ ys) ↔ ¬LosesTrack (xs ++ ys) := by
  rw [LosesTrack.append_iff, or_iff_right hxs.not_losesTrack]
  cases hfate with
  | refused f =>
      have hundone : Undone kind (xs ++ [⟨.send t, .error f⟩]) := by
        intro t' hash hmem ht'
        obtain hmem | hmem := List.mem_append.mp hmem
        · exact absurd ht' (hxs.unsent t' _ hmem)
        · obtain _ | ⟨_, ⟨⟩⟩ := hmem
      refine iff_of_true hundone ?_
      rintro ⟨hash, f', hmem⟩
      obtain _ | ⟨_, ⟨⟩⟩ := hmem
  | lost hash f =>
      refine iff_of_false (fun hundone => ?_) (not_not_intro ⟨hash, f, by simp⟩)
      obtain ⟨block, hmem⟩ := hundone t hash (by simp) ht
      obtain hmem | hmem := List.mem_append.mp hmem
      · obtain ⟨block', hanswer⟩ := hxs.succeeded hash _ hmem
        cases hanswer
      · obtain _ | ⟨_, _ | ⟨_, ⟨⟩⟩⟩ := hmem
  | reverted hash block =>
      have hundone : Undone kind
          (xs ++ [⟨.send t, .ok hash⟩, ⟨.inclusion hash, .ok ⟨false, block⟩⟩]) := by
        intro t' hash' hmem ht'
        obtain hmem | hmem := List.mem_append.mp hmem
        · exact absurd ht' (hxs.unsent t' _ hmem)
        · obtain _ | ⟨_, _ | ⟨_, ⟨⟩⟩⟩ := hmem
          exact ⟨block, by simp⟩
      refine iff_of_true hundone ?_
      rintro ⟨hash', f', hmem⟩
      obtain _ | ⟨_, _ | ⟨_, ⟨⟩⟩⟩ := hmem

/-- A submission that failed is undone unless its receipt could not be had. -/
theorem undone_iff_tracked {before : List Exchange} {e : ClientError}
    (hbefore : Clean kind before) (h : SubmitCourse signers c call options xs (.error e))
    (hkind : ∀ t, Carries signers c call options t → kind t) :
    Undone kind (before ++ xs) ↔ ¬LosesTrack (before ++ xs) := by
  cases h with
  | unsent xs e hxs =>
      have hclean := hbefore.append (.of_inquiries hxs)
      exact iff_of_true hclean.undone hclean.not_losesTrack
  | sent xs t ys reply hxs ht hfate =>
      have hclean := hbefore.append (.of_inquiries hxs)
      rw [← List.append_assoc]
      exact undone_iff_of_fate hclean (hkind t ht) hfate

/-! ## Whole hand-overs -/

variable {currentOwner newOwner : Signer} {fee : Fee} {a : Address} {e : ClientError}

theorem TransferRecord.nomination_undone_iff
    (h : TransferRecord signers c currentOwner newOwner fee xs (.error (.nomination a e))) :
    Undone Transaction.Nominates xs ↔ ¬LosesTrack xs := by
  cases h with
  | unnominated reads nomination e hreads hnomination =>
      exact undone_iff_tracked (.of_inquiries hreads) hnomination
        fun t ht => ⟨newOwner.address, ht.data⟩

theorem TransferRecord.acceptance_undone_iff {hash : Option TxHash}
    (h : TransferRecord signers c currentOwner newOwner fee xs (.error (.acceptance a hash e))) :
    Undone Transaction.Accepts xs ↔ ¬LosesTrack xs := by
  cases h with
  | stalled reads nomination acceptance receipt e hreads hnomination hacceptance =>
      have hclean : Clean Transaction.Accepts (reads ++ nomination) := by
        refine .append (.of_inquiries hreads) (.of_success hnomination fun t ht haccepts => ?_)
        exact Call.nomination_data_ne newOwner.address (ht.data.symm.trans haccepts)
      exact undone_iff_tracked hclean hacceptance fun t ht => ht.data

end Reports

/-- The report of a failed nomination, that nothing was changed, and that of a
failed acceptance, that the new owner is still pending, are true of all that
the node took exactly if no receipt was lost. -/
theorem report_true_iff_tracked {ν : Type} (node : Node ν) (signers : List Address) (l : Link ν)
    (stamp : Stamp) (c : Contract) (currentOwner newOwner : Signer) (fee : Fee) :
    let run := (transferOwnership stamp c currentOwner newOwner fee).run (client node signers) l
    let xs := l.since run.state
    (∀ a e, run.value = .error (.nomination a e) →
      (Undone Transaction.Nominates xs ↔ ¬LosesTrack xs)) ∧
    (∀ a h e, run.value = .error (.acceptance a h e) →
      (Undone Transaction.Accepts xs ↔ ¬LosesTrack xs)) := by
  intro run xs
  have hrecord : TransferRecord signers c currentOwner newOwner fee xs run.value :=
    transferOwnership_record node l stamp
  constructor
  · intro a e hvalue
    exact (hvalue ▸ hrecord).nomination_undone_iff
  · intro a h e hvalue
    exact (hvalue ▸ hrecord).acceptance_undone_iff

/-! A node that takes the nomination of 2 by 1 at 9, and then answers nothing
about it. -/

/-- The two accounts and the contract of the run below. -/
def account (n : Nat) : Signer := ⟨s!"account {n}", ⟨BitVec.ofNat 160 n⟩⟩

def forgetful : NodeScript where
  owner := [.ok (account 1).address.argument]
  pendingOwner := [.ok Address.zero.argument]
  feeHistory := [.ok ⟨[900, 1000], [[5]]⟩]
  gas := [.ok 50000]
  nonce := [.ok 0]
  chainId := [.ok 1]
  send := [.ok ⟨7⟩]

/-- The hand-over from 1 to 2 over the forgetful node. -/
def forgottenRun : Run (Link NodeScript) (Except TransferError Report) :=
  let epoch : Instant := ⟨1970, 1, 1, 0, 0, 0, 0⟩
  (transferOwnership ⟨"", epoch, epoch⟩ ⟨(account 9).address⟩ (account 1) (account 2)
    Fee.default).run (client NodeScript.node [(account 1).address, (account 2).address])
    { node := forgetful }

/-- The nomination is reported as one that changed nothing, although the node
took it and no receipt says that it failed. -/
theorem untracked_nomination_reported_undone :
    (∃ e, forgottenRun.value = .error (.nomination (account 2).address e)) ∧
      ¬Undone Transaction.Nominates forgottenRun.state.exchanges := by
  have hvalue : forgottenRun.value = .error (.nomination (account 2).address
      (lostTrack "setPendingOwner" ⟨7⟩ (NodeScript.unprepared "receipt"))) := rfl
  have hlast : forgottenRun.state.exchanges.getLast? =
      some ⟨.inclusion ⟨7⟩, .error (NodeScript.unprepared "receipt")⟩ := rfl
  have hrecord : TransferRecord _ _ _ _ _ forgottenRun.state.exchanges forgottenRun.value :=
    transferOwnership_record NodeScript.node { node := forgetful } _
  refine ⟨⟨_, hvalue⟩, fun hundone => ?_⟩
  exact (hvalue ▸ hrecord).nomination_undone_iff.mp hundone ⟨_, _, List.mem_of_getLast? hlast⟩

end TwoStep.Handoff
