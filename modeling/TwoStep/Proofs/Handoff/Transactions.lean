import TwoStep.Chain.Node
import TwoStep.Proofs.Handoff.Course
import TwoStep.Proofs.Hex
import TwoStep.Proofs.Rpc.Exchanges

/-!
# The transactions of a hand-over

What a workflow over a node sends to it, whatever the node answers.

A run asks the client one question after the other, and each question leaves its
piece of the record: a reading leaves inquiries only, a submission at most one
transaction.  `transferOwnership_record` and `acceptPending_record` put the pieces
together in the order of the workflow's course.  So an acceptance can stand in the
record only behind the whole piece of the nomination (`exists_append_of_not_mem`),
and that piece ends with a receipt of success, because the workflow goes on only
after one (`confirmed_of_submission`).

The main statement is `acceptance_follows_confirmed_nomination`.
-/

namespace TwoStep

/-- A transaction nominates somebody. -/
def Transaction.Nominates (t : Transaction) : Prop :=
  ∃ a, t.data = (Call.setPendingOwner a).data

/-- A transaction accepts a nomination. -/
def Transaction.Accepts (t : Transaction) : Prop :=
  t.data = Call.acceptOwnership.data

namespace Handoff

open Rpc

/-! ## The pieces of a record -/

section Pieces

variable {signers : List Address} {c : Contract} {call : Call} {options : CallOptions}
  {xs : List Exchange} {reply : Except ClientError Receipt}

theorem not_mem_send (hxs : ∀ x ∈ xs, x.isInquiry) (t : Transaction)
    (a : Except NodeFailure TxHash) : ⟨.send t, a⟩ ∉ xs :=
  fun h => Bool.noConfusion (hxs _ h)

theorem not_mem_inclusion (hxs : ∀ x ∈ xs, x.isInquiry) (h : TxHash)
    (a : Except NodeFailure Inclusion) : ⟨.inclusion h, a⟩ ∉ xs :=
  fun h => Bool.noConfusion (hxs _ h)

theorem sent_of_inquiries (hxs : ∀ x ∈ xs, x.isInquiry) : xs.filterMap Exchange.sent? = [] := by
  refine List.filterMap_eq_nil_iff.mpr fun x hx => ?_
  have hask := hxs x hx
  obtain ⟨r, a⟩ := x
  cases r with
  | send t => exact Bool.noConfusion hask
  | _ => rfl

theorem sent_of_fate {method : String} {t : Transaction} (h : Fate method t xs reply) :
    xs.filterMap Exchange.sent? = [t] := by
  cases h <;> rfl

/-- A submission sends one transaction at most, and it is that of the call. -/
theorem sent_of_submission (h : SubmitCourse signers c call options xs reply) :
    xs.filterMap Exchange.sent? = [] ∨
      ∃ t, Carries signers c call options t ∧ xs.filterMap Exchange.sent? = [t] := by
  cases h with
  | unsent xs e hxs => exact .inl (sent_of_inquiries hxs)
  | sent xs t ys reply hxs ht hfate =>
      refine .inr ⟨t, ht, ?_⟩
      rw [List.filterMap_append, sent_of_inquiries hxs, sent_of_fate hfate, List.nil_append]

theorem sent_of_success {receipt : Receipt}
    (h : SubmitCourse signers c call options xs (.ok receipt)) :
    ∃ t, Carries signers c call options t ∧ xs.filterMap Exchange.sent? = [t] := by
  cases h with
  | sent xs t ys reply hxs ht hfate =>
      refine ⟨t, ht, ?_⟩
      rw [List.filterMap_append, sent_of_inquiries hxs, sent_of_fate hfate, List.nil_append]

theorem mem_sent {t : Transaction} {a : Except NodeFailure TxHash} (h : ⟨.send t, a⟩ ∈ xs) :
    t ∈ xs.filterMap Exchange.sent? :=
  List.mem_filterMap.mpr ⟨_, h, rfl⟩

theorem carries_of_mem (h : SubmitCourse signers c call options xs reply) {t : Transaction}
    {a : Except NodeFailure TxHash} (ht : ⟨.send t, a⟩ ∈ xs) :
    Carries signers c call options t := by
  have hsent := mem_sent ht
  obtain hnil | ⟨t', ht', hone⟩ := sent_of_submission h
  · rw [hnil] at hsent
    cases hsent
  · rw [hone] at hsent
    rw [List.mem_singleton.mp hsent]
    exact ht'

/-- The node took the transaction of a call, and later answered with a receipt
for it that reports success. -/
def Confirmed (signers : List Address) (c : Contract) (call : Call) (options : CallOptions)
    (xs : List Exchange) : Prop :=
  ∃ t h block, Carries signers c call options t ∧
    [⟨.send t, .ok h⟩, ⟨.inclusion h, .ok ⟨true, block⟩⟩].Sublist xs

theorem confirmed_of_submission {receipt : Receipt}
    (h : SubmitCourse signers c call options xs (.ok receipt)) :
    Confirmed signers c call options xs := by
  cases h with
  | sent xs t ys reply hxs ht hfate =>
      cases hfate with
      | completed h block => exact ⟨t, h, block, ht, List.sublist_append_right _ _⟩

theorem Confirmed.append (h : Confirmed signers c call options xs) (before after : List Exchange) :
    Confirmed signers c call options (before ++ xs ++ after) := by
  obtain ⟨t, h, block, ht, hsub⟩ := h
  refine ⟨t, h, block, ht, hsub.trans ?_⟩
  exact (List.sublist_append_right before xs).trans (List.sublist_append_left _ after)

end Pieces

/-! ## The records of the workflows -/

/-- The record of a whole hand-over: inquiries first, then the piece of the
nomination, and behind a nomination that succeeded that of the acceptance. -/
inductive TransferRecord (signers : List Address) (c : Contract) (currentOwner newOwner : Signer)
    (fee : Fee) : List Exchange → Except TransferError Report → Prop where
  | unread (reads : List Exchange) (e : ClientError) (hreads : ∀ x ∈ reads, x.isInquiry) :
      TransferRecord signers c currentOwner newOwner fee reads (.error (.snapshot c.address e))
  | unnominated (reads nomination : List Exchange) (e : ClientError)
      (hreads : ∀ x ∈ reads, x.isInquiry)
      (hnomination : SubmitCourse signers c (.setPendingOwner newOwner.address)
        ⟨currentOwner, fee⟩ nomination (.error e)) :
      TransferRecord signers c currentOwner newOwner fee (reads ++ nomination)
        (.error (.nomination newOwner.address e))
  | stalled (reads nomination acceptance : List Exchange) (receipt : Receipt) (e : ClientError)
      (hreads : ∀ x ∈ reads, x.isInquiry)
      (hnomination : SubmitCourse signers c (.setPendingOwner newOwner.address)
        ⟨currentOwner, fee⟩ nomination (.ok receipt))
      (hacceptance : SubmitCourse signers c .acceptOwnership ⟨newOwner, fee⟩ acceptance
        (.error e)) :
      TransferRecord signers c currentOwner newOwner fee (reads ++ nomination ++ acceptance)
        (.error (.acceptance newOwner.address (some receipt.txHash) e))
  | completed (reads nomination acceptance : List Exchange) (receipt receipt' : Receipt)
      (report : Report) (hreads : ∀ x ∈ reads, x.isInquiry)
      (hnomination : SubmitCourse signers c (.setPendingOwner newOwner.address)
        ⟨currentOwner, fee⟩ nomination (.ok receipt))
      (hacceptance : SubmitCourse signers c .acceptOwnership ⟨newOwner, fee⟩ acceptance
        (.ok receipt')) :
      TransferRecord signers c currentOwner newOwner fee (reads ++ nomination ++ acceptance)
        (.ok report)

/-- The record of the acceptance of a standing nomination: two readings, and
behind them, if the new owner is pending, the piece of the acceptance. -/
inductive AcceptRecord (signers : List Address) (c : Contract) (newOwner : Signer) (fee : Fee) :
    List Exchange → Prop where
  | unsubmitted (reads : List Exchange) (hreads : ∀ x ∈ reads, x.isInquiry) :
      AcceptRecord signers c newOwner fee reads
  | submitted (reads pending acceptance : List Exchange) (reply : Except ClientError Receipt)
      (hreads : ∀ x ∈ reads, x.isInquiry)
      (hpending : ReadCourse c .pendingOwner pending (.ok newOwner.address))
      (hacceptance : SubmitCourse signers c .acceptOwnership ⟨newOwner, fee⟩ acceptance reply) :
      AcceptRecord signers c newOwner fee (reads ++ pending ++ acceptance)

section Records

variable {signers : List Address} {c : Contract} {currentOwner newOwner : Signer} {fee : Fee}
  {answers : List Answer} {pieces : List (List Exchange)}

theorem inquiries_append {xs ys : List Exchange} (hxs : ∀ x ∈ xs, x.isInquiry)
    (hys : ∀ x ∈ ys, x.isInquiry) : ∀ x ∈ xs ++ ys, x.isInquiry :=
  List.forall_mem_append.mpr ⟨hxs, hys⟩

/-- A course and what was said at each of its questions make a record. -/
theorem TransferCourse.record {stamp : Stamp} {result : Except TransferError Report}
    (h : TransferCourse stamp c currentOwner newOwner fee answers result)
    (hsaid : List.Forall₂ (Said signers) answers pieces) :
    TransferRecord signers c currentOwner newOwner fee pieces.flatten result := by
  cases h with
  | ownerUnread e =>
      obtain _ | ⟨h1, ⟨⟩⟩ := hsaid
      simpa using TransferRecord.unread _ e (ReadCourse.inquires h1)
  | pendingUnread owner e =>
      obtain _ | ⟨h1, _ | ⟨h2, ⟨⟩⟩⟩ := hsaid
      have hreads := inquiries_append (ReadCourse.inquires h1) (ReadCourse.inquires h2)
      simpa using TransferRecord.unread _ e hreads
  | unnominated owner pendingOwner e =>
      obtain _ | ⟨h1, _ | ⟨h2, _ | ⟨h3, ⟨⟩⟩⟩⟩ := hsaid
      have hreads := inquiries_append (ReadCourse.inquires h1) (ReadCourse.inquires h2)
      simpa using TransferRecord.unnominated _ _ e hreads h3
  | stalled owner pendingOwner nomination e =>
      obtain _ | ⟨h1, _ | ⟨h2, _ | ⟨h3, _ | ⟨h4, ⟨⟩⟩⟩⟩⟩ := hsaid
      have hreads := inquiries_append (ReadCourse.inquires h1) (ReadCourse.inquires h2)
      simpa using TransferRecord.stalled _ _ _ nomination e hreads h3 h4
  | completed owner pendingOwner nomination acceptance =>
      obtain _ | ⟨h1, _ | ⟨h2, _ | ⟨h3, _ | ⟨h4, ⟨⟩⟩⟩⟩⟩ := hsaid
      have hreads := inquiries_append (ReadCourse.inquires h1) (ReadCourse.inquires h2)
      simpa using TransferRecord.completed _ _ _ nomination acceptance _ hreads h3 h4

theorem AcceptCourse.record {result : Except TransferError Receipt}
    (h : AcceptCourse c newOwner fee answers result)
    (hsaid : List.Forall₂ (Said signers) answers pieces) :
    AcceptRecord signers c newOwner fee pieces.flatten := by
  cases h with
  | ownerUnread e =>
      obtain _ | ⟨h1, ⟨⟩⟩ := hsaid
      simpa using AcceptRecord.unsubmitted _ (ReadCourse.inquires h1)
  | pendingUnread owner e =>
      obtain _ | ⟨h1, _ | ⟨h2, ⟨⟩⟩⟩ := hsaid
      have hreads := inquiries_append (ReadCourse.inquires h1) (ReadCourse.inquires h2)
      simpa using AcceptRecord.unsubmitted _ hreads
  | notNominated owner pendingOwner hne =>
      obtain _ | ⟨h1, _ | ⟨h2, ⟨⟩⟩⟩ := hsaid
      have hreads := inquiries_append (ReadCourse.inquires h1) (ReadCourse.inquires h2)
      simpa using AcceptRecord.unsubmitted _ hreads
  | stalled owner e =>
      obtain _ | ⟨h1, _ | ⟨h2, _ | ⟨h3, ⟨⟩⟩⟩⟩ := hsaid
      simpa using AcceptRecord.submitted _ _ _ _ (ReadCourse.inquires h1) h2 h3
  | completed owner receipt =>
      obtain _ | ⟨h1, _ | ⟨h2, _ | ⟨h3, ⟨⟩⟩⟩⟩ := hsaid
      simpa using AcceptRecord.submitted _ _ _ _ (ReadCourse.inquires h1) h2 h3

variable {ν : Type} (node : Node ν) (l : Link ν) (stamp : Stamp)

theorem transferOwnership_record :
    let run := (transferOwnership stamp c currentOwner newOwner fee).run (client node signers) l
    TransferRecord signers c currentOwner newOwner fee (l.since run.state) run.value := by
  intro run
  obtain ⟨pieces, hsaid, hpieces⟩ :=
    said_of_run node signers (transferOwnership stamp c currentOwner newOwner fee) l
  rw [hpieces]
  exact (transferOwnership_course _ l stamp c currentOwner newOwner fee).record hsaid

theorem acceptPending_record :
    AcceptRecord signers c newOwner fee
      (l.since ((acceptPending stamp c newOwner fee).run (client node signers) l).state) := by
  obtain ⟨pieces, hsaid, hpieces⟩ :=
    said_of_run node signers (acceptPending stamp c newOwner fee) l
  rw [hpieces]
  exact (acceptPending_course _ l stamp c newOwner fee).record hsaid

end Records

/-! ## First the nomination, then the acceptance -/

/-- In whatever order two lists are put together, what is not in the first one
comes behind all of it. -/
theorem exists_append_of_not_mem {α : Type} {xs ys before after : List α} {x : α}
    (h : xs ++ ys = before ++ x :: after) (hx : x ∉ xs) : ∃ mid, before = xs ++ mid := by
  obtain ⟨mid, hmid, -⟩ | ⟨mid, hmid, hrest⟩ := List.append_eq_append_iff.mp h
  · exact ⟨mid, hmid⟩
  · cases mid with
    | nil => exact ⟨[], by simp [hmid]⟩
    | cons y mid =>
        obtain ⟨rfl, -⟩ := List.cons.inj hrest
        exact absurd (by simp [hmid]) hx

/-- At most two transactions are sent, the first one nominates the new owner,
and none accepts before the nomination is confirmed. -/
structure NominatesFirst (signers : List Address) (c : Contract) (currentOwner newOwner : Signer)
    (fee : Fee) (xs : List Exchange) : Prop where
  sent : (xs.filterMap Exchange.sent?).length ≤ 2
  first : ∀ t, (xs.filterMap Exchange.sent?).head? = some t →
    Carries signers c (.setPendingOwner newOwner.address) ⟨currentOwner, fee⟩ t
  confirmed : ∀ before t answer after, xs = before ++ ⟨.send t, answer⟩ :: after → t.Accepts →
    Confirmed signers c (.setPendingOwner newOwner.address) ⟨currentOwner, fee⟩ before

/-- At most one transaction is sent, it accepts as the new owner, and before it
the node said that the new owner is pending. -/
structure AcceptsPending (signers : List Address) (c : Contract) (newOwner : Signer) (fee : Fee)
    (xs : List Exchange) : Prop where
  sent : (xs.filterMap Exchange.sent?).length ≤ 1
  pending : ∀ before t answer after, xs = before ++ ⟨.send t, answer⟩ :: after →
    Carries signers c .acceptOwnership ⟨newOwner, fee⟩ t ∧
    ∃ bs, ⟨.view c.address .pendingOwner, .ok bs⟩ ∈ before ∧
      decodeAddress bs = .ok newOwner.address

section Order

variable {signers : List Address} {c : Contract} {currentOwner newOwner : Signer} {fee : Fee}
  {reads nomination acceptance : List Exchange} {reply : Except ClientError Receipt}

/-- Nothing accepts up to the end of the nomination. -/
theorem not_mem_acceptance (hreads : ∀ x ∈ reads, x.isInquiry)
    (hnomination : SubmitCourse signers c (.setPendingOwner newOwner.address) ⟨currentOwner, fee⟩
      nomination reply)
    {t : Transaction} (ht : t.Accepts) (answer : Except NodeFailure TxHash) :
    ⟨.send t, answer⟩ ∉ reads ++ nomination := by
  intro h
  obtain h | h := List.mem_append.mp h
  · exact not_mem_send hreads t answer h
  · have hdata := (carries_of_mem hnomination h).data
    exact Call.nomination_data_ne newOwner.address (hdata.symm.trans ht)

theorem NominatesFirst.of_nomination (hreads : ∀ x ∈ reads, x.isInquiry)
    (hnomination : SubmitCourse signers c (.setPendingOwner newOwner.address) ⟨currentOwner, fee⟩
      nomination reply) :
    NominatesFirst signers c currentOwner newOwner fee (reads ++ nomination) where
  sent := by
    obtain hsent | ⟨t, -, hsent⟩ := sent_of_submission hnomination <;>
      simp [sent_of_inquiries hreads, hsent]
  first := by
    intro t ht
    obtain hsent | ⟨t', ht', hsent⟩ := sent_of_submission hnomination
    · simp [sent_of_inquiries hreads, hsent] at ht
    · simp only [List.filterMap_append, sent_of_inquiries hreads, hsent, List.nil_append,
        List.head?_cons, Option.some.injEq] at ht
      exact ht ▸ ht'
  confirmed := by
    intro before t answer after hsplit haccepts
    exact absurd (by simp [hsplit]) (not_mem_acceptance hreads hnomination haccepts answer)

theorem NominatesFirst.of_acceptance {receipt : Receipt} (hreads : ∀ x ∈ reads, x.isInquiry)
    (hnomination : SubmitCourse signers c (.setPendingOwner newOwner.address) ⟨currentOwner, fee⟩
      nomination (.ok receipt))
    (hacceptance : SubmitCourse signers c .acceptOwnership ⟨newOwner, fee⟩ acceptance reply) :
    NominatesFirst signers c currentOwner newOwner fee (reads ++ nomination ++ acceptance) where
  sent := by
    obtain ⟨t, -, hone⟩ := sent_of_success hnomination
    obtain hsent | ⟨t', -, hsent⟩ := sent_of_submission hacceptance <;>
      simp [sent_of_inquiries hreads, hone, hsent]
  first := by
    intro t ht
    obtain ⟨t', ht', hone⟩ := sent_of_success hnomination
    simp only [List.filterMap_append, sent_of_inquiries hreads, hone, List.nil_append,
      List.cons_append, List.head?_cons, Option.some.injEq] at ht
    exact ht ▸ ht'
  confirmed := by
    intro before t answer after hsplit haccepts
    -- the acceptance lies behind the whole piece of the nomination
    obtain ⟨mid, rfl⟩ :=
      exists_append_of_not_mem hsplit (not_mem_acceptance hreads hnomination haccepts answer)
    exact (confirmed_of_submission hnomination).append reads mid

theorem TransferRecord.nominatesFirst {xs : List Exchange} {result : Except TransferError Report}
    (h : TransferRecord signers c currentOwner newOwner fee xs result) :
    NominatesFirst signers c currentOwner newOwner fee xs := by
  cases h with
  | unread reads e hreads =>
      simpa using NominatesFirst.of_nomination hreads (.unsent [] e (by simp))
  | unnominated reads nomination e hreads hnomination =>
      exact .of_nomination hreads hnomination
  | stalled reads nomination acceptance receipt e hreads hnomination hacceptance =>
      exact .of_acceptance hreads hnomination hacceptance
  | completed reads nomination acceptance receipt receipt' report hreads hnomination hacceptance =>
      exact .of_acceptance hreads hnomination hacceptance

theorem AcceptRecord.acceptsPending {xs : List Exchange}
    (h : AcceptRecord signers c newOwner fee xs) :
    AcceptsPending signers c newOwner fee xs := by
  cases h with
  | unsubmitted reads hreads =>
      refine ⟨by simp [sent_of_inquiries hreads], ?_⟩
      rintro before t answer after rfl
      exact absurd (by simp) (not_mem_send hreads t answer)
  | submitted reads pending acceptance reply hreads hpending hacceptance =>
      have hinquiries := inquiries_append hreads hpending.inquires
      refine ⟨?_, fun before t answer after hsplit => ?_⟩
      · obtain hsent | ⟨t, -, hsent⟩ := sent_of_submission hacceptance <;>
          simp [sent_of_inquiries hreads, sent_of_inquiries hpending.inquires, hsent]
      · obtain ⟨mid, rfl⟩ :=
          exists_append_of_not_mem hsplit (not_mem_send hinquiries t answer)
        have hsend : ⟨.send t, answer⟩ ∈ acceptance := by
          rw [List.append_assoc (reads ++ pending)] at hsplit
          simp [List.append_cancel_left hsplit]
        refine ⟨carries_of_mem hacceptance hsend, ?_⟩
        cases hpending with
        | read bs a hbs => exact ⟨bs, by simp, hbs⟩

end Order

/-- Over a node that may answer anything, with whatever keys: a hand-over sends
at most two transactions, the first of which nominates the new owner, and an
acceptance goes out only after the node has taken the nomination and answered
with a receipt that reports its success.  The acceptance of a standing
nomination sends at most one transaction, and only after the node has said that
the new owner is pending. -/
theorem acceptance_follows_confirmed_nomination {ν : Type} (node : Node ν)
    (signers : List Address) (l : Link ν) (stamp : Stamp) (c : Contract)
    (currentOwner newOwner : Signer) (fee : Fee) :
    let transfer := transferOwnership stamp c currentOwner newOwner fee
    let accept := acceptPending stamp c newOwner fee
    NominatesFirst signers c currentOwner newOwner fee
      (l.since (transfer.run (client node signers) l).state) ∧
    AcceptsPending signers c newOwner fee
      (l.since (accept.run (client node signers) l).state) :=
  ⟨(transferOwnership_record node l stamp).nominatesFirst,
    (acceptPending_record node l stamp).acceptsPending⟩

-- Over a node that takes everything, both transactions are really sent.
example :
    let signer (n : Nat) : Signer := ⟨"", ⟨BitVec.ofNat 160 n⟩⟩
    let script : NodeScript := {
      owner := [.ok (signer 1).address.argument], pendingOwner := [.ok Address.zero.argument],
      feeHistory := [.ok ⟨[900, 1000], [[5]]⟩], gas := [.ok 50000], nonce := [.ok 0],
      chainId := [.ok 1], send := [.ok ⟨7⟩, .ok ⟨8⟩],
      inclusions := [(⟨7⟩, .ok ⟨true, none⟩), (⟨8⟩, .ok ⟨true, none⟩)] }
    let session := transferOwnership ⟨"", ⟨1970, 1, 1, 0, 0, 0, 0⟩, ⟨1970, 1, 1, 0, 0, 0, 0⟩⟩
      ⟨(signer 9).address⟩ (signer 1) (signer 2) Fee.default
    let signers := [(signer 1).address, (signer 2).address]
    ((session.run (client NodeScript.node signers) { node := script }).state.exchanges.filterMap
      Exchange.sent?).map (·.data) =
      [(Call.setPendingOwner (signer 2).address).data, Call.acceptOwnership.data] := rfl

end Handoff

end TwoStep
