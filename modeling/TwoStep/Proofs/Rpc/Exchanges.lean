import Mathlib.Data.List.Forall2
import TwoStep.Chain.Rpc
import TwoStep.Proofs.Session

/-!
# What a client says to its node

A client over a node answers a question by a talk with the node, and keeps
every exchange of it.  This module says what such a talk can consist of,
whatever the node answers.

`Talks` is the judgement all of this rests on: a talk adds a piece to the
record, and the piece and the result fit together.  It has one rule for each
way to build a talk, so the statement about a part of the client follows the
text of that part.  Filling in a transaction takes inquiries only
(`talks_fill`), so a submission (`SubmitCourse`) either ends among inquiries or
sends one transaction, and then the transaction meets its `Fate`: the node
turns it down, or its receipt cannot be had, or the receipt reports failure or
success.

`said_of_question` sums this up for a single question, and `said_of_run`
carries it over to a whole session: the record grows by one piece for each
question, and each piece explains the reply.
-/

namespace TwoStep

/-- Whether an exchange only asks: it neither sends a transaction nor follows
one up. -/
def Exchange.isInquiry (x : Exchange) : Bool :=
  match x.request with
  | .send _ => false
  | .inclusion _ => false
  | _ => true

/-- What was said on a link since an earlier moment. -/
def Link.since {ν : Type} (earlier now : Link ν) : List Exchange :=
  now.exchanges.drop earlier.exchanges.length

theorem Link.since_of_append {ν : Type} {earlier now : Link ν} {xs : List Exchange}
    (h : now.exchanges = earlier.exchanges ++ xs) : earlier.since now = xs := by
  rw [since, h, List.drop_left]

namespace Rpc

variable {ν α β : Type}

/-! ## The laws of a talk -/

section Laws

variable (l : Link ν)

theorem run_bind (m : Talk ν α) (f : α → Talk ν β) :
    (m >>= f).run l =
      match m.run l with
      | (.ok a, l') => (f a).run l'
      | (.error e, l') => (.error e, l') := by
  unfold ExceptT.run
  simp only [bind, ExceptT.bind, ExceptT.mk, StateT.bind, ExceptT.bindCont]
  cases m l with
  | mk result l' => cases result <;> rfl

theorem run_ask (node : Node ν) (failure : NodeFailure → ClientError) (r : Request) :
    (ask node failure r).run l =
      ((node.answer r l.node).1.mapError failure, (exchange node r l).2) := by
  have hlift : (liftM (exchange node r) : Talk ν (Except NodeFailure r.Answer)).run l =
      (.ok (node.answer r l.node).1, (exchange node r l).2) := rfl
  rw [ask, run_bind, hlift]
  cases (node.answer r l.node).1 <;> rfl

end Laws

/-! ## Talks and what they add to the record -/

/-- From every link a talk adds a piece to the record that fits its result. -/
def Talks (talk : Talk ν α) (R : Except ClientError α → List Exchange → Prop) : Prop :=
  ∀ l, ∃ xs, (talk.run l).2.exchanges = l.exchanges ++ xs ∧ R (talk.run l).1 xs

namespace Talks

variable {R : Except ClientError α → List Exchange → Prop}

theorem of_pure {a : α} (h : R (.ok a) []) : Talks (pure a : Talk ν α) R :=
  fun _ => ⟨[], (List.append_nil _).symm, h⟩

theorem of_throw {e : ClientError} (h : R (.error e) []) : Talks (throw e : Talk ν α) R :=
  fun _ => ⟨[], (List.append_nil _).symm, h⟩

theorem of_ask {node : Node ν} {failure : NodeFailure → ClientError} {r : Request}
    {R : Except ClientError r.Answer → List Exchange → Prop}
    (hok : ∀ a, R (.ok a) [⟨r, .ok a⟩])
    (herror : ∀ f, R (.error (failure f)) [⟨r, .error f⟩]) :
    Talks (ask node failure r) R := by
  intro l
  refine ⟨[⟨r, (node.answer r l.node).1⟩], ?_⟩
  rw [run_ask]
  refine ⟨rfl, ?_⟩
  cases (node.answer r l.node).1 with
  | ok a => exact hok a
  | error f => exact herror f

theorem of_bind {m : Talk ν α} {f : α → Talk ν β}
    {R' : Except ClientError β → List Exchange → Prop} (hm : Talks m R)
    (hok : ∀ a xs, R (.ok a) xs → Talks (f a) fun r ys => R' r (xs ++ ys))
    (herror : ∀ e xs, R (.error e) xs → R' (.error e) xs) :
    Talks (m >>= f) R' := by
  intro l
  obtain ⟨xs, hxs, hR⟩ := hm l
  rw [run_bind]
  generalize m.run l = result at hxs hR
  obtain ⟨e | a, l'⟩ := result
  · exact ⟨xs, hxs, herror e xs hR⟩
  · obtain ⟨ys, hys, hR'⟩ := hok a xs hR l'
    refine ⟨xs ++ ys, ?_, hR'⟩
    rw [hys, hxs, List.append_assoc]

/-- A talk that starts with a request goes on from its answer. -/
theorem of_ask_bind {node : Node ν} {failure : NodeFailure → ClientError} {r : Request}
    {f : r.Answer → Talk ν α} (hok : ∀ a, Talks (f a) fun result ys => R result (⟨r, .ok a⟩ :: ys))
    (herror : ∀ f, R (.error (failure f)) [⟨r, .error f⟩]) :
    Talks (ask node failure r >>= f) R := by
  refine of_bind (R := fun result xs => match result with
    | .ok a => xs = [⟨r, .ok a⟩]
    | .error e => R (.error e) xs) (of_ask (fun a => rfl) herror) ?_ fun e xs h => h
  rintro a xs rfl
  exact hok a

/-- A talk may look at the link before it goes on. -/
theorem of_get {f : Link ν → Talk ν α} (h : ∀ l, Talks (f l) R) : Talks (get >>= f) R :=
  fun l => h l l

/-- What a talk changes on its own side of the link is not in the record. -/
theorem of_modify {g : Link ν → Link ν} (hg : ∀ l, (g l).exchanges = l.exchanges)
    {R : Except ClientError PUnit → List Exchange → Prop} (h : R (.ok ⟨⟩) []) :
    Talks (modify g : Talk ν PUnit) R :=
  fun l => ⟨[], (hg l).trans (List.append_nil _).symm, h⟩

end Talks

/-! ## Before anything is sent -/

/-- There were only inquiries, and a result is as stated. -/
def Inquires (Q : α → Prop) (r : Except ClientError α) (xs : List Exchange) : Prop :=
  (∀ x ∈ xs, x.isInquiry) ∧ ∀ a, r = .ok a → Q a

namespace Inquires

variable {Q : α → Prop}

theorem ok {a : α} (h : Q a) : Inquires Q (.ok a) [] :=
  ⟨by simp, fun _ ha => Except.ok.inj ha ▸ h⟩

theorem error {e : ClientError} : Inquires Q (.error e) [] :=
  ⟨by simp, by simp⟩

theorem ask {node : Node ν} {failure : NodeFailure → ClientError} {r : Request}
    (hr : ∀ a, Exchange.isInquiry ⟨r, a⟩) :
    Talks (ask node failure r) (Inquires fun _ => True) :=
  Talks.of_ask (fun a => ⟨by simp [hr], by simp⟩) (fun f => ⟨by simp [hr], by simp⟩)

/-- Two parts of inquiries, one after the other. -/
theorem bind {m : Talk ν α} {f : α → Talk ν β} {Q' : β → Prop} (hm : Talks m (Inquires Q))
    (hf : ∀ a, Q a → Talks (f a) (Inquires Q')) : Talks (m >>= f) (Inquires Q') := by
  refine Talks.of_bind hm (fun a xs hxs => ?_) (fun e xs hxs => ⟨hxs.1, by simp⟩)
  intro l
  obtain ⟨ys, hys, hask, hQ'⟩ := hf a (hxs.2 a rfl) l
  refine ⟨ys, hys, fun x hx => ?_, hQ'⟩
  obtain hx | hx := List.mem_append.mp hx
  · exact hxs.1 x hx
  · exact hask x hx

end Inquires

theorem talks_baseFee (node : Node ν) (h : FeeHistory) :
    Talks (baseFee node h) (Inquires fun _ => True) := by
  unfold baseFee
  split
  · exact Talks.of_pure (Inquires.ok trivial)
  · refine Inquires.bind (Inquires.ask fun _ => rfl) fun latest _ => ?_
    split
    · exact Talks.of_throw Inquires.error
    · exact Talks.of_throw Inquires.error
    · exact Talks.of_pure (Inquires.ok trivial)

theorem talks_feeEstimate (node : Node ν) :
    Talks (feeEstimate node) (Inquires fun _ => True) := by
  refine Inquires.bind (Inquires.ask fun _ => rfl) fun h _ => ?_
  refine Inquires.bind (talks_baseFee node h) fun base _ => ?_
  exact Talks.of_pure (Inquires.ok trivial)

theorem talks_nextNonce (node : Node ν) (method : String) (sender : Address) :
    Talks (nextNonce node method sender) (Inquires fun _ => True) := by
  have hcount (n : Nat) : Talks (ν := ν)
      (do
        modify fun l =>
          { l with nonces := (sender, n + 1) :: l.nonces.filter (·.1 ≠ sender) }
        return n)
      (Inquires fun _ => True) := by
    refine Inquires.bind (Q := fun _ => True)
      (Talks.of_modify (fun _ => rfl) (Inquires.ok trivial)) fun _ _ => ?_
    exact Talks.of_pure (Inquires.ok trivial)
  refine Talks.of_get fun l => ?_
  split
  · exact Inquires.bind (Q := fun _ => True) (Talks.of_pure (Inquires.ok trivial))
      fun n _ => hcount n
  · exact Inquires.bind (Inquires.ask fun _ => rfl) fun n _ => hcount n

theorem talks_chainId (node : Node ν) (method : String) :
    Talks (chainId node method) (Inquires fun _ => True) := by
  refine Talks.of_get fun l => ?_
  split
  · exact Talks.of_pure (Inquires.ok trivial)
  · refine Inquires.bind (Inquires.ask fun _ => rfl) fun n _ => ?_
    refine Inquires.bind (Q := fun _ => True)
      (Talks.of_modify (fun _ => rfl) (Inquires.ok trivial)) fun _ _ => ?_
    exact Talks.of_pure (Inquires.ok trivial)

/-- A transaction is that of a call, signed for one of the signers. -/
structure Carries (signers : List Address) (contract : Contract) (call : Call)
    (options : CallOptions) (t : Transaction) : Prop where
  signed : t.sender ∈ signers
  sender : t.sender = options.sender.address
  destination : t.destination = contract.address
  data : t.data = call.data
  tip : t.tip = options.fee.wei

variable (node : Node ν) (signers : List Address)

theorem talks_fill (contract : Contract) (call : Call) (options : CallOptions)
    (hsigner : options.sender.address ∈ signers) :
    Talks (fill node contract call options) (Inquires (Carries signers contract call options)) := by
  refine Inquires.bind (talks_feeEstimate node) fun e _ => ?_
  refine Inquires.bind (Inquires.ask fun _ => rfl) fun gas _ => ?_
  refine Inquires.bind (talks_nextNonce node call.method options.sender.address) fun nonce _ => ?_
  refine Inquires.bind (talks_chainId node call.method) fun chainId _ => ?_
  exact Talks.of_pure (Inquires.ok ⟨hsigner, rfl, rfl, rfl, rfl⟩)

/-! ## The course of a submission -/

/-- What becomes of a transaction: the exchanges from its sending on, and the
reply to the submission. -/
inductive Fate (method : String) (t : Transaction) :
    List Exchange → Except ClientError Receipt → Prop where
  /-- The node turns it down. -/
  | refused (f : NodeFailure) :
      Fate method t [⟨.send t, .error f⟩] (.error (refusedCall method f))
  /-- The node takes it, and its receipt cannot be had. -/
  | lost (h : TxHash) (f : NodeFailure) :
      Fate method t [⟨.send t, .ok h⟩, ⟨.inclusion h, .error f⟩] (.error (lostTrack method h f))
  /-- Its receipt reports failure. -/
  | reverted (h : TxHash) (block : Option UInt64) :
      Fate method t [⟨.send t, .ok h⟩, ⟨.inclusion h, .ok ⟨false, block⟩⟩]
        (.error (.reverted method (some h) "transaction receipt reports failure"))
  /-- Its receipt reports success. -/
  | completed (h : TxHash) (block : Option UInt64) :
      Fate method t [⟨.send t, .ok h⟩, ⟨.inclusion h, .ok ⟨true, block⟩⟩]
        (.ok ⟨method, h, block⟩)

/-- The ways in which a submission can go: it ends among the inquiries, or they
lead to a transaction, which meets its fate. -/
inductive SubmitCourse (signers : List Address) (contract : Contract) (call : Call)
    (options : CallOptions) : List Exchange → Except ClientError Receipt → Prop where
  | unsent (xs : List Exchange) (e : ClientError) (hxs : ∀ x ∈ xs, x.isInquiry) :
      SubmitCourse signers contract call options xs (.error e)
  | sent (xs : List Exchange) (t : Transaction) (ys : List Exchange)
      (reply : Except ClientError Receipt) (hxs : ∀ x ∈ xs, x.isInquiry)
      (ht : Carries signers contract call options t) (hfate : Fate call.method t ys reply) :
      SubmitCourse signers contract call options (xs ++ ys) reply

theorem talks_submit (contract : Contract) (call : Call) (options : CallOptions) :
    Talks (submit node signers contract call options) fun r xs =>
      SubmitCourse signers contract call options xs r := by
  unfold submit
  split
  case isFalse => exact Talks.of_throw (.unsent [] _ (by simp))
  case isTrue hsigner =>
  refine Talks.of_bind (talks_fill node signers contract call options hsigner)
    (fun t xs hfill => ?_) (fun e xs hfill => .unsent xs e hfill.1)
  obtain ⟨hxs, ht⟩ := hfill
  have ht := ht t rfl
  refine Talks.of_ask_bind (fun h => ?_) (fun f => .sent xs t _ _ hxs ht (.refused f))
  refine Talks.of_ask_bind (fun i => ?_) (fun f => .sent xs t _ _ hxs ht (.lost h f))
  obtain ⟨succeeded, block⟩ := i
  cases succeeded with
  | true => exact Talks.of_pure (.sent xs t _ _ hxs ht (.completed h block))
  | false => exact Talks.of_throw (.sent xs t _ _ hxs ht (.reverted h block))

/-! ## The course of a reading -/

/-- A reading is one request; the address read is the one in the answer. -/
inductive ReadCourse (contract : Contract) (view : View) :
    List Exchange → Except ClientError Address → Prop where
  | unread (x : Except NodeFailure (List UInt8)) (e : ClientError) :
      ReadCourse contract view [⟨.view contract.address view, x⟩] (.error e)
  | read (bs : List UInt8) (a : Address) (h : decodeAddress bs = .ok a) :
      ReadCourse contract view [⟨.view contract.address view, .ok bs⟩] (.ok a)

theorem talks_readSlot (contract : Contract) (view : View) :
    Talks (readSlot node contract view) fun r xs => ReadCourse contract view xs r := by
  refine Talks.of_ask_bind (fun bs => ?_) (fun f => .unread (.error f) _)
  split
  · rename_i a ha
    exact Talks.of_pure (.read bs a ha)
  · exact Talks.of_throw (.unread (.ok bs) _)

theorem ReadCourse.inquires {contract : Contract} {view : View} {xs : List Exchange}
    {r : Except ClientError Address} (h : ReadCourse contract view xs r) :
    ∀ x ∈ xs, x.isInquiry := by
  cases h <;> simp [Exchange.isInquiry]

theorem talks_contractAt (address : Address) :
    Talks (contractAt node address) (Inquires fun _ => True) := by
  refine Inquires.bind (Inquires.ask fun _ => rfl) fun code _ => ?_
  split
  · exact Talks.of_throw Inquires.error
  · exact Talks.of_pure (Inquires.ok trivial)

/-! ## Questions and sessions -/

/-- A piece of the record explains the reply to a question. -/
def Said (signers : List Address) : Answer → List Exchange → Prop
  | ⟨.contractAt _, r⟩, xs => Inquires (fun _ => True) r xs
  | ⟨.owner c, r⟩, xs => ReadCourse c .owner xs r
  | ⟨.pendingOwner c, r⟩, xs => ReadCourse c .pendingOwner xs r
  | ⟨.submit c call options, r⟩, xs => SubmitCourse signers c call options xs r

theorem said_of_question (q : Query) (l : Link ν) :
    ∃ xs, (client node signers q l).state.exchanges = l.exchanges ++ xs ∧
      Said signers ⟨q, (client node signers q l).reply⟩ xs := by
  cases q with
  | contractAt a => exact talks_contractAt node a l
  | owner c => exact talks_readSlot node c .owner l
  | pendingOwner c => exact talks_readSlot node c .pendingOwner l
  | submit c call options => exact talks_submit node signers c call options l

/-- If every question adds a piece to the record, the record of a session is
made of one piece for each of its questions. -/
theorem pieces_of_run {P : Answer → List Exchange → Prop}
    (hpiece : ∀ q l, ∃ xs, (client node signers q l).state.exchanges = l.exchanges ++ xs ∧
      P ⟨q, (client node signers q l).reply⟩ xs) (session : Session α) (l : Link ν) :
    ∃ pieces, List.Forall₂ P (session.answers (client node signers) l) pieces ∧
      l.since (session.run (client node signers) l).state = pieces.flatten := by
  suffices h : ∃ pieces,
      List.Forall₂ P (session.answers (client node signers) l) pieces ∧
        (session.run (client node signers) l).state.exchanges = l.exchanges ++ pieces.flatten by
    obtain ⟨pieces, hsaid, happend⟩ := h
    exact ⟨pieces, hsaid, Link.since_of_append happend⟩
  induction session generalizing l with
  | done a => exact ⟨[], .nil, (List.append_nil _).symm⟩
  | emit o rest ih => exact ih l
  | ask q next ih =>
      obtain ⟨xs, hxs, hq⟩ := hpiece q l
      obtain ⟨pieces, hrest, hpieces⟩ :=
        ih (client node signers q l).reply (client node signers q l).state
      refine ⟨xs :: pieces, .cons hq hrest, ?_⟩
      rw [Session.run_ask_state, hpieces, hxs, List.flatten_cons, List.append_assoc]

/-- Each piece of the record of a session explains the reply to its question. -/
theorem said_of_run (session : Session α) (l : Link ν) :
    ∃ pieces, List.Forall₂ (Said signers) (session.answers (client node signers) l) pieces ∧
      l.since (session.run (client node signers) l).state = pieces.flatten :=
  pieces_of_run node signers (said_of_question node signers) session l

/-- A session only adds to the record. -/
theorem exchanges_of_run (session : Session α) (l : Link ν) :
    let run := session.run (client node signers) l
    run.state.exchanges = l.exchanges ++ l.since run.state := by
  intro run
  have hstep (_ : List (Moment (Link ν))) (l' : Link ν) (q : Query)
      (h : l.exchanges <+: l'.exchanges) :
      l.exchanges <+: (client node signers q l').state.exchanges := by
    obtain ⟨xs, hxs, -⟩ := said_of_question node signers q l'
    rw [hxs]
    exact h.trans (List.prefix_append _ xs)
  have hprefix : l.exchanges <+: run.state.exchanges :=
    @Session.transcript_invariant _ _ (client node signers)
      (fun _ l' => l.exchanges <+: l'.exchanges) hstep session [] l List.prefix_rfl
  obtain ⟨xs, hxs⟩ := hprefix
  rw [← hxs, Link.since_of_append hxs.symm]

end Rpc

end TwoStep
