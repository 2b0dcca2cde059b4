import TwoStep.Proofs.Ledger.History

/-!
# Failures of a ledger

A submission fails for one of four reasons, all in the list `Submitted`, and
what it leaves behind depends on how far it came: if it does not reach the
contract it leaves no trace, and otherwise it has its place in the log, and the
failure that was armed for its method is used up.  `Leaves` is what the four have
in common.

So an armed failure waits for the first submission of its method that reaches
the contract, a hit of the method (`Hits`).  `lookup_client` is the one step:
of all questions only a hit takes the failure off the table.  `Awaits` reads
the table off the questions of a history, and `injected_failure_fires_once`
follows for every history in which nobody arms the method again.
-/

namespace TwoStep.Ledger

/-! ## What a failed submission leaves -/

section Failed

variable (l : Ledger) (c : Contract) (call : Call) (o : CallOptions)

/-- What a failed submission leaves behind. -/
structure Leaves (l' : Ledger) : Prop where
  address : l'.address = l.address
  owner : l'.owner = l.owner
  pendingOwner : l'.pendingOwner = l.pendingOwner
  signers : l'.signers = l.signers
  block : l'.block = l.block
  /-- It is on record iff it reached the contract. -/
  calls : l'.calls = l.calls ++
    if l.Reached c o then [⟨l.address, call, o.sender.address, o.fee⟩] else []
  /-- Then the failure of its method, if there was one, is used up. -/
  failures : l'.failures =
    if l.Reached c o ∧ (l.failures.lookup call.method).isSome then
      l.failures.filter (·.1 ≠ call.method)
    else l.failures
  /-- Read by method: that of another method is still armed. -/
  armed : ∀ method, l'.failures.lookup method =
    if method = call.method ∧ l.Reached c o then none else l.failures.lookup method

variable {l c call o} {e : ClientError}

theorem Submitted.leaves {l' : Ledger} (h : Submitted l c call o (.error e) l') :
    Leaves l c call o l' := by
  cases h with
  | foreign hc =>
      have hr : ¬l.Reached c o := fun hr => hc hr.1
      exact ⟨rfl, rfl, rfl, rfl, rfl, by simp [hr], by simp [hr], by simp [hr]⟩
  | unregistered hc hs =>
      have hr : ¬l.Reached c o := fun hr => hs hr.2
      exact ⟨rfl, rfl, rfl, rfl, rfl, by simp [hr], by simp [hr], by simp [hr]⟩
  | injected hr e hf =>
      refine ⟨rfl, rfl, rfl, rfl, rfl, by simp [record, entry, hr], by simp [hr, hf], ?_⟩
      intro method
      rw [lookup_filter]
      simp [hr]
  | refused hr hf reason ha =>
      refine ⟨rfl, rfl, rfl, rfl, rfl, by simp [record, entry, hr], by simp [record, hf], ?_⟩
      intro method
      split
      · rename_i h
        rw [h.1]
        exact hf
      · rfl

/-- A failed submission gives the first reason there is.  It leaves the slots,
the signers and the block as they were; in the log it has a place iff it reached
the contract, and then the failure of its method is used up, if there was
one. -/
theorem failed_submission_leaves (h : (l.submit c call o).reply = .error e) :
    Submitted l c call o (.error e) (l.submit c call o).state ∧
      Leaves l c call o (l.submit c call o).state := by
  have hsubmitted := submitted l c call o
  rw [h] at hsubmitted
  exact ⟨hsubmitted, hsubmitted.leaves⟩

end Failed

/-! A contract at which a failure is armed for either method. -/

def faulty : Ledger where
  address := ⟨9⟩
  owner := ⟨1⟩
  pendingOwner := ⟨2⟩
  signers := [⟨1⟩, ⟨2⟩]
  failures := [("setPendingOwner", .transport "lost"), ("acceptOwnership", .signing "locked")]

/-- The owner's nomination runs into the failure of its method and uses it up;
that of the other method stays. -/
theorem failed_nomination_leaves :
    let o : CallOptions := ⟨⟨"owner", ⟨1⟩⟩, Fee.default⟩
    let turn := faulty.submit ⟨⟨9⟩⟩ (.setPendingOwner ⟨2⟩) o
    turn.reply = .error (.transport "lost") ∧
      turn.state.failures = [("acceptOwnership", .signing "locked")] ∧
      Leaves faulty ⟨⟨9⟩⟩ (.setPendingOwner ⟨2⟩) o turn.state := by
  intro o turn
  have hreply : turn.reply = .error (.transport "lost") := rfl
  exact ⟨hreply, rfl, (failed_submission_leaves hreply).2⟩

/-! ## Hits -/

/-- A submission of a method that reaches the contract. -/
def Hits (method : String) : Moment Ledger → Prop
  | ⟨l, .submit c call o, _⟩ => call.method = method ∧ l.Reached c o
  | _ => False

instance (method : String) : DecidablePred (Hits method)
  | ⟨l, .submit c call o, _⟩ =>
    inferInstanceAs (Decidable (call.method = method ∧ l.Reached c o))
  | ⟨_, .contractAt _, _⟩ => isFalse not_false
  | ⟨_, .owner _, _⟩ => isFalse not_false
  | ⟨_, .pendingOwner _, _⟩ => isFalse not_false

theorem lookup_submit (l : Ledger) (c : Contract) (call : Call) (o : CallOptions)
    (method : String) :
    (l.submit c call o).state.failures.lookup method =
      if method = call.method ∧ l.Reached c o then none else l.failures.lookup method := by
  have hsubmitted := submitted l c call o
  generalize (l.submit c call o).reply = reply, (l.submit c call o).state = l' at hsubmitted ⊢
  cases reply with
  | error e => exact hsubmitted.leaves.armed method
  | ok r =>
      cases hsubmitted with
      | applied hr hf s ha =>
          change l.failures.lookup method = _
          split
          · rename_i h
            rw [h.1, hf]
          · rfl

/-- Of all questions only a hit takes the failure of a method off the table. -/
theorem lookup_client (l : Ledger) (q : Query) (method : String) :
    (client q l).state.failures.lookup method =
      if Hits method (Moment.ask client l q) then none else l.failures.lookup method := by
  cases q with
  | contractAt a => rfl
  | owner c => rfl
  | pendingOwner c => rfl
  | submit c call o =>
      rw [client, lookup_submit]
      simp only [Moment.ask, Hits, eq_comm]

/-- A hit is answered with the failure that is armed. -/
theorem error?_of_hits {l : Ledger} {q : Query} {method : String} {e : ClientError}
    (hhits : Hits method (Moment.ask client l q)) (hf : l.failures.lookup method = some e) :
    (Moment.ask client l q).answer.error? = some e := by
  cases q with
  | submit c call o =>
      obtain ⟨rfl, hr⟩ := hhits
      simp only [Moment.ask, Moment.answer, client, (submit_injected hr hf).1, Answer.error?]
  | _ => exact absurd hhits not_false

theorem lookup_failNext (l : Ledger) (method : String) (e : ClientError) (other : String) :
    (l.failNext method e).failures.lookup other =
      if other = method then some e else l.failures.lookup other := by
  rw [failNext, List.lookup_append, lookup_filter]
  split
  · rename_i heq
    simp [heq]
  · rename_i hne
    simp [List.lookup_cons, beq_false_of_ne hne]

/-! ## Histories in which a method is armed once -/

/-- The operation arms a failure for a method. -/
def Operation.Arms (method : String) : Operation → Prop
  | .failNext other _ => other = method
  | _ => False

instance (method : String) : DecidablePred (Operation.Arms method)
  | .failNext other _ => inferInstanceAs (Decidable (other = method))
  | .register _ => isFalse not_false
  | .ask _ => isFalse not_false
  | .handOver _ => isFalse not_false

/-- What is left of a failure after some questions. -/
def remaining (method : String) (e : ClientError) (past : List (Moment Ledger)) :
    Option ClientError :=
  if ∃ x ∈ past, Hits method x then none else some e

theorem remaining_concat (method : String) (e : ClientError) (past : List (Moment Ledger))
    (x : Moment Ledger) :
    remaining method e (past ++ [x]) = if Hits method x then none else remaining method e past := by
  by_cases hx : Hits method x
  · simp [remaining, hx]
  · simp [remaining, hx, or_and_right, exists_or]

/-- A failure that was armed at the start of a history is on the table as long as
there was no hit. -/
structure Awaits (method : String) (e : ClientError) (h : History) : Prop where
  now : h.ledger.failures.lookup method = remaining method e h.moments
  before : ∀ past x later, h.moments = past ++ x :: later →
    x = Moment.ask client x.state x.query ∧
      x.state.failures.lookup method = remaining method e past

namespace Awaits

variable {method : String} {e : ClientError} {h : History}

theorem register (hh : Awaits method e h) (a : Address) :
    Awaits method e { h with ledger := h.ledger.register a } where
  now := by
    rw [← hh.now, Ledger.register]
    split <;> rfl
  before := hh.before

theorem failNext (hh : Awaits method e h) {other : String} (hne : method ≠ other)
    (e' : ClientError) :
    Awaits method e { h with ledger := h.ledger.failNext other e' } where
  now := by rw [lookup_failNext, if_neg hne, hh.now]
  before := hh.before

theorem ask (hh : Awaits method e h) (q : Query) :
    Awaits method e
      ⟨(client q h.ledger).state, h.moments ++ [Moment.ask client h.ledger q]⟩ where
  now := by rw [lookup_client, remaining_concat, hh.now]
  before := by
    intro past x later heq
    rcases eq_append_cons_of_concat heq with ⟨rfl, rfl⟩ | ⟨rest, hmoments⟩
    · exact ⟨rfl, hh.now⟩
    · exact hh.before past x rest hmoments

theorem talk {α : Type} (hh : Awaits method e h) (session : Session α) :
    Awaits method e (h.talk session) :=
  Session.transcript_invariant (I := fun past l => Awaits method e ⟨l, past⟩)
    (fun _ _ q hpast => hpast.ask q) session hh

theorem extend (hh : Awaits method e h) {op : Operation} (hop : ¬op.Arms method) :
    Awaits method e (h.extend op) := by
  cases op with
  | register a => exact hh.register a
  | failNext other e' => exact hh.failNext (Ne.symm hop) e'
  | ask q => exact hh.talk _
  | handOver errand => exact hh.talk _

theorem foldl (hh : Awaits method e h) {ops : List Operation}
    (hops : ∀ op ∈ ops, ¬op.Arms method) : Awaits method e (ops.foldl History.extend h) := by
  induction ops generalizing h with
  | nil => exact hh
  | cons op ops ih =>
      exact ih (hh.extend (hops op List.mem_cons_self))
        fun op' hop' => hops op' (List.mem_cons_of_mem op hop')

/-- It does so from the moment at which it is armed. -/
theorem of (l : Ledger) {ops : List Operation} (hops : ∀ op ∈ ops, ¬op.Arms method) :
    Awaits method e (History.of (l.failNext method e) ops) := by
  refine foldl ⟨?_, by simp⟩ hops
  rw [lookup_failNext, if_pos rfl]
  simp [remaining]

end Awaits

/-! ## One failure, fired once -/

/-- The ledger with no failure armed for a method. -/
def disarmed (l : Ledger) (method : String) : Ledger :=
  { l with failures := l.failures.filter (·.1 ≠ method) }

theorem disarmed_eq_self {l : Ledger} {method : String} (h : l.failures.lookup method = none) :
    l.disarmed method = l := by
  rw [disarmed, filter_eq_self_of_lookup h]

/-- A failure that was armed at the start of a history fires at the first hit of
its method, and at nothing else. -/
structure FiresOnce (method : String) (e : ClientError) (h : History) : Prop where
  fires : ∀ x, h.moments.find? (Hits method ·) = some x → x.answer.error? = some e
  /-- Until then it is armed, whatever else is asked. -/
  waits : (∀ past x later, h.moments = past ++ x :: later → (∀ y ∈ past, ¬Hits method y) →
      x.state.failures.lookup method = some e) ∧
    ((∀ y ∈ h.moments, ¬Hits method y) → h.ledger.failures.lookup method = some e)
  /-- Afterwards every question is asked of a contract with no failure for the
  method, and answered as such a contract does. -/
  spent : ∀ past x later, h.moments = past ++ x :: later → Hits method x →
    (∀ y ∈ later, y.state = y.state.disarmed method ∧
      y = Moment.ask client (y.state.disarmed method) y.query) ∧
    h.ledger = h.ledger.disarmed method

theorem Awaits.firesOnce {method : String} {e : ClientError} {h : History}
    (hh : Awaits method e h) : FiresOnce method e h where
  fires := by
    intro x hx
    obtain ⟨hhits, past, later, hmoments, hpast⟩ := List.find?_eq_some_iff_append.mp hx
    obtain ⟨hask, harmed⟩ := hh.before past x later hmoments
    have hnone : ¬∃ y ∈ past, Hits method y := by simpa using hpast
    rw [remaining, if_neg hnone] at harmed
    rw [hask] at hhits ⊢
    exact error?_of_hits (of_decide_eq_true hhits) harmed
  waits := by
    refine ⟨fun past x later hmoments hpast => ?_, fun hnone => ?_⟩
    · rw [(hh.before past x later hmoments).2, remaining, if_neg (by simpa using hpast)]
    · rw [hh.now, remaining, if_neg (by simpa using hnone)]
  spent := by
    intro past x later hmoments hhits
    refine ⟨fun y hy => ?_, ?_⟩
    · obtain ⟨between, rest, rfl⟩ := List.append_of_mem hy
      have hsplit : h.moments = (past ++ x :: between) ++ y :: rest := by simp [hmoments]
      obtain ⟨hask, hleft⟩ := hh.before _ y rest hsplit
      have hfired : ∃ z ∈ past ++ x :: between, Hits method z := ⟨x, by simp, hhits⟩
      rw [remaining, if_pos hfired] at hleft
      rw [disarmed_eq_self hleft]
      exact ⟨rfl, hask⟩
    · have hfired : ∃ z ∈ h.moments, Hits method z := ⟨x, by simp [hmoments], hhits⟩
      refine (disarmed_eq_self ?_).symm
      rw [hh.now, remaining, if_pos hfired]

/-- The operations of a history go on where it stands. -/
theorem History.foldl_extend (ops : List Operation) (h : History) :
    ops.foldl extend h =
      ⟨(of h.ledger ops).ledger, h.moments ++ (of h.ledger ops).moments⟩ := by
  induction ops generalizing h with
  | nil => simp [of]
  | cons op ops ih =>
      have hone : h.extend op =
          ⟨(extend { ledger := h.ledger } op).ledger,
            h.moments ++ (extend { ledger := h.ledger } op).moments⟩ := by
        cases op <;> simp [extend, talk]
      have hof : of h.ledger (op :: ops) =
          ops.foldl extend (extend { ledger := h.ledger } op) := rfl
      rw [List.foldl_cons, hof, ih (h.extend op), ih (extend { ledger := h.ledger } op), hone]
      simp

/-- A failure fires once, and only for its method: from the moment it is armed,
and as long as nobody arms the method again, the first submission of the method
that reaches the contract returns it; other submissions leave it armed; and
afterwards the contract behaves as one with no failure for the method.  To arm
the method again replaces the failure, if it has not fired by then. -/
theorem injected_failure_fires_once (l : Ledger) (method : String) (e : ClientError)
    (ops : List Operation) (hops : ∀ op ∈ ops, ¬op.Arms method) :
    let h := History.of (l.failNext method e) ops
    FiresOnce method e h ∧ ∀ e' more, (∀ op ∈ more, ¬op.Arms method) →
      let rearmed := History.of (h.ledger.failNext method e') more
      let whole := History.of (l.failNext method e) (ops ++ .failNext method e' :: more)
      FiresOnce method e' rearmed ∧ whole = ⟨rearmed.ledger, h.moments ++ rearmed.moments⟩ ∧
        ((∀ x ∈ h.moments, ¬Hits method x) →
          ∀ x, whole.moments.find? (Hits method ·) = some x → x.answer.error? = some e') := by
  intro h
  refine ⟨(Awaits.of l hops).firesOnce, fun e' more hmore => ?_⟩
  intro rearmed whole
  have hrearmed : FiresOnce method e' rearmed := (Awaits.of h.ledger hmore).firesOnce
  have hwhole : whole = ⟨rearmed.ledger, h.moments ++ rearmed.moments⟩ := by
    change History.of _ _ = _
    rw [History.of, List.foldl_append, List.foldl_cons]
    exact History.foldl_extend more _
  refine ⟨hrearmed, hwhole, fun hnone x hx => hrearmed.fires x ?_⟩
  rw [hwhole, List.find?_append, List.find?_eq_none.mpr (by simpa using hnone)] at hx
  exact hx

/-! A nomination is lost.  Before it the owner's key is missing, another contract
is named, and an acceptance runs into a failure of its own.  After it a whole
hand-over goes through. -/

def faultyContract : Contract := ⟨⟨9⟩⟩

def formerOwner : Signer := ⟨"owner", ⟨1⟩⟩

def beforeNomination : List Operation :=
  let nominate (c : Contract) : Query := .submit c (.setPendingOwner ⟨2⟩) ⟨formerOwner, Fee.default⟩
  [.ask (nominate faultyContract), .register ⟨1⟩, .register ⟨2⟩, .ask (nominate ⟨⟨8⟩⟩),
    .failNext "acceptOwnership" (.signing "locked"),
    .ask (.submit faultyContract .acceptOwnership ⟨formerOwner, Fee.default⟩)]

def handOverTwice : List Operation :=
  let epoch : Instant := ⟨1970, 1, 1, 0, 0, 0, 0⟩
  let transfer : Handoff.Errand :=
    .transfer ⟨"", epoch, epoch⟩ faultyContract formerOwner ⟨"nominee", ⟨2⟩⟩ Fee.default
  [.handOver transfer, .handOver transfer]

theorem lost_nomination_fires_once :
    let method := "setPendingOwner"
    let armed := (new ⟨9⟩ ⟨1⟩).failNext method (.transport "lost")
    let history := History.of armed (beforeNomination ++ handOverTwice)
    let rearmed := History.of armed
      (beforeNomination ++ .failNext method (.transport "lost again") :: handOverTwice)
    (∀ op ∈ beforeNomination ++ handOverTwice, ¬op.Arms method) ∧
      (∃ x, history.moments.find? (Hits method ·) = some x ∧
        x.answer.error? = some (.transport "lost")) ∧
      history.ledger.owner = ⟨2⟩ ∧ FiresOnce method (.transport "lost") history ∧
      ∃ x, rearmed.moments.find? (Hits method ·) = some x ∧
        x.answer.error? = some (.transport "lost again") := by
  intro method armed history rearmed
  have hops : ∀ op ∈ beforeNomination ++ handOverTwice, ¬op.Arms method := by decide +kernel
  have hfires := (injected_failure_fires_once (new ⟨9⟩ ⟨1⟩) method (.transport "lost")
    (beforeNomination ++ handOverTwice) hops).1
  obtain ⟨-, hreplaced⟩ := injected_failure_fires_once (new ⟨9⟩ ⟨1⟩) method (.transport "lost")
    beforeNomination fun op hop => hops op (List.mem_append_left _ hop)
  obtain ⟨-, -, hagain⟩ := hreplaced (.transport "lost again") handOverTwice
    fun op hop => hops op (List.mem_append_right _ hop)
  have hnone : ∀ x ∈ (History.of armed beforeNomination).moments, ¬Hits method x := by
    decide +kernel
  have hfirst : (history.moments.find? (Hits method ·)).isSome = true := by decide +kernel
  have hsecond : (rearmed.moments.find? (Hits method ·)).isSome = true := by decide +kernel
  obtain ⟨x, hx⟩ := Option.isSome_iff_exists.mp hfirst
  obtain ⟨y, hy⟩ := Option.isSome_iff_exists.mp hsecond
  exact ⟨hops, ⟨x, hx, hfires.fires x hx⟩, by decide +kernel, hfires, y, hy, hagain hnone y hy⟩

end TwoStep.Ledger
