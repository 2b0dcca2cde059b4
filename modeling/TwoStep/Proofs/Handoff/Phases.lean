import Mathlib.Data.List.Induction
import TwoStep.Handoff.Phase

/-!
# A hand-over and its history

The machine that follows a hand-over ignores what does not belong to its
phase, so its state says little about the last event and much about a few
events of its history: the one that started the present attempt, the verdict
on the nomination, and the acceptance.

`Account` writes the machine out in full, phase by phase, next to the history
that accounts for it.  `Account.step` is the one case analysis over phases and
events; `account_steps` carries it along every history, and what a phase says
about the fields is read off the constructors.  In the other direction
`Completed.account` follows the machine along a history in which a nominee
accepted.  Together they decide which histories end in an acceptance, and with
which fields.
-/

namespace TwoStep.Handoff

/-! ## Events that matter -/

/-- The two verdicts on a pending nomination. -/
def Event.isVerdict : Event → Bool
  | .nominationFinalized _ => true
  | .nominationFailed _ => true
  | _ => false

/-- The acceptance of a standing nomination. -/
def Event.isAcceptance : Event → Bool
  | .acceptanceFinalized _ => true
  | _ => false

/-- The events that a phase takes notice of. -/
def Phase.takes : Phase → Event → Bool
  | .notStarted, .begin _ => true
  | .notStarted, .resume _ => true
  | .pendingNomination, e => e.isVerdict
  | .nominated, .acceptanceFailed _ => true
  | .nominated, e => e.isAcceptance
  | .stalled, e => e.isAcceptance
  | _, _ => false

namespace Machine

theorem steps_append (m : Machine) (es later : List Event) :
    m.steps (es ++ later) = (m.steps es).steps later :=
  List.foldl_append

theorem steps_cons (m : Machine) (e : Event) (es : List Event) :
    m.steps (e :: es) = (m.step e).steps es := rfl

/-! ## Histories and their machines -/

/-- A history that left a nominee waiting: out of the first phase the hand-over
was resumed, or it was begun and the first verdict confirmed the nomination;
and nothing was accepted since. -/
inductive Nominated (contract nominee : Address) : Option TxHash → List Event → Prop where
  | resumed {before middle : List Event}
      (idle : ((new contract).steps before).phase = .notStarted)
      (waiting : ∀ e ∈ middle, e.isAcceptance = false) :
      Nominated contract nominee none (before ++ .resume nominee :: middle)
  | confirmed {before pending middle : List Event} {tx : TxHash}
      (idle : ((new contract).steps before).phase = .notStarted)
      (undecided : ∀ e ∈ pending, e.isVerdict = false)
      (waiting : ∀ e ∈ middle, e.isAcceptance = false) :
      Nominated contract nominee (some tx)
        (before ++ .begin nominee :: (pending ++ .nominationFinalized tx :: middle))

/-- A history in which a waiting nominee accepted. -/
def Completed (contract nominee : Address) (nominationTx : Option TxHash) (acceptanceTx : TxHash)
    (es : List Event) : Prop :=
  ∃ before after, es = before ++ .acceptanceFinalized acceptanceTx :: after ∧
    Nominated contract nominee nominationTx before

/-- A machine with a nominee that has not accepted yet. -/
inductive Awaits (contract nominee : Address) (tx : Option TxHash) : Machine → Prop where
  | nominated (failure : Option String) :
      Awaits contract nominee tx ⟨contract, .nominated, some nominee, tx, none, failure⟩
  | stalled (failure : String) :
      Awaits contract nominee tx ⟨contract, .stalled, some nominee, tx, none, some failure⟩

/-- The machine in full, with the history that accounts for it. -/
inductive Account (contract : Address) : List Event → Machine → Prop where
  | notStarted (es : List Event) (failure : Option String) :
      Account contract es ⟨contract, .notStarted, none, none, none, failure⟩
  | pendingNomination {before pending : List Event} (nominee : Address)
      (idle : ((new contract).steps before).phase = .notStarted)
      (undecided : ∀ e ∈ pending, e.isVerdict = false) :
      Account contract (before ++ .begin nominee :: pending)
        ⟨contract, .pendingNomination, some nominee, none, none, none⟩
  | awaiting {es : List Event} {nominee : Address} {tx : Option TxHash} {m : Machine}
      (nominated : Nominated contract nominee tx es) (awaits : Awaits contract nominee tx m) :
      Account contract es m
  | accepted {es : List Event} {nominee : Address} {tx : Option TxHash} {acceptance : TxHash}
      (completed : Completed contract nominee tx acceptance es) (failure : Option String) :
      Account contract es ⟨contract, .accepted, some nominee, tx, some acceptance, failure⟩

variable {contract nominee : Address} {tx : Option TxHash} {es : List Event} {m : Machine}

/-! ## One more event in a history -/

theorem forall_mem_concat {p : Event → Bool} {e : Event} (hes : ∀ x ∈ es, p x = false)
    (he : p e = false) : ∀ x ∈ es ++ [e], p x = false := by
  intro x hx
  rcases List.mem_append.mp hx with hold | hnew
  · exact hes x hold
  · obtain rfl := List.mem_singleton.mp hnew
    exact he

theorem Nominated.concat (h : Nominated contract nominee tx es) {e : Event}
    (he : e.isAcceptance = false) : Nominated contract nominee tx (es ++ [e]) := by
  cases h with
  | resumed idle waiting =>
      rw [List.append_assoc, List.cons_append]
      exact .resumed idle (forall_mem_concat waiting he)
  | confirmed idle undecided waiting =>
      rw [List.append_assoc, List.cons_append, List.append_assoc, List.cons_append]
      exact .confirmed idle undecided (forall_mem_concat waiting he)

theorem Completed.concat {acceptance : TxHash} (h : Completed contract nominee tx acceptance es)
    (e : Event) : Completed contract nominee tx acceptance (es ++ [e]) := by
  obtain ⟨before, after, rfl, hnominated⟩ := h
  exact ⟨before, after ++ [e], by simp, hnominated⟩

/-! ## One more event in the machine -/

theorem Awaits.step (h : Awaits contract nominee tx m) {e : Event}
    (he : e.isAcceptance = false) : Awaits contract nominee tx (m.step e) := by
  cases h with
  | nominated failure =>
      cases e with
      | acceptanceFinalized => cases he
      | acceptanceFailed reason => exact .stalled reason
      | _ => exact .nominated failure
  | stalled failure =>
      cases e with
      | acceptanceFinalized => cases he
      | _ => exact .stalled failure

theorem Awaits.steps (h : Awaits contract nominee tx m) {es : List Event}
    (hes : ∀ e ∈ es, e.isAcceptance = false) : Awaits contract nominee tx (m.steps es) := by
  induction es generalizing m with
  | nil => exact h
  | cons e es ih =>
      obtain ⟨he, hes⟩ := List.forall_mem_cons.mp hes
      exact ih (h.step he) hes

theorem Awaits.accept (h : Awaits contract nominee tx m) (acceptance : TxHash) :
    ∃ failure, m.step (.acceptanceFinalized acceptance) =
      ⟨contract, .accepted, some nominee, tx, some acceptance, failure⟩ := by
  cases h with
  | nominated failure => exact ⟨failure, rfl⟩
  | stalled failure => exact ⟨none, rfl⟩

/-- An event is ignored, and then only lengthens the part of the history that
it falls into, or it is the next of the events that account for the machine. -/
theorem Account.step (h : Account contract es ((new contract).steps es)) (e : Event) :
    Account contract (es ++ [e]) (((new contract).steps es).step e) := by
  generalize hm : (new contract).steps es = m at h
  cases h with
  | notStarted _ failure =>
      have hidle : ((new contract).steps es).phase = .notStarted := by rw [hm]
      cases e with
      | begin a => exact .pendingNomination a hidle (by simp)
      | resume a => exact .awaiting (.resumed hidle (by simp)) (.nominated failure)
      | _ => exact .notStarted _ failure
  | pendingNomination nominee idle undecided =>
      cases e with
      | nominationFinalized tx =>
          rw [List.append_assoc, List.cons_append]
          exact .awaiting (.confirmed idle undecided (by simp)) (.nominated none)
      | nominationFailed reason => exact .notStarted _ (some reason)
      | _ =>
          rw [List.append_assoc, List.cons_append]
          exact .pendingNomination nominee idle (forall_mem_concat undecided rfl)
  | awaiting hnominated hawaits =>
      cases e with
      | acceptanceFinalized acceptance =>
          obtain ⟨failure, hstep⟩ := hawaits.accept acceptance
          rw [hstep]
          exact .accepted ⟨es, [], rfl, hnominated⟩ failure
      | _ => exact .awaiting (hnominated.concat rfl) (hawaits.step rfl)
  | accepted hcompleted failure => exact .accepted (hcompleted.concat e) failure

/-- Every history accounts for the machine it leads to. -/
theorem account_steps (contract : Address) (es : List Event) :
    Account contract es ((new contract).steps es) := by
  induction es using List.reverseRecOn with
  | nil => exact .notStarted [] none
  | append_singleton es e ih =>
      rw [steps_append]
      exact ih.step e

/-! ## From a history to its machine -/

theorem steps_of_idle {before : List Event}
    (idle : ((new contract).steps before).phase = .notStarted) :
    ∃ failure, (new contract).steps before =
      ⟨contract, .notStarted, none, none, none, failure⟩ := by
  have haccount := account_steps contract before
  generalize (new contract).steps before = m at haccount idle
  cases haccount with
  | notStarted _ failure => exact ⟨failure, rfl⟩
  | pendingNomination => cases idle
  | awaiting _ hawaits => cases hawaits <;> cases idle
  | accepted => cases idle

theorem step_of_not_takes {e : Event} (h : m.phase.takes e = false) : m.step e = m := by
  unfold step
  split
  case h_8 => rfl
  -- the other cases are the transitions, and each of them takes its event
  all_goals
    rename_i hphase
    rw [hphase] at h
    cases h

theorem steps_of_not_takes (h : ∀ e ∈ es, m.phase.takes e = false) : m.steps es = m := by
  induction es with
  | nil => rfl
  | cons e es ih =>
      obtain ⟨he, hes⟩ := List.forall_mem_cons.mp h
      rw [steps_cons, step_of_not_takes he, ih hes]

theorem steps_of_undecided (h : m.phase = .pendingNomination) {pending : List Event}
    (undecided : ∀ e ∈ pending, e.isVerdict = false) : m.steps pending = m := by
  refine steps_of_not_takes fun e he => ?_
  rw [h]
  exact undecided e he

theorem steps_of_accepted (h : m.phase = .accepted) (later : List Event) : m.steps later = m := by
  refine steps_of_not_takes fun e _ => ?_
  rw [h]
  rfl

theorem Nominated.awaits (h : Nominated contract nominee tx es) :
    Awaits contract nominee tx ((new contract).steps es) := by
  cases h with
  | resumed idle waiting =>
      obtain ⟨failure, hbefore⟩ := steps_of_idle idle
      rw [steps_append, hbefore, steps_cons]
      exact Awaits.steps (.nominated failure) waiting
  | confirmed idle undecided waiting =>
      obtain ⟨failure, hbefore⟩ := steps_of_idle idle
      rw [steps_append, hbefore, steps_cons, steps_append, steps_of_undecided rfl undecided,
        steps_cons]
      exact Awaits.steps (.nominated none) waiting

theorem Completed.account {acceptance : TxHash} (h : Completed contract nominee tx acceptance es) :
    ∃ failure, (new contract).steps es =
      ⟨contract, .accepted, some nominee, tx, some acceptance, failure⟩ := by
  obtain ⟨before, after, rfl, hnominated⟩ := h
  obtain ⟨failure, hstep⟩ := hnominated.awaits.accept acceptance
  refine ⟨failure, ?_⟩
  rw [steps_append, steps_cons, hstep]
  exact steps_of_accepted rfl after

/-! ## Hashes stay -/

/-- What each event keeps of the machines that histories lead to, any further
history keeps. -/
theorem steps_keep {P : Machine → Prop}
    (hstep : ∀ es m e, Account contract es m → P m → P (m.step e)) (es later : List Event)
    (h : P ((new contract).steps es)) : P (((new contract).steps es).steps later) := by
  rw [← steps_append]
  induction later using List.reverseRecOn with
  | nil => rwa [List.append_nil]
  | append_singleton later e ih =>
      rw [← List.append_assoc, steps_append]
      exact hstep _ _ e (account_steps contract _) ih

theorem Account.nominationTx_step (h : Account contract es m) (e : Event) {tx : TxHash}
    (htx : m.nominationTx = some tx) : (m.step e).nominationTx = some tx := by
  cases h with
  | notStarted => cases htx
  | pendingNomination => cases htx
  | awaiting _ hawaits => cases hawaits <;> cases e <;> exact htx
  | accepted => exact htx

theorem Account.acceptanceTx_step (h : Account contract es m) (e : Event) {tx : TxHash}
    (htx : m.acceptanceTx = some tx) : (m.step e).acceptanceTx = some tx := by
  cases h with
  | notStarted => cases htx
  | pendingNomination => cases htx
  | awaiting _ hawaits => cases hawaits <;> cases htx
  | accepted => exact htx

/-! ## What a history explains -/

/-- What the phase of a machine says about its fields, and the history about
both. -/
structure Explained (contract : Address) (es : List Event) (m : Machine) : Prop where
  sameContract : m.contract = contract
  notStarted : m.phase = .notStarted →
    m.pendingOwner = none ∧ m.nominationTx = none ∧ m.acceptanceTx = none
  pendingNomination : m.phase = .pendingNomination →
    (∃ nominee, m.pendingOwner = some nominee) ∧ m.nominationTx = none ∧ m.acceptanceTx = none
  nominated : m.phase = .nominated →
    (∃ nominee, m.pendingOwner = some nominee) ∧ m.acceptanceTx = none
  stalled : m.phase = .stalled →
    (∃ nominee, m.pendingOwner = some nominee) ∧ m.acceptanceTx = none ∧
      ∃ failure, m.lastFailure = some failure
  accepted : m.phase = .accepted →
    ∃ nominee acceptance, m.pendingOwner = some nominee ∧ m.acceptanceTx = some acceptance ∧
      Completed contract nominee m.nominationTx acceptance es
  /-- A history in which a nominee accepted leads to no other machine. -/
  completed : ∀ nominee tx acceptance, Completed contract nominee tx acceptance es →
    m.phase = .accepted ∧ m.pendingOwner = some nominee ∧ m.nominationTx = tx ∧
      m.acceptanceTx = some acceptance

theorem Account.explained (h : Account contract es m)
    (hcompleted : ∀ nominee tx acceptance, Completed contract nominee tx acceptance es →
      ∃ failure, m = ⟨contract, .accepted, some nominee, tx, some acceptance, failure⟩) :
    Explained contract es m where
  sameContract := by
    cases h with
    | awaiting _ hawaits => cases hawaits <;> rfl
    | _ => rfl
  notStarted := by
    cases h with
    | awaiting _ hawaits => cases hawaits <;> simp
    | _ => simp
  pendingNomination := by
    cases h with
    | awaiting _ hawaits => cases hawaits <;> simp
    | _ => simp
  nominated := by
    cases h with
    | awaiting _ hawaits => cases hawaits <;> simp
    | _ => simp
  stalled := by
    cases h with
    | awaiting _ hawaits => cases hawaits <;> simp
    | _ => simp
  accepted := by
    intro hphase
    cases h with
    | awaiting _ hawaits => cases hawaits <;> cases hphase
    | accepted hes => exact ⟨_, _, rfl, rfl, hes⟩
    | _ => cases hphase
  completed := by
    intro nominee tx acceptance hes
    obtain ⟨failure, rfl⟩ := hcompleted nominee tx acceptance hes
    exact ⟨rfl, rfl, rfl, rfl⟩

/-- Whatever events a new hand-over is given, in whatever order, its history
explains its phase and its fields.  Once it is accepted nothing changes any
more, and a hash that is set stays. -/
theorem explained_by_history (contract : Address) (es : List Event) :
    let m := (new contract).steps es
    Explained contract es m ∧ ∀ later,
      (m.phase = .accepted → m.steps later = m) ∧
      (∀ tx, m.nominationTx = some tx → (m.steps later).nominationTx = some tx) ∧
      (∀ tx, m.acceptanceTx = some tx → (m.steps later).acceptanceTx = some tx) := by
  refine ⟨(account_steps contract es).explained fun nominee tx acceptance h => h.account,
    fun later => ⟨fun h => steps_of_accepted h later, fun tx htx => ?_, fun tx htx => ?_⟩⟩
  · exact steps_keep (P := fun m => m.nominationTx = some tx)
      (fun _ _ e h => h.nominationTx_step e) es later htx
  · exact steps_keep (P := fun m => m.acceptanceTx = some tx)
      (fun _ _ e h => h.acceptanceTx_step e) es later htx

end Machine

end TwoStep.Handoff
