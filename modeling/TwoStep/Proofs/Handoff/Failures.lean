import TwoStep.Proofs.Handoff.Phases

/-!
# The failure that a hand-over remembers

A machine keeps the reason of a call that failed.  What becomes of it depends
on how the hand-over goes on: beginning it anew forgets the reason, and so does
the acceptance of a stalled hand-over, but resuming it does not.

`Remembers` lists the histories with a failure on record, phase by phase, and
`failure_explained_by_history` says that there are no others.  A pending nomination
is not among them.  A hand-over that waits for its acceptance, or has it, is
among them in one way only: its nomination had failed, and then it was resumed
(`Remembers.carried`).  So "in progress" and "nothing failed" are not the same,
as `resumption_keeps_failure` shows.
-/

namespace TwoStep.Handoff

namespace Machine

variable {contract : Address} {reason : String} {m : Machine} {e : Event} {es : List Event}

/-! ## Histories with a failure -/

/-- A history after which a failure is on record in a phase. -/
inductive Remembers (contract : Address) (reason : String) : Phase → List Event → Prop where
  /-- A pending nomination failed, and nothing was started since. -/
  | nomination {before later : List Event}
      (pending : ((new contract).steps before).phase = .pendingNomination)
      (idle : ∀ e ∈ later, Phase.notStarted.takes e = false) :
      Remembers contract reason .notStarted (before ++ .nominationFailed reason :: later)
  /-- After that it was resumed, and still waits for its acceptance. -/
  | resumed {before later : List Event} (nominee : Address)
      (failed : Remembers contract reason .notStarted before)
      (waiting : ∀ e ∈ later, Phase.nominated.takes e = false) :
      Remembers contract reason .nominated (before ++ .resume nominee :: later)
  /-- And then it was accepted. -/
  | accepted {before : List Event} (tx : TxHash) (later : List Event)
      (resumed : Remembers contract reason .nominated before) :
      Remembers contract reason .accepted (before ++ .acceptanceFinalized tx :: later)
  /-- The acceptance of a nominee failed, and none followed. -/
  | acceptance {before later : List Event}
      (nominated : ((new contract).steps before).phase = .nominated)
      (stalled : ∀ e ∈ later, Phase.stalled.takes e = false) :
      Remembers contract reason .stalled (before ++ .acceptanceFailed reason :: later)

namespace Remembers

variable {phase : Phase}

theorem on_record (h : Remembers contract reason phase es) :
    ((new contract).steps es).phase = phase ∧
      ((new contract).steps es).lastFailure = some reason := by
  induction h with
  | @nomination before later pending idle =>
      generalize hm : (new contract).steps before = m at pending
      have hstep : m.step (.nominationFailed reason) =
          { m with phase := .notStarted, lastFailure := some reason, pendingOwner := none } := by
        simp only [step, pending]
      rw [steps_append, steps_cons, hm, hstep, steps_of_not_takes idle]
      exact ⟨rfl, rfl⟩
  | @resumed before later nominee _ waiting ih =>
      obtain ⟨hphase, hfailure⟩ := ih
      generalize hm : (new contract).steps before = m at hphase hfailure
      have hstep : m.step (.resume nominee) =
          { m with phase := .nominated, pendingOwner := some nominee } := by
        simp only [step, hphase]
      rw [steps_append, steps_cons, hm, hstep, steps_of_not_takes waiting]
      exact ⟨rfl, hfailure⟩
  | @accepted before tx later _ ih =>
      obtain ⟨hphase, hfailure⟩ := ih
      generalize hm : (new contract).steps before = m at hphase hfailure
      have hstep : m.step (.acceptanceFinalized tx) =
          { m with phase := .accepted, acceptanceTx := some tx } := by
        simp only [step, hphase]
      rw [steps_append, steps_cons, hm, hstep, steps_of_accepted rfl]
      exact ⟨rfl, hfailure⟩
  | @acceptance before later nominated stalled =>
      generalize hm : (new contract).steps before = m at nominated
      have hstep : m.step (.acceptanceFailed reason) =
          { m with phase := .stalled, lastFailure := some reason } := by
        simp only [step, nominated]
      rw [steps_append, steps_cons, hm, hstep, steps_of_not_takes stalled]
      exact ⟨rfl, rfl⟩

/-- What a phase takes no notice of leaves the failure on record. -/
theorem concat (h : Remembers contract reason phase es) (he : phase.takes e = false) :
    Remembers contract reason phase (es ++ [e]) := by
  cases h with
  | nomination pending idle =>
      rw [List.append_assoc, List.cons_append]
      exact .nomination pending (forall_mem_concat idle he)
  | resumed nominee failed waiting =>
      rw [List.append_assoc, List.cons_append]
      exact .resumed nominee failed (forall_mem_concat waiting he)
  | accepted tx later resumed =>
      rw [List.append_assoc, List.cons_append]
      exact .accepted tx (later ++ [e]) resumed
  | acceptance nominated stalled =>
      rw [List.append_assoc, List.cons_append]
      exact .acceptance nominated (forall_mem_concat stalled he)

/-- A failure on record while a hand-over is under way or done was carried
over by a resumption. -/
theorem carried (h : Remembers contract reason phase es) (hphase : phase ≠ .notStarted)
    (hstalled : phase ≠ .stalled) :
    ∃ before nominee after, es = before ++ .resume nominee :: after ∧
      Remembers contract reason .notStarted before := by
  induction h with
  | nomination => exact absurd rfl hphase
  | resumed nominee failed _ => exact ⟨_, nominee, _, rfl, failed⟩
  | accepted tx later _ ih =>
      obtain ⟨before, nominee, after, rfl, failed⟩ := ih (by decide) (by decide)
      exact ⟨before, nominee, after ++ .acceptanceFinalized tx :: later, by simp, failed⟩
  | acceptance => exact absurd rfl hstalled

end Remembers

/-! ## No other histories -/

/-- One more event keeps the failure on record, or is the failure, or forgets
it. -/
theorem remembers_step
    (ih : ∀ r, ((new contract).steps es).lastFailure = some r →
      Remembers contract r ((new contract).steps es).phase es)
    (h : (((new contract).steps es).step e).lastFailure = some reason) :
    Remembers contract reason (((new contract).steps es).step e).phase (es ++ [e]) := by
  generalize hm : (new contract).steps es = m at ih h
  by_cases htakes : m.phase.takes e = false
  case pos =>
    rw [step_of_not_takes htakes] at h ⊢
    exact (ih reason h).concat htakes
  cases hphase : m.phase with
  | notStarted =>
      rw [hphase] at htakes ih
      cases e with
      | begin a => simp [step, hphase] at h
      | resume a =>
          simp only [step, hphase] at h ⊢
          exact .resumed a (ih reason h) (by simp)
      | _ => exact absurd rfl htakes
  | pendingNomination =>
      rw [hphase] at htakes ih
      cases e with
      | nominationFinalized tx =>
          simp only [step, hphase] at h
          cases ih reason h
      | nominationFailed r =>
          simp only [step, hphase] at h ⊢
          obtain rfl := Option.some.inj h
          exact .nomination (by rw [hm, hphase]) (by simp)
      | _ => exact absurd rfl htakes
  | nominated =>
      rw [hphase] at htakes ih
      cases e with
      | acceptanceFinalized tx =>
          simp only [step, hphase] at h ⊢
          exact .accepted tx [] (ih reason h)
      | acceptanceFailed r =>
          simp only [step, hphase] at h ⊢
          obtain rfl := Option.some.inj h
          exact .acceptance (by rw [hm, hphase]) (by simp)
      | _ => exact absurd rfl htakes
  | stalled =>
      rw [hphase] at htakes
      cases e with
      | acceptanceFinalized tx => simp [step, hphase] at h
      | _ => exact absurd rfl htakes
  | accepted =>
      rw [hphase] at htakes
      exact absurd rfl htakes

theorem remembers_of_lastFailure (contract : Address) (es : List Event) (reason : String)
    (h : ((new contract).steps es).lastFailure = some reason) :
    Remembers contract reason ((new contract).steps es).phase es := by
  induction es using List.reverseRecOn generalizing reason with
  | nil => cases h
  | append_singleton es e ih =>
      rw [steps_append] at h ⊢
      exact remembers_step ih h

/-- The failure that a hand-over has on record is the one its history leaves
there.  None is on record while a nomination is pending; and one that is on
record while a nominee is waited for, or has accepted, was there when the
hand-over was resumed. -/
theorem failure_explained_by_history (contract : Address) (es : List Event) :
    let m := (new contract).steps es
    (∀ reason, m.lastFailure = some reason ↔ Remembers contract reason m.phase es) ∧
    (m.phase = .pendingNomination → m.lastFailure = none) ∧
    (m.phase = .nominated ∨ m.phase = .accepted → ∀ reason, m.lastFailure = some reason →
      ∃ before nominee after, es = before ++ .resume nominee :: after ∧
        ((new contract).steps before).phase = .notStarted ∧
        ((new contract).steps before).lastFailure = some reason) := by
  intro m
  have hremembers : ∀ reason, m.lastFailure = some reason ↔ Remembers contract reason m.phase es :=
    fun reason => ⟨remembers_of_lastFailure contract es reason, fun h => h.on_record.2⟩
  refine ⟨hremembers, fun hphase => ?_, fun hphase reason hfailure => ?_⟩
  · rw [Option.eq_none_iff_forall_ne_some]
    intro reason hfailure
    have hpending := (hremembers reason).mp hfailure
    rw [hphase] at hpending
    cases hpending
  · have hrecord := (hremembers reason).mp hfailure
    obtain ⟨before, nominee, after, hes, hfailed⟩ :=
      hrecord.carried (by rintro h; simp [h] at hphase) (by rintro h; simp [h] at hphase)
    exact ⟨before, nominee, after, hes, hfailed.on_record⟩

/-- A nomination that failed, and then a resumption: the nominee is waited for
with the failure still on record. -/
theorem resumption_keeps_failure :
    ¬∀ contract es, ((new contract).steps es).phase ∈ [.pendingNomination, .nominated, .accepted] →
      ((new contract).steps es).lastFailure = none := by
  intro h
  have hnone := h ⟨9⟩ [.begin ⟨2⟩, .nominationFailed "connection reset", .resume ⟨2⟩] (by decide)
  cases hnone

end Machine

end TwoStep.Handoff
