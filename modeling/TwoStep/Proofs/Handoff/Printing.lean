import TwoStep.Proofs.Handoff.Course

/-!
# What a session prints

What stands on the standard output is what was printed there: records of the log
and texts for the other stream have no part in it.  A session `Prints` what its
value says if that is all there is on the standard output after a run, whoever
the client is.  The judgement has a rule for each way to make a session, so a
workflow is gone through as it is written.  The workflows print nothing by
themselves (`mute_transferOwnership`).
-/

namespace TwoStep

/-! ## The standard output -/

/-- The text that an output puts on the standard output. -/
def Output.out? : Output → Option String
  | .out text => some text
  | _ => none

/-- The texts that stand on the standard output, in order. -/
def stdout (os : List Output) : List String := os.filterMap Output.out?

@[simp] theorem stdout_append (os os' : List Output) :
    stdout (os ++ os') = stdout os ++ stdout os' :=
  List.filterMap_append

@[simp] theorem stdout_map_log (rs : List Log.Record) : stdout (rs.map Output.log) = [] := by
  simp [stdout, Output.out?]

theorem stdout_cons {o : Output} (ho : o.out? = none) (os : List Output) :
    stdout (o :: os) = stdout os :=
  List.filterMap_cons_none ho

namespace Session

variable {α β : Type} {text : α → List String}

/-- After a run, the standard output holds what the value says, and nothing else. -/
structure Prints (text : α → List String) (m : Session α) : Prop where
  stdout_run : ∀ {σ : Type} (client : Client σ) (s : σ),
    stdout (m.run client s).outputs = text (m.run client s).value

/-- Nothing is printed on the standard output. -/
def Mute (m : Session α) : Prop := m.Prints fun _ => []

theorem Prints.done {a : α} (h : text a = []) : Prints text (done a) :=
  ⟨fun _ _ => h.symm⟩

theorem Prints.emit {o : Output} (ho : o.out? = none) {m : Session α} (h : Prints text m) :
    Prints text (emit o m) where
  stdout_run := by
    intro σ client s
    rw [run, stdout_cons ho]
    exact h.stdout_run client s

theorem Prints.ask {q : Query} {next : q.Reply → Session α} (h : ∀ r, Prints text (next r)) :
    Prints text (ask q next) where
  stdout_run := by
    intro σ client s
    rw [run, stdout_append, stdout_map_log, List.nil_append]
    exact (h _).stdout_run client _

theorem Prints.bind {m : Session β} {f : β → Session α} (hm : Mute m)
    (hf : ∀ b, Prints text (f b)) : Prints text (m.bind f) where
  stdout_run := by
    intro σ client s
    rw [run_bind, stdout_append, hm.stdout_run client s, List.nil_append]
    exact (hf _).stdout_run client _

/-- A session may end with what it prints. -/
theorem Prints.last {t : String} {a : α} (h : text a = [t]) :
    Prints text (.emit (.out t) (.done a)) :=
  ⟨fun _ _ => h.symm⟩

theorem mute_say {o : Output} (h : o.out? = none) : Mute (say o) :=
  .emit h (.done rfl)

theorem mute_question (q : Query) : Mute (question q) :=
  .ask fun _ => .done rfl

theorem mute_sayAll {os : List Output} (h : ∀ o ∈ os, o.out? = none) : Mute (sayAll os) := by
  induction os with
  | nil => exact .done rfl
  | cons o os ih =>
      rw [List.forall_mem_cons] at h
      exact .emit h.1 (ih h.2)

end Session

open Session

namespace Handoff

/-! ## Workflows -/

theorem mute_resolve (a : Address) : (resolve a).Mute :=
  .bind (mute_question _) fun _ => .done rfl

theorem stdout_of_resolve {α : Type} (a : Address) (f : Except TransferError Contract → Session α)
    {σ : Type} (client : Client σ) (s : σ) :
    let turn := client (.contractAt a) s
    stdout (((resolve a).bind f).run client s).outputs =
      stdout ((f (turn.reply.mapError (.resolve a))).run client turn.state).outputs := by
  rw [run_bind, stdout_append, (mute_resolve a).stdout_run, List.nil_append]
  rfl

theorem mute_snapshot (c : Contract) : (snapshot c).Mute := by
  refine .bind (mute_question _) fun owner => ?_
  cases owner with
  | error e => exact .done rfl
  | ok owner =>
      refine .bind (mute_question _) fun pendingOwner => ?_
      cases pendingOwner <;> exact .done rfl

/-- A snapshot fails, or holds the answers to its two questions. -/
theorem snapshot_reads {σ : Type} (client : Client σ) (st : σ) (c : Contract) :
    (∃ e, ((snapshot c).run client st).value = .error e) ∨
    ∃ slots, ((snapshot c).run client st).value = .ok slots ∧ (snapshot c).answers client st =
      [⟨.owner c, .ok slots.owner⟩, ⟨.pendingOwner c, .ok slots.pendingOwner⟩] := by
  simp only [snapshot, question, bind_eq, bind_ask, bind_done, answers, run_ask_value,
    transcript_ask, List.map_cons, Moment.ask, Moment.answer]
  generalize client (.owner c) st = t1
  obtain ⟨e | owner, st1, -⟩ := t1
  · exact .inl ⟨_, rfl⟩
  simp only [run_ask_value, transcript_ask, List.map_cons, Moment.ask, Moment.answer]
  generalize client (.pendingOwner c) st1 = t2
  obtain ⟨e | pendingOwner, st2, -⟩ := t2
  · exact .inl ⟨_, rfl⟩
  · exact .inr ⟨⟨owner, pendingOwner⟩, rfl, rfl⟩

/-- The machine writes to the log. -/
theorem mute_advance (m : Machine) (e : Event) : (advance m e).Mute := by
  refine .bind (mute_sayAll ?_) fun _ => .done rfl
  simp [Output.out?]

theorem mute_inSpan {α : Type} (span : Log.Span) {m : Session α} (h : m.Mute) :
    (inSpan span m).Mute :=
  .bind (mute_say rfl) fun _ => .bind h fun _ => .bind (mute_say rfl) fun _ => .done rfl

section Followed

variable {μ : Type} {feed : μ → Event → Session μ} (hfeed : ∀ m e, (feed m e).Mute)

include hfeed

theorem mute_accept (m : μ) (c : Contract) (newOwner : Signer) (fee : Fee)
    (nominationTx : Option TxHash) : (accept feed m c newOwner fee nominationTx).Mute := by
  refine .bind (mute_question _) fun receipt => ?_
  cases receipt with
  | error e => exact .bind (hfeed ..) fun _ => .done rfl
  | ok receipt => exact .bind (hfeed ..) fun _ => .done rfl

theorem mute_transfer (phase : μ → Phase) (m : μ) (stamp : Stamp) (c : Contract)
    (currentOwner newOwner : Signer) (fee : Fee) :
    (transfer feed phase m stamp c currentOwner newOwner fee).Mute := by
  refine .bind (mute_snapshot c) fun slots => ?_
  cases slots with
  | error e => exact .done rfl
  | ok slots =>
      refine .bind (mute_say rfl) fun _ => .bind (hfeed ..) fun m => ?_
      refine .bind (mute_question _) fun nomination => ?_
      cases nomination with
      | error e => exact .bind (hfeed ..) fun _ => .done rfl
      | ok nomination =>
          refine .bind (hfeed ..) fun m => .bind (mute_accept hfeed ..) fun accepted => ?_
          obtain ⟨e | acceptance, m⟩ := accepted <;> exact .done rfl

end Followed

theorem mute_transferOwnership (stamp : Stamp) (c : Contract) (currentOwner newOwner : Signer)
    (fee : Fee) : (transferOwnership stamp c currentOwner newOwner fee).Mute :=
  mute_inSpan _ (.bind (mute_transfer mute_advance ..) fun _ => .done rfl)

/-- A report has the times of its run. -/
theorem report_times {σ : Type} {client : Client σ} {st : σ} {stamp : Stamp} {c : Contract}
    {currentOwner newOwner : Signer} {fee : Fee} {report : Report}
    (h : ((transferOwnership stamp c currentOwner newOwner fee).run client st).value =
      .ok report) :
    report.startedAt = stamp.startedAt ∧ report.finishedAt = stamp.finishedAt := by
  have hcourse := transferOwnership_course client st stamp c currentOwner newOwner fee
  rw [h] at hcourse
  generalize (transferOwnership stamp c currentOwner newOwner fee).answers client st = xs at hcourse
  cases hcourse with
  | completed => exact ⟨rfl, rfl⟩

end Handoff

end TwoStep
