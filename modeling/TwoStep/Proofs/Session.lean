import TwoStep.Chain.Session

/-!
# Sessions, question by question

`Session.run` keeps the questions of a run and forgets the replies.  The
transcript of a run keeps for each question also the state the client was in
and the reply it gave, so that what a run did can be read off entry by entry.
`map_query_transcript` says that the two agree on the questions.

What a session prints has no bearing on what it asks and returns, so
statements about a workflow are made about its `quiet` form, which is little
more than its questions.  `transcript_invariant` is the induction behind every
statement about a run: what one question preserves, a whole session preserves.
-/

namespace TwoStep

/-! ## Transcripts -/

/-- A question with its reply. -/
abbrev Answer := (q : Query) × q.Reply

/-- A question at the moment it was asked: the state of the client and the
reply it gave. -/
structure Moment (σ : Type) where
  state : σ
  query : Query
  reply : query.Reply

namespace Moment

variable {σ : Type}

/-- The moment at which a client in a given state is asked a question. -/
def ask (client : Client σ) (s : σ) (q : Query) : Moment σ :=
  ⟨s, q, (client q s).reply⟩

/-- What an outsider sees of a moment. -/
def answer (x : Moment σ) : Answer := ⟨x.query, x.reply⟩

end Moment

/-- The client's error, if the question failed. -/
def Answer.error? : Answer → Option ClientError
  | ⟨.contractAt _, .error e⟩ => some e
  | ⟨.owner _, .error e⟩ => some e
  | ⟨.pendingOwner _, .error e⟩ => some e
  | ⟨.submit .., .error e⟩ => some e
  | _ => none

namespace Session

variable {σ α β : Type}

/-- The questions of a session in order, each at its moment. -/
def transcript (client : Client σ) : Session α → σ → List (Moment σ)
  | .done _, _ => []
  | .emit _ rest, s => rest.transcript client s
  | .ask q next, s =>
    let turn := client q s
    Moment.ask client s q :: (next turn.reply).transcript client turn.state

/-- The questions with their replies. -/
def answers (client : Client σ) (session : Session α) (s : σ) : List Answer :=
  (session.transcript client s).map Moment.answer

theorem map_query_transcript (client : Client σ) (session : Session α) (s : σ) :
    (session.transcript client s).map Moment.query = (session.run client s).asked := by
  induction session generalizing s with
  | done a => rfl
  | emit o rest ih => exact ih s
  | ask q next ih =>
      simp only [transcript, run, List.map_cons, ih]
      rfl

theorem map_fst_answers (client : Client σ) (session : Session α) (s : σ) :
    (session.answers client s).map Sigma.fst = (session.run client s).asked := by
  rw [← map_query_transcript, answers, List.map_map]
  rfl

/-! ## The laws of a run -/

section Laws

variable (client : Client σ) (s : σ)

@[simp] theorem bind_eq (m : Session α) (f : α → Session β) : m >>= f = m.bind f := rfl

@[simp] theorem pure_eq (a : α) : (pure a : Session α) = .done a := rfl

@[simp] theorem map_eq (f : α → β) (m : Session α) :
    f <$> m = m.bind fun a => .done (f a) := rfl

@[simp] theorem bind_done (a : α) (f : α → Session β) : (done a).bind f = f a := rfl

@[simp] theorem bind_ask (q : Query) (next : q.Reply → Session α) (f : α → Session β) :
    (ask q next).bind f = ask q fun r => (next r).bind f := rfl

theorem bind_assoc {γ : Type} (m : Session α) (f : α → Session β) (g : β → Session γ) :
    (m.bind f).bind g = m.bind fun a => (f a).bind g := by
  induction m with
  | done a => rfl
  | emit o rest ih => exact congrArg (emit o) ih
  | ask q next ih => exact congrArg (ask q) (funext ih)

@[simp] theorem run_done (a : α) : (done a).run client s = ⟨a, s, [], []⟩ := rfl

@[simp] theorem run_ask_value (q : Query) (next : q.Reply → Session α) :
    ((ask q next).run client s).value =
      ((next (client q s).reply).run client (client q s).state).value := rfl

@[simp] theorem run_ask_state (q : Query) (next : q.Reply → Session α) :
    ((ask q next).run client s).state =
      ((next (client q s).reply).run client (client q s).state).state := rfl

/-- A session that goes on with another goes on from where it ends. -/
theorem run_bind (m : Session α) (f : α → Session β) (s : σ) :
    (m.bind f).run client s =
      let r := m.run client s
      let r' := (f r.value).run client r.state
      ⟨r'.value, r'.state, r.outputs ++ r'.outputs, r.asked ++ r'.asked⟩ := by
  induction m generalizing s with
  | done a => rfl
  | emit o rest ih => simp only [bind, run, ih, List.cons_append]
  | ask q next ih => simp only [bind, run, ih, List.cons_append, List.append_assoc]

@[simp] theorem transcript_done (a : α) : (done a).transcript client s = [] := rfl

@[simp] theorem transcript_ask (q : Query) (next : q.Reply → Session α) :
    (ask q next).transcript client s =
      Moment.ask client s q ::
        (next (client q s).reply).transcript client (client q s).state := rfl

/-- The questions of a session that goes on with another are asked in turn. -/
theorem transcript_bind (m : Session α) (f : α → Session β) (s : σ) :
    (m.bind f).transcript client s =
      m.transcript client s ++
        (f (m.run client s).value).transcript client (m.run client s).state := by
  induction m generalizing s with
  | done a => rfl
  | emit o rest ih => exact ih s
  | ask q next ih =>
      simp only [bind_ask, transcript_ask, ih, List.cons_append, run_ask_value, run_ask_state]

end Laws

/-! ## Without the printing -/

/-- The questions of a session, with all printing left out. -/
@[simp] def quiet : Session α → Session α
  | .done a => .done a
  | .emit _ rest => rest.quiet
  | .ask q next => .ask q fun r => (next r).quiet

section Quiet

variable (client : Client σ)

theorem run_quiet_value (m : Session α) (s : σ) :
    (m.quiet.run client s).value = (m.run client s).value := by
  induction m generalizing s with
  | done a => rfl
  | emit o rest ih => exact ih s
  | ask q next ih => exact ih _ _

theorem run_quiet_state (m : Session α) (s : σ) :
    (m.quiet.run client s).state = (m.run client s).state := by
  induction m generalizing s with
  | done a => rfl
  | emit o rest ih => exact ih s
  | ask q next ih => exact ih _ _

theorem transcript_quiet (m : Session α) (s : σ) :
    m.quiet.transcript client s = m.transcript client s := by
  induction m generalizing s with
  | done a => rfl
  | emit o rest ih => exact ih s
  | ask q next ih => simp only [quiet, transcript_ask, ih]

end Quiet

@[simp] theorem quiet_bind (m : Session α) (f : α → Session β) :
    (m.bind f).quiet = m.quiet.bind fun a => (f a).quiet := by
  induction m with
  | done a => rfl
  | emit o rest ih => exact ih
  | ask q next ih => simp only [bind_ask, quiet, ih]

@[simp] theorem quiet_sayAll (os : List Output) : (sayAll os).quiet = done () := by
  induction os with
  | nil => rfl
  | cons o rest ih => exact ih

theorem answers_quiet (client : Client σ) (m : Session α) (s : σ) :
    m.quiet.answers client s = m.answers client s := by
  rw [answers, transcript_quiet, answers]

/-- What only prints in front of a session has no part in its answers. -/
theorem answers_sayAll_bind (client : Client σ) (os : List Output) (f : Unit → Session α) (s : σ) :
    ((sayAll os).bind f).answers client s = (f ()).answers client s := by
  rw [← answers_quiet, quiet_bind, quiet_sayAll, bind_done, answers_quiet]

/-- Nor has what only prints behind it. -/
theorem answers_bind_of_quiet (client : Client σ) (m : Session α) {f : α → Session β}
    (h : ∀ a, ∃ b, (f a).quiet = done b) (s : σ) :
    (m.bind f).answers client s = m.answers client s := by
  obtain ⟨b, hb⟩ := h (m.run client s).value
  rw [answers, transcript_bind, ← transcript_quiet client (f _), hb, transcript_done,
    List.append_nil, answers]

/-! ## Invariants of a run -/

/-- What every question preserves, a session preserves.  The invariant may
speak of everything asked so far and of the client's present state. -/
theorem transcript_invariant {client : Client σ} {I : List (Moment σ) → σ → Prop}
    (step : ∀ past s q, I past s → I (past ++ [Moment.ask client s q]) (client q s).state)
    (session : Session α) {past : List (Moment σ)} {s : σ} (h : I past s) :
    I (past ++ session.transcript client s) (session.run client s).state := by
  induction session generalizing past s with
  | done a =>
      rw [transcript_done, run_done, List.append_nil]
      exact h
  | emit o rest ih => exact ih h
  | ask q next ih =>
      have hnext := ih (client q s).reply (step past s q h)
      simpa using hnext

end Session

end TwoStep
