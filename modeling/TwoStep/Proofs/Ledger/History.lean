import TwoStep.Proofs.Handoff.Course
import TwoStep.Proofs.Ledger.Submission

/-!
# Histories of a ledger

A history is a ledger with everything it was asked on the way, each question
at its moment.  It is made by operations: registering a key, arming a failure,
asking a question (a submission among them), and running a whole workflow.
However the operations are mixed, only three things ever happen to a history,
and `Kept.of` turns what these three keep into a statement about all
histories.

The slots are explained by the calls that went through (`Explains`): the
owner is whoever accepted last, the pending owner is whoever was nominated
last and has not accepted yet, owners nominate, and whoever accepts was
nominated by the call before.  `slots_explained` says so of every history of a
fresh ledger.
-/

namespace TwoStep.Ledger

/-! ## Operations and histories -/

/-- What can be done to a ledger from outside. -/
inductive Operation where
  | register (a : Address)
  | failNext (method : String) (e : ClientError)
  | ask (q : Query)
  | handOver (e : Handoff.Errand)

/-- A ledger, and the questions it was asked so far. -/
structure History where
  ledger : Ledger
  moments : List (Moment Ledger) := []

namespace History

/-- Goes on with a session. -/
def talk {α : Type} (h : History) (session : Session α) : History :=
  ⟨(session.run client h.ledger).state, h.moments ++ session.transcript client h.ledger⟩

/-- Goes on with an operation. -/
def extend (h : History) : Operation → History
  | .register a => { h with ledger := h.ledger.register a }
  | .failNext method e => { h with ledger := h.ledger.failNext method e }
  | .ask q => h.talk (Session.question q)
  | .handOver e => h.talk e.session

/-- The history that some operations make of a ledger. -/
def of (l : Ledger) (ops : List Operation) : History :=
  ops.foldl extend { ledger := l }

/-- A property of histories that survives each of the three things that can
happen to one. -/
structure Kept (I : History → Prop) : Prop where
  register : ∀ h a, I h → I { h with ledger := h.ledger.register a }
  failNext : ∀ h method e, I h → I { h with ledger := h.ledger.failNext method e }
  ask : ∀ h q, I h →
    I ⟨(client q h.ledger).state, h.moments ++ [Moment.ask client h.ledger q]⟩

theorem Kept.talk {α : Type} {I : History → Prop} (hk : Kept I) {h : History} (hI : I h)
    (session : Session α) : I (h.talk session) :=
  Session.transcript_invariant (I := fun past l => I ⟨l, past⟩)
    (fun past l q hpast => hk.ask ⟨l, past⟩ q hpast) session hI

theorem Kept.extend {I : History → Prop} (hk : Kept I) {h : History} (hI : I h)
    (op : Operation) : I (h.extend op) := by
  cases op with
  | register a => exact hk.register h a hI
  | failNext method e => exact hk.failNext h method e hI
  | ask q => exact hk.talk hI _
  | handOver e => exact hk.talk hI _

/-- What the three things keep holds of every history. -/
theorem Kept.of {I : History → Prop} (hk : Kept I) {l : Ledger} (h0 : I { ledger := l })
    (ops : List Operation) : I (of l ops) := by
  suffices ∀ h, I h → I (ops.foldl History.extend h) from this _ h0
  induction ops with
  | nil => exact fun h hI => hI
  | cons op ops ih => exact fun h hI => ih _ (hk.extend hI op)

end History

/-! ## Calls that went through -/

/-- A call that went through, with the slots as it found them. -/
structure Applied where
  slots : Snapshot
  sender : Address
  call : Call
  deriving DecidableEq, Repr

/-- The call of a submission that was answered with a receipt. -/
def applied? : Moment Ledger → Option Applied
  | ⟨l, .submit _ call o, .ok _⟩ => some ⟨l.snapshot, o.sender.address, call⟩
  | _ => none

/-- The calls that went through, in order. -/
def applied (xs : List (Moment Ledger)) : List Applied :=
  xs.filterMap applied?

theorem applied_concat (xs : List (Moment Ledger)) (x : Moment Ledger) :
    applied (xs ++ [x]) = applied xs ++ (applied? x).toList := by
  cases hx : applied? x <;> simp [applied, hx]

/-- A question leaves the slots alone, or is a call that goes through and
moves them by the contract's rules. -/
theorem ask_slots (l : Ledger) (q : Query) :
    (applied? (Moment.ask client l q) = none ∧ (client q l).state.snapshot = l.snapshot) ∨
      ∃ sender call t, applied? (Moment.ask client l q) = some ⟨l.snapshot, sender, call⟩ ∧
        apply sender call l.snapshot = .ok t ∧ (client q l).state.snapshot = t := by
  cases q with
  | contractAt a => exact Or.inl ⟨rfl, rfl⟩
  | owner c => exact Or.inl ⟨rfl, rfl⟩
  | pendingOwner c => exact Or.inl ⟨rfl, rfl⟩
  | submit c call o =>
      rcases submit_slots l c call o with ⟨e, hr, hs⟩ | ⟨r, t, hr, ha, hs⟩
      · refine Or.inl ⟨?_, hs⟩
        simp only [Moment.ask, client, hr, applied?]
      · refine Or.inr ⟨o.sender.address, call, t, ?_, ha, hs⟩
        simp only [Moment.ask, client, hr, applied?]

/-! ## What they explain -/

/-- The sender of the last acceptance, or the first owner if there was none. -/
def lastAcceptor (initial : Address) (log : List Applied) : Address :=
  ((log.filter (·.call = .acceptOwnership)).getLast?.map (·.sender)).getD initial

/-- Who was nominated last, unless an acceptance came after it: the nominee
of the last call, if that is a nomination. -/
def standingNominee (log : List Applied) : Address :=
  match log.getLast? with
  | some ⟨_, _, .setPendingOwner a⟩ => a
  | _ => Address.zero

/-- The slots are what the calls that went through, and only they, made of a
fresh ledger. -/
structure Explains (initial : Address) (log : List Applied) (s : Snapshot) : Prop where
  owner : s.owner = lastAcceptor initial log
  pending : s.pendingOwner = standingNominee log
  /-- A call found the slots that the calls before it explain. -/
  found : ∀ before x after, log = before ++ x :: after →
    x.slots = ⟨lastAcceptor initial before, standingNominee before⟩
  /-- A nomination was sent by the owner, for somebody. -/
  nominated : ∀ x ∈ log, ∀ a, x.call = .setPendingOwner a →
    x.sender = x.slots.owner ∧ a ≠ Address.zero
  /-- An acceptance was sent by the nominee of the call before it. -/
  accepted : ∀ before x after, log = before ++ x :: after → x.call = .acceptOwnership →
    ∃ y, before.getLast? = some y ∧ y.call = .setPendingOwner x.sender

/-- An entry of a lengthened list is the new one or stood there before. -/
theorem eq_append_cons_of_concat {α : Type} {xs before after : List α} {x y : α}
    (h : xs ++ [x] = before ++ y :: after) :
    (before = xs ∧ y = x) ∨ ∃ rest, xs = before ++ y :: rest := by
  rcases List.eq_nil_or_concat after with rfl | ⟨rest, z, rfl⟩
  · obtain ⟨hxs, hx⟩ := List.append_inj' h rfl
    exact Or.inl ⟨hxs.symm, (List.singleton_inj.mp hx).symm⟩
  · have hsplit : xs ++ [x] = (before ++ y :: rest) ++ [z] := by simpa using h
    exact Or.inr ⟨rest, (List.append_inj' hsplit rfl).1⟩

theorem getLast?_of_standingNominee {log : List Applied} (h : standingNominee log ≠ Address.zero) :
    ∃ y, log.getLast? = some y ∧ y.call = .setPendingOwner (standingNominee log) := by
  unfold standingNominee at h ⊢
  split at h
  · rename_i slots sender a hlast
    exact ⟨_, hlast, rfl⟩
  · exact absurd rfl h

namespace Explains

variable {initial : Address} {log : List Applied} {s t : Snapshot} {sender : Address}

/-- A fresh ledger is explained by no call. -/
theorem nil : Explains initial [] ⟨initial, Address.zero⟩ where
  owner := rfl
  pending := rfl
  found := by simp
  nominated := by simp
  accepted := by simp

/-- The slots found by an entry of a lengthened log. -/
theorem found_concat (h : Explains initial log s) (call : Call) :
    ∀ before x after, log ++ [⟨s, sender, call⟩] = before ++ x :: after →
      x.slots = ⟨lastAcceptor initial before, standingNominee before⟩ := by
  intro before x after heq
  rcases eq_append_cons_of_concat heq with ⟨rfl, rfl⟩ | ⟨rest, hlog⟩
  · rw [← h.owner, ← h.pending]
  · exact h.found before x rest hlog

/-- One more nomination. -/
theorem nominate (h : Explains initial log s) {a : Address} (hsender : sender = s.owner)
    (ha : a ≠ Address.zero) :
    Explains initial (log ++ [⟨s, sender, .setPendingOwner a⟩]) ⟨s.owner, a⟩ where
  owner := by simpa [lastAcceptor, List.filter_append] using h.owner
  pending := by simp [standingNominee]
  found := h.found_concat _
  nominated := by
    intro x hx b hb
    rcases List.mem_append.mp hx with hold | hnew
    · exact h.nominated x hold b hb
    · obtain rfl := List.mem_singleton.mp hnew
      obtain rfl : a = b := by simpa using hb
      exact ⟨hsender, ha⟩
  accepted := by
    intro before x after heq hcall
    rcases eq_append_cons_of_concat heq with ⟨rfl, rfl⟩ | ⟨rest, hlog⟩
    · cases hcall
    · exact h.accepted before x rest hlog hcall

/-- One more acceptance. -/
theorem accept (h : Explains initial log s) (hz : s.pendingOwner ≠ Address.zero)
    (hsender : sender = s.pendingOwner) :
    Explains initial (log ++ [⟨s, sender, .acceptOwnership⟩]) ⟨s.pendingOwner, Address.zero⟩ where
  owner := by simp [lastAcceptor, List.filter_append, hsender]
  pending := by simp [standingNominee]
  found := h.found_concat _
  nominated := by
    intro x hx b hb
    rcases List.mem_append.mp hx with hold | hnew
    · exact h.nominated x hold b hb
    · obtain rfl := List.mem_singleton.mp hnew
      cases hb
  accepted := by
    intro before x after heq hcall
    rcases eq_append_cons_of_concat heq with ⟨rfl, rfl⟩ | ⟨rest, hlog⟩
    · rw [h.pending] at hz hsender
      rw [hsender]
      exact getLast?_of_standingNominee hz
    · exact h.accepted before x rest hlog hcall

/-- One more call that goes through. -/
theorem apply (h : Explains initial log s) {call : Call}
    (ha : Ledger.apply sender call s = .ok t) :
    Explains initial (log ++ [⟨s, sender, call⟩]) t := by
  cases call with
  | setPendingOwner a =>
      obtain ⟨hsender, hz, rfl⟩ := apply_setPendingOwner_iff.mp ha
      exact h.nominate hsender hz
  | acceptOwnership =>
      obtain ⟨hz, hsender, rfl⟩ := apply_acceptOwnership_iff.mp ha
      exact h.accept hz hsender

/-- Whoever owns the contract was nominated, or owned it from the start. -/
theorem owner_ne_zero (h : Explains initial log s) (hi : initial ≠ Address.zero) :
    s.owner ≠ Address.zero := by
  rw [h.owner, lastAcceptor]
  cases hlast : (log.filter (·.call = .acceptOwnership)).getLast? with
  | none => simpa using hi
  | some x =>
      obtain ⟨hx, hcall⟩ := List.mem_filter.mp (List.mem_of_getLast? hlast)
      obtain ⟨before, after, hlog⟩ := List.append_of_mem hx
      obtain ⟨y, hy, hycall⟩ := h.accepted before x after hlog (of_decide_eq_true hcall)
      have hmem : y ∈ log := by
        rw [hlog]
        exact List.mem_append_left _ (List.mem_of_getLast? hy)
      simpa using (h.nominated y hmem x.sender hycall).2

end Explains

/-! ## Every history -/

/-- What holds of every history of a fresh ledger. -/
def Accounted (initial : Address) (h : History) : Prop :=
  Explains initial (applied h.moments) h.ledger.snapshot ∧
    (initial ≠ Address.zero → ∀ x ∈ h.moments, x.state.owner ≠ Address.zero)

theorem kept_accounted (initial : Address) : History.Kept (Accounted initial) where
  register := by
    rintro h a ⟨hexp, hmoments⟩
    refine ⟨?_, hmoments⟩
    rw [snapshot_register]
    exact hexp
  failNext := by
    rintro h method e ⟨hexp, hmoments⟩
    exact ⟨hexp, hmoments⟩
  ask := by
    rintro h q ⟨hexp, hmoments⟩
    refine ⟨?_, fun hi x hx => ?_⟩
    · rw [applied_concat]
      rcases ask_slots h.ledger q with ⟨hnone, hs⟩ | ⟨sender, call, t, hsome, ha, hs⟩
      · simpa [hnone, hs] using hexp
      · simpa [hsome, hs] using hexp.apply ha
    · rcases List.mem_append.mp hx with hold | hnew
      · exact hmoments hi x hold
      · obtain rfl := List.mem_singleton.mp hnew
        exact hexp.owner_ne_zero hi

/-- However a fresh ledger is used, its slots are what the calls that went
through explain, and nobody's address never becomes the owner of a contract
that was somebody's. -/
theorem slots_explained (address initial : Address) (ops : List Operation) :
    let h := History.of (new address initial) ops
    Explains initial (applied h.moments) h.ledger.snapshot ∧
      (initial = Address.zero ∨
        h.ledger.owner ≠ Address.zero ∧ ∀ x ∈ h.moments, x.state.owner ≠ Address.zero) := by
  have hfresh : Accounted initial { ledger := new address initial } :=
    ⟨Explains.nil, fun _ x hx => by cases hx⟩
  obtain ⟨hexp, hmoments⟩ := (kept_accounted initial).of hfresh ops
  refine ⟨hexp, ?_⟩
  by_cases hi : initial = Address.zero
  · exact Or.inl hi
  · exact Or.inr ⟨hexp.owner_ne_zero hi, hmoments hi⟩

end TwoStep.Ledger
