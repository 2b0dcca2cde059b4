import TwoStep.Chain.Ledger

/-!
# One submission to a ledger

A submission passes five checks in a fixed order, and each way it can go is
one equation here (`submit_foreign`, `submit_unregistered`, `submit_injected`,
`submit_refused`, `submit_applied`): the reply and the whole next state.
`Submitted` lists them, so that what holds of every submission is a case
analysis over it.

`submit_succeeds` and `submit_fails` gather the cases on the two sides of one
condition, `Allows`.  `submit_slots` is what is left of them for the two
ownership slots, which is all that histories and interleavings need: an answer
without a receipt leaves the slots alone, and one with a receipt moves them by
the contract's rules.
-/

namespace TwoStep.Ledger

/-! ## The contract's rules -/

/-- A nomination goes through iff the owner sends it for somebody. -/
theorem apply_setPendingOwner_iff {sender a : Address} {s t : Snapshot} :
    apply sender (.setPendingOwner a) s = .ok t ↔
      sender = s.owner ∧ a ≠ Address.zero ∧ t = ⟨s.owner, a⟩ := by
  simp only [apply]
  split
  · rename_i hne
    simp [hne]
  · rename_i heq
    split
    · rename_i hz
      simp [hz]
    · rename_i hz
      have howner : sender = s.owner := Decidable.not_not.mp heq
      simp [howner, hz, eq_comm]

/-- An acceptance goes through iff the pending owner sends it. -/
theorem apply_acceptOwnership_iff {sender : Address} {s t : Snapshot} :
    apply sender .acceptOwnership s = .ok t ↔
      s.pendingOwner ≠ Address.zero ∧ sender = s.pendingOwner ∧
        t = ⟨s.pendingOwner, Address.zero⟩ := by
  simp only [apply]
  split
  · rename_i h
    rcases h with h | h <;> simp [h]
  · rename_i h
    obtain ⟨hz, hs⟩ := not_or.mp h
    simp [hz, Decidable.not_not.mp hs, eq_comm]

/-! ## The table of failures -/

theorem lookup_filter_self (method : String) (failures : List (String × ClientError)) :
    (failures.filter (·.1 ≠ method)).lookup method = none := by
  rw [List.lookup_eq_none_iff]
  intro p hp
  have hne : p.1 ≠ method := of_decide_eq_true (List.mem_filter.mp hp).2
  exact bne_iff_ne.mpr hne.symm

theorem lookup_filter_of_ne {method other : String} (hne : other ≠ method)
    (failures : List (String × ClientError)) :
    (failures.filter (·.1 ≠ method)).lookup other = failures.lookup other := by
  induction failures with
  | nil => rfl
  | cons p failures ih =>
      obtain ⟨name, e⟩ := p
      by_cases hname : name = method
      · subst hname
        have hskip : (other == name) = false := beq_false_of_ne hne
        simp [List.lookup_cons, hskip, ← ih]
      · simp [hname, List.lookup_cons, ← ih]

theorem lookup_filter (method other : String) (failures : List (String × ClientError)) :
    (failures.filter (·.1 ≠ method)).lookup other =
      if other = method then none else failures.lookup other := by
  split
  · rename_i heq
    rw [heq, lookup_filter_self]
  · rename_i hne
    exact lookup_filter_of_ne hne failures

theorem filter_eq_self_of_lookup {method : String} {failures : List (String × ClientError)}
    (h : failures.lookup method = none) : failures.filter (·.1 ≠ method) = failures := by
  refine List.filter_eq_self.mpr fun p hp => ?_
  have hne := bne_iff_ne.mp (List.lookup_eq_none_iff.mp h p hp)
  exact decide_eq_true hne.symm

/-! ## The ways a submission can go -/

/-- A submission reaches the contract: it names it, and its sender is
registered. -/
def Reached (l : Ledger) (c : Contract) (o : CallOptions) : Prop :=
  c.address = l.address ∧ o.sender.address ∈ l.signers

instance (l : Ledger) (c : Contract) (o : CallOptions) : Decidable (l.Reached c o) :=
  inferInstanceAs (Decidable (_ ∧ _))

/-- The call that a submission leaves on record. -/
def entry (l : Ledger) (call : Call) (o : CallOptions) : RecordedCall :=
  ⟨l.address, call, o.sender.address, o.fee⟩

/-- The ledger with one more call on record. -/
def record (l : Ledger) (call : Call) (o : CallOptions) : Ledger :=
  { l with calls := l.calls ++ [l.entry call o] }

theorem length_calls_record (l : Ledger) (call : Call) (o : CallOptions) :
    (l.record call o).calls.length = l.calls.length + 1 := by
  simp [record]

section Submit

variable {l : Ledger} {c : Contract}

theorem submit_foreign (call : Call) (o : CallOptions) (hc : c.address ≠ l.address) :
    (l.submit c call o).reply = .error (.noCode c.address) ∧ (l.submit c call o).state = l := by
  simp [submit, hc]

theorem submit_unregistered (call : Call) {o : CallOptions} (hc : c.address = l.address)
    (hs : o.sender.address ∉ l.signers) :
    (l.submit c call o).reply = .error (.unknownSigner o.sender.address) ∧
      (l.submit c call o).state = l := by
  simp [submit, hc, hs]

variable {call : Call} {o : CallOptions}

theorem submit_injected {e : ClientError} (hr : l.Reached c o)
    (hf : l.failures.lookup call.method = some e) :
    (l.submit c call o).reply = .error e ∧
      (l.submit c call o).state =
        { l.record call o with failures := l.failures.filter (·.1 ≠ call.method) } := by
  simp [submit, record, entry, hr.1, hr.2, hf]

theorem submit_refused {reason : String} (hr : l.Reached c o)
    (hf : l.failures.lookup call.method = none)
    (ha : apply o.sender.address call l.snapshot = .error reason) :
    (l.submit c call o).reply =
        .error (.reverted call.method (some (txHash (l.record call o).calls.length)) reason) ∧
      (l.submit c call o).state = l.record call o := by
  simp [submit, record, entry, hr.1, hr.2, hf, ha]

theorem submit_applied {s : Snapshot} (hr : l.Reached c o)
    (hf : l.failures.lookup call.method = none)
    (ha : apply o.sender.address call l.snapshot = .ok s) :
    (l.submit c call o).reply =
        .ok ⟨call.method, txHash (l.record call o).calls.length, some (l.block + 1)⟩ ∧
      (l.submit c call o).state =
        { l.record call o with
          owner := s.owner, pendingOwner := s.pendingOwner, block := l.block + 1 } := by
  simp [submit, record, entry, hr.1, hr.2, hf, ha]

/-- The ways a submission can go, each in want of those before it: the reply, and
the next state.  A call that reached the contract is known by its number. -/
inductive Submitted (l : Ledger) (c : Contract) (call : Call) (o : CallOptions) :
    Except ClientError Receipt → Ledger → Prop where
  | foreign (hc : c.address ≠ l.address) : Submitted l c call o (.error (.noCode c.address)) l
  | unregistered (hc : c.address = l.address) (hs : o.sender.address ∉ l.signers) :
      Submitted l c call o (.error (.unknownSigner o.sender.address)) l
  | injected (hr : l.Reached c o) (e : ClientError)
      (hf : l.failures.lookup call.method = some e) :
      Submitted l c call o (.error e)
        { l.record call o with failures := l.failures.filter (·.1 ≠ call.method) }
  | refused (hr : l.Reached c o) (hf : l.failures.lookup call.method = none) (reason : String)
      (ha : apply o.sender.address call l.snapshot = .error reason) :
      Submitted l c call o
        (.error (.reverted call.method (some (txHash (l.calls.length + 1))) reason))
        (l.record call o)
  | applied (hr : l.Reached c o) (hf : l.failures.lookup call.method = none) (s : Snapshot)
      (ha : apply o.sender.address call l.snapshot = .ok s) :
      Submitted l c call o
        (.ok ⟨call.method, txHash (l.calls.length + 1), some (l.block + 1)⟩)
        { l.record call o with
          owner := s.owner, pendingOwner := s.pendingOwner, block := l.block + 1 }

theorem submitted (l : Ledger) (c : Contract) (call : Call) (o : CallOptions) :
    Submitted l c call o (l.submit c call o).reply (l.submit c call o).state := by
  by_cases hc : c.address = l.address
  case neg =>
    obtain ⟨hreply, hstate⟩ := submit_foreign call o hc
    rw [hreply, hstate]
    exact .foreign hc
  by_cases hs : o.sender.address ∈ l.signers
  case neg =>
    obtain ⟨hreply, hstate⟩ := submit_unregistered call hc hs
    rw [hreply, hstate]
    exact .unregistered hc hs
  have hr : l.Reached c o := ⟨hc, hs⟩
  cases hf : l.failures.lookup call.method with
  | some e =>
      obtain ⟨hreply, hstate⟩ := submit_injected hr hf
      rw [hreply, hstate]
      exact .injected hr e hf
  | none =>
      cases ha : apply o.sender.address call l.snapshot with
      | error reason =>
          obtain ⟨hreply, hstate⟩ := submit_refused hr hf ha
          rw [hreply, hstate, length_calls_record]
          exact .refused hr hf reason ha
      | ok s =>
          obtain ⟨hreply, hstate⟩ := submit_applied hr hf ha
          rw [hreply, hstate, length_calls_record]
          exact .applied hr hf s ha

/-- A submission may go through: it reaches the contract, no failure is armed
for its method, and the contract's rules allow it. -/
def Allows (l : Ledger) (c : Contract) (call : Call) (o : CallOptions) : Prop :=
  l.Reached c o ∧ l.failures.lookup call.method = none ∧
    ∃ s, apply o.sender.address call l.snapshot = .ok s

/-- Then it succeeds, is on record, and the slots have moved by the rules. -/
theorem submit_succeeds {s : Snapshot} (hr : l.Reached c o)
    (hf : l.failures.lookup call.method = none)
    (ha : apply o.sender.address call l.snapshot = .ok s) :
    (∃ r, (l.submit c call o).reply = .ok r) ∧ (l.submit c call o).state.snapshot = s ∧
      (l.submit c call o).state.calls = l.calls ++ [l.entry call o] := by
  obtain ⟨hreply, hstate⟩ := submit_applied hr hf ha
  exact ⟨⟨_, hreply⟩, by rw [hstate]; rfl, by rw [hstate]; rfl⟩

/-- Otherwise it fails, leaves the slots alone, and is on record iff it reached
the contract. -/
theorem submit_fails (h : ¬l.Allows c call o) :
    (∃ e, (l.submit c call o).reply = .error e) ∧
      (l.submit c call o).state.snapshot = l.snapshot ∧
      (l.submit c call o).state.calls =
        l.calls ++ if l.Reached c o then [l.entry call o] else [] := by
  have hsubmitted := submitted l c call o
  generalize (l.submit c call o).reply = reply, (l.submit c call o).state = l' at hsubmitted ⊢
  cases hsubmitted with
  | foreign hc =>
      have hr : ¬l.Reached c o := fun hr => hc hr.1
      exact ⟨⟨_, rfl⟩, rfl, by simp [hr]⟩
  | unregistered hc hs =>
      have hr : ¬l.Reached c o := fun hr => hs hr.2
      exact ⟨⟨_, rfl⟩, rfl, by simp [hr]⟩
  | injected hr e hf => exact ⟨⟨_, rfl⟩, rfl, by simp [record, hr]⟩
  | refused hr hf reason ha => exact ⟨⟨_, rfl⟩, rfl, by simp [record, hr]⟩
  | applied hr hf s ha => exact absurd ⟨hr, hf, s, ha⟩ h

/-! ## What it does to the slots -/

/-- Without a receipt the slots stay; with one they move by the contract's
rules. -/
theorem submit_slots (l : Ledger) (c : Contract) (call : Call) (o : CallOptions) :
    (∃ e, (l.submit c call o).reply = .error e ∧
        (l.submit c call o).state.snapshot = l.snapshot) ∨
      ∃ r s, (l.submit c call o).reply = .ok r ∧
        apply o.sender.address call l.snapshot = .ok s ∧
        (l.submit c call o).state.snapshot = s := by
  have hsubmitted := submitted l c call o
  generalize (l.submit c call o).reply = reply, (l.submit c call o).state = l' at hsubmitted ⊢
  cases hsubmitted with
  | applied hr hf s ha => exact Or.inr ⟨_, s, rfl, ha, rfl⟩
  | _ => exact Or.inl ⟨_, rfl, rfl⟩

end Submit

@[simp] theorem snapshot_register (a : Address) (l : Ledger) :
    (l.register a).snapshot = l.snapshot := by
  unfold register
  split <;> rfl

end TwoStep.Ledger
