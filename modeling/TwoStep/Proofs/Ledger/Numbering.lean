import TwoStep.Proofs.Hex
import TwoStep.Proofs.Ledger.History

/-!
# The numbers of a ledger

A ledger counts twice: a call that reaches the contract gets the next place in
the log, and with it the hash of its number, before anybody knows whether it
will go through; a call that goes through gets the next block.

`Tally` is what one question does to the two counts, and `kept_tallied` carries
it along every history.  The counters of a ledger are words, so `Tallied` is
about numbers up to a multiple of two to the sixty-fourth; `numbered_from_one`
says that in a run with fewer questions than that they are the numbers
themselves.
-/

namespace TwoStep.Ledger

/-! ## Calls that reached the contract -/

/-- The record of a submission that reached the contract, and its receipt if it
went through. -/
def reached? : Moment Ledger → Option (RecordedCall × Option Receipt)
  | ⟨l, .submit c call o, reply⟩ =>
    if l.Reached c o then some (l.entry call o, reply.toOption) else none
  | _ => none

/-- The receipt of a submission that went through. -/
def receipt? : Moment Ledger → Option Receipt
  | ⟨_, .submit .., .ok r⟩ => some r
  | _ => none

/-- The submissions that reached the contract, in order. -/
def reached (xs : List (Moment Ledger)) : List (RecordedCall × Option Receipt) :=
  xs.filterMap reached?

/-- The receipts that were given out, in order. -/
def receipts (xs : List (Moment Ledger)) : List Receipt :=
  xs.filterMap receipt?

theorem reached_concat (xs : List (Moment Ledger)) (x : Moment Ledger) :
    reached (xs ++ [x]) = reached xs ++ (reached? x).toList := by
  cases hx : reached? x <;> simp [reached, hx]

theorem receipts_concat (xs : List (Moment Ledger)) (x : Moment Ledger) :
    receipts (xs ++ [x]) = receipts xs ++ (receipt? x).toList := by
  cases hx : receipt? x <;> simp [receipts, hx]

/-! ## One question -/

/-- What a question does to the two counts of a ledger: what is seen of it, and
the ledger behind it. -/
inductive Tally (l : Ledger) : Option (RecordedCall × Option Receipt) → Option Receipt →
    Ledger → Prop where
  | unseen {l' : Ledger} (hcalls : l'.calls = l.calls) (hblock : l'.block = l.block) :
      Tally l none none l'
  | failed {l' : Ledger} (entry : RecordedCall) (hcalls : l'.calls = l.calls ++ [entry])
      (hblock : l'.block = l.block) : Tally l (some (entry, none)) none l'
  | applied {l' : Ledger} (entry : RecordedCall) (r : Receipt)
      (hcalls : l'.calls = l.calls ++ [entry]) (hblock : l'.block = l.block + 1)
      (hhash : r.txHash = txHash (l.calls.length + 1)) (hheight : r.block = some (l.block + 1)) :
      Tally l (some (entry, some r)) (some r) l'

theorem tally_submit (l : Ledger) (c : Contract) (call : Call) (o : CallOptions) :
    let x := Moment.ask client l (.submit c call o)
    Tally l (reached? x) (receipt? x) (l.submit c call o).state := by
  intro x
  have hx : x = ⟨l, .submit c call o, (l.submit c call o).reply⟩ := rfl
  have hsubmitted := submitted l c call o
  rw [hx]
  generalize (l.submit c call o).reply = reply, (l.submit c call o).state = l' at hsubmitted ⊢
  cases hsubmitted with
  | foreign hc =>
      have hr : ¬l.Reached c o := fun hr => hc hr.1
      simp only [reached?, receipt?, hr, if_false]
      exact .unseen rfl rfl
  | unregistered hc hs =>
      have hr : ¬l.Reached c o := fun hr => hs hr.2
      simp only [reached?, receipt?, hr, if_false]
      exact .unseen rfl rfl
  | injected hr e hf =>
      simp only [reached?, receipt?, hr, if_true]
      exact .failed _ rfl rfl
  | refused hr hf reason ha =>
      simp only [reached?, receipt?, hr, if_true]
      exact .failed _ rfl rfl
  | applied hr hf s ha =>
      simp only [reached?, receipt?, hr, if_true]
      exact .applied _ _ rfl rfl rfl rfl

theorem tally_ask (l : Ledger) (q : Query) :
    let x := Moment.ask client l q
    Tally l (reached? x) (receipt? x) (client q l).state := by
  cases q with
  | contractAt a => exact .unseen rfl rfl
  | owner c => exact .unseen rfl rfl
  | pendingOwner c => exact .unseen rfl rfl
  | submit c call o => exact tally_submit l c call o

@[simp] theorem calls_register (a : Address) (l : Ledger) : (l.register a).calls = l.calls := by
  unfold register
  split <;> rfl

@[simp] theorem block_register (a : Address) (l : Ledger) : (l.register a).block = l.block := by
  unfold register
  split <;> rfl

/-! ## Every history -/

/-- The log only grows at its end: an earlier one is the beginning of every
later one. -/
structure AppendOnly (h : History) : Prop where
  earlier : ∀ x ∈ h.moments, x.state.calls <+: h.ledger.calls
  ordered : h.moments.Pairwise fun x y => x.state.calls <+: y.state.calls

theorem Tally.grows {l l' : Ledger} {seen : Option (RecordedCall × Option Receipt)}
    {receipt : Option Receipt} (h : Tally l seen receipt l') : l.calls <+: l'.calls := by
  cases h with
  | unseen hcalls => exact ⟨[], by rw [List.append_nil, hcalls]⟩
  | failed entry hcalls => exact ⟨[entry], hcalls.symm⟩
  | applied entry r hcalls => exact ⟨[entry], hcalls.symm⟩

theorem kept_appendOnly : History.Kept AppendOnly where
  register := by
    rintro h a ⟨hearlier, hordered⟩
    exact ⟨fun x hx => by simpa using hearlier x hx, hordered⟩
  failNext := by
    rintro h method e ⟨hearlier, hordered⟩
    exact ⟨hearlier, hordered⟩
  ask := by
    rintro h q ⟨hearlier, hordered⟩
    have hgrows := (tally_ask h.ledger q).grows
    refine ⟨fun x hx => ?_, List.pairwise_append.mpr ⟨hordered, List.pairwise_singleton _ _, ?_⟩⟩
    · rcases List.mem_append.mp hx with hold | hnew
      · exact (hearlier x hold).trans hgrows
      · obtain rfl := List.mem_singleton.mp hnew
        exact hgrows
    · intro x hx y hy
      obtain rfl := List.mem_singleton.mp hy
      exact hearlier x hx

/-- What the counts of a ledger have to do with its history. -/
structure Tallied (h : History) : Prop where
  calls : h.ledger.calls = (reached h.moments).map Prod.fst
  block : h.ledger.block = UInt64.ofNat (receipts h.moments).length
  /-- Only calls that reached the contract are given receipts. -/
  given : (reached h.moments).filterMap Prod.snd = receipts h.moments
  hashed : ∀ n entry r, (reached h.moments)[n]? = some (entry, some r) →
    r.txHash = txHash (n + 1)
  height : ∀ k r, (receipts h.moments)[k]? = some r → r.block = some (UInt64.ofNat (k + 1))

/-- An entry of a lengthened list stands there already, or is the new one. -/
theorem getElem?_concat_cases {α : Type} {xs : List α} {x y : α} {n : Nat}
    (h : (xs ++ [x])[n]? = some y) : xs[n]? = some y ∨ n = xs.length ∧ y = x := by
  rcases Nat.lt_trichotomy n xs.length with hn | rfl | hn
  · rw [List.getElem?_append_left hn] at h
    exact .inl h
  · rw [List.getElem?_concat_length] at h
    exact .inr ⟨rfl, (Option.some.inj h).symm⟩
  · rw [List.getElem?_eq_none (by rw [List.length_append, List.length_singleton]; omega)] at h
    cases h

theorem Tallied.concat {h : History} (hh : Tallied h) {x : Moment Ledger} {l' : Ledger}
    (htally : Tally h.ledger (reached? x) (receipt? x) l') :
    Tallied ⟨l', h.moments ++ [x]⟩ := by
  have hreached := reached_concat h.moments x
  have hreceipts := receipts_concat h.moments x
  generalize reached? x = seen, receipt? x = receipt at htally hreached hreceipts
  cases htally with
  | unseen hcalls hblock =>
      simp only [Option.toList_none, List.append_nil] at hreached hreceipts
      constructor <;> simp only [hreached, hreceipts]
      · rw [hcalls, hh.calls]
      · rw [hblock, hh.block]
      · exact hh.given
      · exact hh.hashed
      · exact hh.height
  | failed entry hcalls hblock =>
      simp only [Option.toList_none, Option.toList_some, List.append_nil] at hreached hreceipts
      constructor <;> simp only [hreached, hreceipts]
      · rw [hcalls, hh.calls, List.map_append, List.map_singleton]
      · rw [hblock, hh.block]
      · simp [hh.given]
      · intro n entry' r hn
        rcases getElem?_concat_cases hn with hold | ⟨-, hnew⟩
        · exact hh.hashed n entry' r hold
        · cases hnew
      · exact hh.height
  | applied entry r hcalls hblock hhash hheight =>
      simp only [Option.toList_some] at hreached hreceipts
      constructor <;> simp only [hreached, hreceipts]
      · rw [hcalls, hh.calls, List.map_append, List.map_singleton]
      · rw [hblock, hh.block, List.length_append, List.length_singleton, UInt64.ofNat_add]
        rfl
      · simp [hh.given]
      · intro n entry' r' hn
        rcases getElem?_concat_cases hn with hold | ⟨rfl, hnew⟩
        · exact hh.hashed n entry' r' hold
        · cases hnew
          rw [hhash, hh.calls, List.length_map]
      · intro k r' hk
        rcases getElem?_concat_cases hk with hold | ⟨rfl, rfl⟩
        · exact hh.height k r' hold
        · rw [hheight, hh.block, UInt64.ofNat_add]
          rfl

theorem kept_tallied : History.Kept Tallied where
  register := by
    intro h a hh
    exact ⟨by simpa using hh.calls, by simpa using hh.block, hh.given, hh.hashed, hh.height⟩
  failNext := by
    intro h method e hh
    exact ⟨hh.calls, hh.block, hh.given, hh.hashed, hh.height⟩
  ask := by
    intro h q hh
    exact hh.concat (tally_ask h.ledger q)

/-- The calls that reached the contract are numbered from one in the order of
the log, and those that went through have consecutive blocks. -/
structure Numbered (h : History) : Prop extends AppendOnly h where
  calls : h.ledger.calls = (reached h.moments).map Prod.fst
  length : h.ledger.calls.length = (reached h.moments).length
  given : (reached h.moments).filterMap Prod.snd = receipts h.moments
  /-- The receipt of a call has the digest of the eight bytes that spell its
  number, highest first. -/
  hashed : ∀ n entry r, (reached h.moments)[n]? = some (entry, some r) →
    r.txHash = TxHash.ofDigest (Hex.toBytes 8 (n + 1)) ∧
      (Hex.toBytes 8 (n + 1)).length = 8 ∧
      Hex.ofBytes ((Hex.toBytes 8 (n + 1)).map UInt8.toNat) = n + 1
  distinct : ∀ n m entry entry' r r', (reached h.moments)[n]? = some (entry, some r) →
    (reached h.moments)[m]? = some (entry', some r') →
    Hex.toBytes 8 (n + 1) = Hex.toBytes 8 (m + 1) → n = m
  block : h.ledger.block.toNat = (receipts h.moments).length
  height : ∀ k r, (receipts h.moments)[k]? = some r → ∃ b, r.block = some b ∧ b.toNat = k + 1

theorem Tallied.numbered {h : History} (hh : Tallied h) (happend : AppendOnly h)
    (hshort : h.moments.length < 2 ^ 64) : Numbered h := by
  have hnumber : ∀ {n x}, (reached h.moments)[n]? = some x → n + 1 < 256 ^ 8 := by
    intro n x hn
    obtain ⟨hlt, -⟩ := List.getElem?_eq_some_iff.mp hn
    have hle := List.length_filterMap_le reached? h.moments
    rw [← reached] at hle
    omega
  have hreceipts : (receipts h.moments).length < 2 ^ 64 :=
    Nat.lt_of_le_of_lt (List.length_filterMap_le receipt? h.moments) hshort
  exact {
    toAppendOnly := happend
    calls := hh.calls
    length := by rw [hh.calls, List.length_map]
    given := hh.given
    hashed := fun n entry r hn =>
      ⟨hh.hashed n entry r hn, Hex.length_toBytes 8 _, Hex.ofBytes_toBytes (hnumber hn)⟩
    distinct := fun n m entry entry' r r' hn hm heq =>
      Nat.succ.inj (Hex.toBytes_inj (hnumber hn) (hnumber hm) heq)
    block := by rw [hh.block, UInt64.toNat_ofNat_of_lt' hreceipts]
    height := fun k r hk => by
      obtain ⟨hlt, -⟩ := List.getElem?_eq_some_iff.mp hk
      have hk' : k + 1 < 2 ^ 64 := by omega
      exact ⟨_, hh.height k r hk, UInt64.toNat_ofNat_of_lt' hk'⟩ }

/-- However a fresh ledger is used, as long as it is asked fewer than two to the
sixty-fourth questions: its log only grows at its end, by the submissions that
name the contract and come from a registered signer; the receipt of the n-th of
these has the digest of n; and the blocks count the submissions that went
through, one by one, whatever lies between them. -/
theorem numbered_from_one (address initial : Address) (ops : List Operation)
    (hshort : (History.of (new address initial) ops).moments.length < 2 ^ 64) :
    Numbered (History.of (new address initial) ops) := by
  have htallied : Tallied (History.of (new address initial) ops) :=
    kept_tallied.of ⟨rfl, rfl, rfl, by simp [reached], by simp [receipts]⟩ ops
  have happend : AppendOnly (History.of (new address initial) ops) :=
    kept_appendOnly.of ⟨by simp, .nil⟩ ops
  exact htallied.numbered happend hshort

/-- A use in which submissions are turned away, fail, are refused and go
through, singly and in whole hand-overs. -/
def mixedUse : List Operation :=
  let contract : Contract := ⟨⟨9#160⟩⟩
  let owner : Signer := ⟨"owner", ⟨1#160⟩⟩
  let nominee : Signer := ⟨"nominee", ⟨2#160⟩⟩
  let stamp : Handoff.Stamp := ⟨"", ⟨1970, 1, 1, 0, 0, 0, 0⟩, ⟨1970, 1, 1, 0, 0, 0, 0⟩⟩
  [.ask (.submit contract (.setPendingOwner ⟨2#160⟩) ⟨owner, Fee.default⟩),
    .register ⟨1#160⟩, .failNext "setPendingOwner" (.transport "lost"),
    .ask (.submit contract (.setPendingOwner ⟨2#160⟩) ⟨owner, Fee.default⟩),
    .ask (.submit contract .acceptOwnership ⟨owner, Fee.default⟩),
    .handOver (.transfer stamp contract owner nominee Fee.default),
    .register ⟨2#160⟩,
    .handOver (.accept stamp contract nominee Fee.default)]

theorem numbered_mixedUse :
    (History.of (new ⟨9#160⟩ ⟨1#160⟩) mixedUse).moments.length < 2 ^ 64 ∧
      (reached (History.of (new ⟨9#160⟩ ⟨1#160⟩) mixedUse).moments).length = 4 ∧
      Numbered (History.of (new ⟨9#160⟩ ⟨1#160⟩) mixedUse) := by
  have hshort : (History.of (new ⟨9#160⟩ ⟨1#160⟩) mixedUse).moments.length < 2 ^ 64 := by
    decide +kernel
  exact ⟨hshort, by decide +kernel, numbered_from_one _ _ _ hshort⟩

end TwoStep.Ledger
