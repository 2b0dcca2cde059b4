import Mathlib.Data.Fin.VecNotation
import Mathlib.Logic.Function.Basic
import TwoStep.Proofs.Handoff.Course
import TwoStep.Proofs.Ledger.Submission

/-!
# Hand-overs side by side

Several sessions can share one client.  A `Pool` holds the client's state and
what is left of each session; a schedule says whose turn it is, and at its turn
a session prints one thing or asks one question.  Between a session's reading
of the slots and its submissions anything may happen, so what it read may be
stale when it submits.

The subject is a contest over one ledger: transfers by one and the same owner,
and acceptances, none of them for that owner.  A session still in the contest
(`Contending`) submits nothing but nominations by the owner and acceptances by
its own nominee, and it succeeds exactly if such an acceptance goes through.
The pool then stands in one of two ways (`Standing`): nobody has taken over, or
one session has and nobody else can any more, because the owner is gone and
nobody is pending.  `at_most_one_takes_over` is what that leaves of every
interleaving.
-/

namespace TwoStep

/-! ## Pools -/

/-- Sessions that share one client. -/
structure Pool (n : Nat) (σ α : Type) where
  state : σ
  sessions : Fin n → Session α

namespace Pool

variable {n : Nat} {σ α : Type}

/-- The turn of one session: it prints one thing or asks one question. -/
def step (client : Client σ) (p : Pool n σ α) (i : Fin n) : Pool n σ α :=
  match p.sessions i with
  | .done _ => p
  | .emit _ rest => { p with sessions := Function.update p.sessions i rest }
  | .ask q next =>
    let turn := client q p.state
    ⟨turn.state, Function.update p.sessions i (next turn.reply)⟩

section Step

variable {client : Client σ} {p : Pool n σ α} {i : Fin n}

theorem step_done {a : α} (h : p.sessions i = .done a) : p.step client i = p := by
  simp only [step, h]

theorem step_emit {o : Output} {rest : Session α} (h : p.sessions i = .emit o rest) :
    p.step client i = { p with sessions := Function.update p.sessions i rest } := by
  simp only [step, h]

theorem step_ask {q : Query} {next : q.Reply → Session α} (h : p.sessions i = .ask q next) :
    p.step client i =
      ⟨(client q p.state).state,
        Function.update p.sessions i (next (client q p.state).reply)⟩ := by
  simp only [step, h]

end Step

/-- The pool after the turns of a schedule. -/
def play (client : Client σ) (p : Pool n σ α) (schedule : List (Fin n)) : Pool n σ α :=
  schedule.foldl (step client) p

/-- What a session returned, once it has come to its end. -/
def returned? (p : Pool n σ α) (i : Fin n) : Option α :=
  match p.sessions i with
  | .done a => some a
  | _ => none

theorem sessions_of_returned? {p : Pool n σ α} {i : Fin n} {a : α}
    (h : p.returned? i = some a) : p.sessions i = .done a := by
  unfold returned? at h
  split at h
  · rename_i b hb
    rw [hb, Option.some.inj h]
  · cases h

end Pool

namespace Handoff

open Session Function

/-! ## Contenders -/

/-- Nothing is asked any more, and the session returns a success. -/
inductive Succeeding : Session (Except TransferError Unit) → Prop where
  | done : Succeeding (.done (.ok ()))
  | emit (o : Output) {s : Session (Except TransferError Unit)} :
      Succeeding s → Succeeding (.emit o s)

/-- A session that submits nominations by `a` and acceptances by `n` only,
and that succeeds exactly if an acceptance of its own goes through. -/
inductive Contending (a n : Address) : Session (Except TransferError Unit) → Prop where
  | failed (e : TransferError) : Contending a n (.done (.error e))
  | emit (o : Output) {s : Session (Except TransferError Unit)} :
      Contending a n s → Contending a n (.emit o s)
  | owner (c : Contract)
      {next : (Query.owner c).Reply → Session (Except TransferError Unit)} :
      (∀ r, Contending a n (next r)) → Contending a n (.ask (.owner c) next)
  | pendingOwner (c : Contract)
      {next : (Query.pendingOwner c).Reply → Session (Except TransferError Unit)} :
      (∀ r, Contending a n (next r)) → Contending a n (.ask (.pendingOwner c) next)
  | nominate (c : Contract) (nominee : Address) (o : CallOptions)
      {next : (Query.submit c (.setPendingOwner nominee) o).Reply →
        Session (Except TransferError Unit)} :
      o.sender.address = a → (∀ r, Contending a n (next r)) →
      Contending a n (.ask (.submit c (.setPendingOwner nominee) o) next)
  | accept (c : Contract) (o : CallOptions)
      {next : (Query.submit c .acceptOwnership o).Reply → Session (Except TransferError Unit)} :
      o.sender.address = n → (∀ r, Succeeding (next (.ok r))) →
      (∀ e, Contending a n (next (.error e))) →
      Contending a n (.ask (.submit c .acceptOwnership o) next)

theorem Succeeding.of_quiet {s : Session (Except TransferError Unit)} (h : Succeeding s.quiet) :
    Succeeding s := by
  induction s with
  | done v => exact h
  | emit o rest ih => exact .emit o (ih h)
  | ask q next ih => cases h

/-- Printing does not matter to a contender. -/
theorem Contending.of_quiet {a n : Address} {s : Session (Except TransferError Unit)}
    (h : Contending a n s.quiet) : Contending a n s := by
  induction s with
  | done v => exact h
  | emit o rest ih => exact .emit o (ih h)
  | ask q next ih =>
      cases h with
      | owner c hnext => exact .owner c fun r => ih r (hnext r)
      | pendingOwner c hnext => exact .pendingOwner c fun r => ih r (hnext r)
      | nominate c nominee o ho hnext => exact .nominate c nominee o ho fun r => ih r (hnext r)
      | accept c o ho hok herror =>
          exact .accept c o ho (fun r => (hok r).of_quiet) fun e => ih _ (herror e)

/-- The account an errand hands the contract to. -/
def Errand.newOwner : Errand → Address
  | .transfer _ _ _ newOwner _ => newOwner.address
  | .accept _ _ newOwner _ => newOwner.address

/-- An errand that acts for no other owner than `a`. -/
def Errand.ActsFor (a : Address) : Errand → Prop
  | .transfer _ _ currentOwner _ _ => currentOwner.address = a
  | .accept .. => True

instance (a : Address) : (e : Errand) → Decidable (e.ActsFor a)
  | .transfer _ _ currentOwner _ _ => inferInstanceAs (Decidable (currentOwner.address = a))
  | .accept .. => inferInstanceAs (Decidable True)

theorem Errand.contending {a : Address} {e : Errand} (h : e.ActsFor a) :
    Contending a e.newOwner e.session := by
  refine Contending.of_quiet ?_
  cases e with
  | transfer stamp c currentOwner newOwner fee =>
      simp only [Errand.session, map_eq, quiet_bind, quiet_transferOwnership, transferQuestions,
        bind_ask, quiet]
      refine .owner c fun r => ?_
      rcases r with e | owner
      · exact .failed _
      refine .pendingOwner c fun r => ?_
      rcases r with e | pendingOwner
      · exact .failed _
      refine .nominate c _ _ h fun r => ?_
      rcases r with e | nomination
      · exact .failed _
      exact .accept c _ rfl (fun r => .done) fun e => .failed _
  | accept stamp c newOwner fee =>
      simp only [Errand.session, map_eq, quiet_bind, quiet_acceptPending, acceptQuestions,
        bind_ask, quiet]
      refine .owner c fun r => ?_
      rcases r with e | owner
      · exact .failed _
      refine .pendingOwner c fun r => ?_
      rcases r with e | pendingOwner
      · exact .failed _
      by_cases hp : pendingOwner = newOwner.address
      · simp only [hp, ne_eq, not_true, if_false, bind_ask]
        exact .accept c _ rfl (fun r => .done) fun e => .failed _
      · simp only [hp, ne_eq, not_false_eq_true, if_true, bind_done]
        exact .failed _

/-! ## One question of a contender -/

section Ask

variable {a n : Address} {q : Query} {next : q.Reply → Session (Except TransferError Unit)}

/-- A contender's question leaves the owner alone and it in the contest, or
makes its nominee the owner and clears the pending owner. -/
theorem Contending.ask_cases (h : Contending a n (.ask q next)) (l : Ledger) :
    ((Ledger.client q l).state.owner = l.owner ∧
        Contending a n (next (Ledger.client q l).reply)) ∨
      ((Ledger.client q l).state.snapshot = ⟨n, Address.zero⟩ ∧
        Succeeding (next (Ledger.client q l).reply)) := by
  cases h with
  | owner c hnext => exact Or.inl ⟨rfl, hnext _⟩
  | pendingOwner c hnext => exact Or.inl ⟨rfl, hnext _⟩
  | nominate c nominee o ho hnext =>
      refine Or.inl ⟨?_, hnext _⟩
      rcases Ledger.submit_slots l c (.setPendingOwner nominee) o with
        ⟨e, -, hs⟩ | ⟨r, t, -, happly, hs⟩
      · exact congrArg Snapshot.owner hs
      · obtain ⟨-, -, rfl⟩ := Ledger.apply_setPendingOwner_iff.mp happly
        exact congrArg Snapshot.owner hs
  | accept c o ho hok herror =>
      rcases Ledger.submit_slots l c .acceptOwnership o with ⟨e, hr, hs⟩ | ⟨r, t, hr, happly, hs⟩
      · refine Or.inl ⟨congrArg Snapshot.owner hs, ?_⟩
        simp only [Ledger.client, hr]
        exact herror e
      · refine Or.inr ⟨?_, ?_⟩
        · obtain ⟨-, hsender, rfl⟩ := Ledger.apply_acceptOwnership_iff.mp happly
          rw [← ho, hsender]
          exact hs
        · simp only [Ledger.client, hr]
          exact hok r

/-- Once the owner is gone and nobody is pending, a contender's question
changes nothing. -/
theorem Contending.ask_lost (h : Contending a n (.ask q next)) {l : Ledger}
    (howner : l.owner ≠ a) (hpending : l.pendingOwner = Address.zero) :
    (Ledger.client q l).state.snapshot = l.snapshot ∧
      Contending a n (next (Ledger.client q l).reply) := by
  cases h with
  | owner c hnext => exact ⟨rfl, hnext _⟩
  | pendingOwner c hnext => exact ⟨rfl, hnext _⟩
  | nominate c nominee o ho hnext =>
      refine ⟨?_, hnext _⟩
      rcases Ledger.submit_slots l c (.setPendingOwner nominee) o with
        ⟨e, -, hs⟩ | ⟨r, t, -, happly, -⟩
      · exact hs
      · obtain ⟨hsender, -, -⟩ := Ledger.apply_setPendingOwner_iff.mp happly
        exact absurd (hsender.symm.trans ho) howner
  | accept c o ho hok herror =>
      rcases Ledger.submit_slots l c .acceptOwnership o with ⟨e, hr, hs⟩ | ⟨r, t, -, happly, -⟩
      · refine ⟨hs, ?_⟩
        simp only [Ledger.client, hr]
        exact herror e
      · obtain ⟨hz, -, -⟩ := Ledger.apply_acceptOwnership_iff.mp happly
        exact absurd hpending hz

end Ask

/-! ## The contest -/

/-- How a pool of contenders stands.  `owner` is who owned the contract before
the contest, `a` the account whose transfers take part, `new i` the nominee of
session `i`. -/
inductive Standing {n : Nat} (owner a : Address) (new : Fin n → Address)
    (p : Pool n Ledger (Except TransferError Unit)) : Prop where
  | undecided (howner : p.state.owner = owner)
      (hall : ∀ i, Contending a (new i) (p.sessions i))
  | decided (k : Fin n) (hslots : p.state.snapshot = ⟨new k, Address.zero⟩)
      (hk : Succeeding (p.sessions k))
      (hothers : ∀ i, i ≠ k → Contending a (new i) (p.sessions i))

section Contest

variable {n : Nat} {owner a : Address} {new : Fin n → Address}
  {p : Pool n Ledger (Except TransferError Unit)}

/-- A turn while nobody has taken over. -/
theorem Standing.step_undecided (howner : p.state.owner = owner)
    (hall : ∀ i, Contending a (new i) (p.sessions i)) (i : Fin n) :
    Standing owner a new (p.step Ledger.client i) := by
  have hi := hall i
  cases hs : p.sessions i with
  | done v =>
      rw [Pool.step_done hs]
      exact .undecided howner hall
  | emit o rest =>
      rw [Pool.step_emit hs]
      rw [hs] at hi
      cases hi with
      | emit _ hrest =>
          exact .undecided howner ((forall_update_iff _ fun j s =>
            Contending a (new j) s).mpr ⟨hrest, fun j _ => hall j⟩)
  | ask q next =>
      rw [Pool.step_ask hs]
      rw [hs] at hi
      rcases hi.ask_cases p.state with ⟨hsame, hnext⟩ | ⟨hslots, hnext⟩
      · exact .undecided (hsame.trans howner) ((forall_update_iff _ fun j s =>
          Contending a (new j) s).mpr ⟨hnext, fun j _ => hall j⟩)
      · refine .decided i hslots ?_ fun j hj => ?_
        · simpa only [update_self] using hnext
        · simpa only [update_of_ne hj] using hall j

/-- A turn of the session that has taken over: it only prints. -/
theorem Standing.step_winner {k : Fin n} (hslots : p.state.snapshot = ⟨new k, Address.zero⟩)
    (hk : Succeeding (p.sessions k))
    (hothers : ∀ i, i ≠ k → Contending a (new i) (p.sessions i)) :
    Standing owner a new (p.step Ledger.client k) := by
  cases hs : p.sessions k with
  | done v =>
      rw [Pool.step_done hs]
      exact .decided k hslots hk hothers
  | emit o rest =>
      rw [Pool.step_emit hs]
      rw [hs] at hk
      cases hk with
      | emit _ hrest =>
          refine .decided k hslots ?_ fun j hj => ?_
          · simpa only [update_self] using hrest
          · simpa only [update_of_ne hj] using hothers j hj
  | ask q next =>
      rw [hs] at hk
      cases hk

/-- A turn of another session after that: whatever it still submits is
refused. -/
theorem Standing.step_loser {k i : Fin n} (hgone : new k ≠ a) (hik : i ≠ k)
    (hslots : p.state.snapshot = ⟨new k, Address.zero⟩) (hk : Succeeding (p.sessions k))
    (hothers : ∀ i, i ≠ k → Contending a (new i) (p.sessions i)) :
    Standing owner a new (p.step Ledger.client i) := by
  have hi := hothers i hik
  cases hs : p.sessions i with
  | done v =>
      rw [Pool.step_done hs]
      exact .decided k hslots hk hothers
  | emit o rest =>
      rw [Pool.step_emit hs]
      rw [hs] at hi
      cases hi with
      | emit _ hrest =>
          refine .decided k hslots ?_ ((forall_update_iff _ fun j s => j ≠ k →
            Contending a (new j) s).mpr ⟨fun _ => hrest, fun j _ => hothers j⟩)
          simpa only [update_of_ne hik.symm] using hk
  | ask q next =>
      rw [Pool.step_ask hs]
      rw [hs] at hi
      obtain ⟨howner, hpending⟩ := Snapshot.mk.inj hslots
      rw [← howner] at hgone
      obtain ⟨hsame, hnext⟩ := hi.ask_lost hgone hpending
      refine .decided k (hsame.trans hslots) ?_ ((forall_update_iff _ fun j s => j ≠ k →
        Contending a (new j) s).mpr ⟨fun _ => hnext, fun j _ => hothers j⟩)
      simpa only [update_of_ne hik.symm] using hk

theorem Standing.step (hnew : ∀ i, new i ≠ a) (h : Standing owner a new p) (i : Fin n) :
    Standing owner a new (p.step Ledger.client i) := by
  cases h with
  | undecided howner hall => exact step_undecided howner hall i
  | decided k hslots hk hothers =>
      by_cases hik : i = k
      · subst hik
        exact step_winner hslots hk hothers
      · exact step_loser (hnew k) hik hslots hk hothers

theorem Standing.play (hnew : ∀ i, new i ≠ a) (h : Standing owner a new p)
    (schedule : List (Fin n)) : Standing owner a new (p.play Ledger.client schedule) := by
  induction schedule generalizing p with
  | nil => exact h
  | cons i rest ih => exact ih (h.step hnew i)

end Contest

/-- Errands side by side over one ledger. -/
def contest {n : Nat} (l : Ledger) (errands : Fin n → Errand) :
    Pool n Ledger (Except TransferError Unit) :=
  ⟨l, fun i => (errands i).session⟩

/-- Of hand-overs by one owner and of acceptances, none of them for that
owner, at most one returns a success, in whatever order their questions are
put; its new owner then owns the contract and nobody is pending.  If all of
them return failures, the owner is unchanged. -/
theorem at_most_one_takes_over (l : Ledger) (a : Address) {n : Nat} (errands : Fin n → Errand)
    (hfor : ∀ i, (errands i).ActsFor a) (hnew : ∀ i, (errands i).newOwner ≠ a)
    (schedule : List (Fin n)) :
    let p := (contest l errands).play Ledger.client schedule
    (∀ i j, p.returned? i = some (.ok ()) → p.returned? j = some (.ok ()) → i = j) ∧
    (∀ i, p.returned? i = some (.ok ()) →
      p.state.owner = (errands i).newOwner ∧ p.state.pendingOwner = Address.zero) ∧
    ((∀ i, ∃ e, p.returned? i = some (.error e)) → p.state.owner = l.owner) := by
  intro p
  have hall (i : Fin n) : Contending a (errands i).newOwner ((contest l errands).sessions i) :=
    Errand.contending (hfor i)
  have hstanding : Standing l.owner a (fun i => (errands i).newOwner) p :=
    Standing.play hnew (.undecided rfl hall) schedule
  have hok {i : Fin n} (hi : p.returned? i = some (.ok ())) :
      ¬Contending a (errands i).newOwner (p.sessions i) := by
    rw [Pool.sessions_of_returned? hi]
    intro h
    cases h
  cases hstanding with
  | undecided howner hall =>
      exact ⟨fun i _ hi _ => absurd (hall i) (hok hi), fun i hi => absurd (hall i) (hok hi),
        fun _ => howner⟩
  | decided k hslots hk hothers =>
      have hwinner {i : Fin n} (hi : p.returned? i = some (.ok ())) : i = k :=
        Decidable.byContradiction fun hik => hok hi (hothers i hik)
      refine ⟨fun i j hi hj => (hwinner hi).trans (hwinner hj).symm, fun i hi => ?_,
        fun hfail => ?_⟩
      · rw [hwinner hi]
        exact Snapshot.mk.inj hslots
      · obtain ⟨e, he⟩ := hfail k
        rw [Pool.sessions_of_returned? he] at hk
        cases hk

/-! A contest of three: the account 1 hands the contract at 9 over to 2 and to
3 at once, while 4, who is still pending, accepts. -/

def disputed : Ledger where
  address := ⟨9⟩
  owner := ⟨1⟩
  pendingOwner := ⟨4⟩
  signers := [⟨1⟩, ⟨2⟩, ⟨3⟩, ⟨4⟩]

def rivals : Fin 3 → Errand :=
  let epoch : Instant := ⟨1970, 1, 1, 0, 0, 0, 0⟩
  let stamp : Stamp := ⟨"", epoch, epoch⟩
  ![.transfer stamp ⟨⟨9⟩⟩ ⟨"owner", ⟨1⟩⟩ ⟨"second", ⟨2⟩⟩ Fee.default,
    .transfer stamp ⟨⟨9⟩⟩ ⟨"owner", ⟨1⟩⟩ ⟨"third", ⟨3⟩⟩ Fee.default,
    .accept stamp ⟨⟨9⟩⟩ ⟨"fourth", ⟨4⟩⟩ Fee.default]

/-- The acceptance reads the slots first and submits last; between the two the
hand-overs take turns. -/
def turns : List (Fin 3) :=
  List.replicate 3 2 ++ (List.replicate 10 [0, 1]).flatten ++ List.replicate 4 2

/-- The second nomination replaces the first, which had replaced what the
acceptance read; only the second hand-over succeeds. -/
theorem at_most_one_takes_over_of_rivals :
    let p := (contest disputed rivals).play Ledger.client turns
    p.returned? 1 = some (.ok ()) ∧ p.state.owner = ⟨3⟩ ∧
      ∀ i, i ≠ 1 → p.returned? i ≠ some (.ok ()) := by
  have hone : ((contest disputed rivals).play Ledger.client turns).returned? 1 =
      some (.ok ()) := by
    decide +kernel
  obtain ⟨hunique, hwinner, -⟩ :=
    at_most_one_takes_over disputed ⟨1⟩ rivals (by decide) (by decide) turns
  exact ⟨hone, (hwinner 1 hone).1, fun i hi hok => hi (hunique i 1 hok hone)⟩

end Handoff

end TwoStep
