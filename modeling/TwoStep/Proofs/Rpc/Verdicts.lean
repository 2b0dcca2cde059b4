import TwoStep.Proofs.Rpc.Requested

/-!
# What the reply to a submission tells

Whoever submits a call sees only the reply, and has to know from it whether a
transaction is out.  This module reads the reply as a verdict on what was said to
the node, and shows that it is right whatever the node answers.

`talks_submit` has the ways in which a submission can go, but leaves open with
which failure it ends among its inquiries, and so would allow it to speak of a
receipt before there is a transaction.  `talks_fill_fails` closes this gap: while a
transaction is filled in, the client can only find the connection broken or the
call refused.  With it the four ways of `SubmitVerdict` no longer overlap in their
replies, and each field of `Classified` is a case analysis over them.
-/

namespace TwoStep

theorem Connection.signers_readOnly {rpcUrl : String} {conn : Connection}
    (h : Connection.readOnly rpcUrl = .ok conn) : conn.signers = [] := by
  unfold readOnly at h
  cases hurl : endpoint rpcUrl with
  | error e => simp [hurl, bind, Except.bind] at h
  | ok url =>
      simp only [hurl, bind, Except.bind, pure, Except.pure, Except.ok.injEq] at h
      rw [← h]

namespace Rpc

variable {ν α β : Type}

/-! ## The failures of a talk -/

/-- If a talk fails, it is with one of some failures. -/
def Fails (P : ClientError → Prop) (r : Except ClientError α) (_ : List Exchange) : Prop :=
  ∀ e, r = .error e → P e

namespace Fails

variable {P : ClientError → Prop}

theorem ok {a : α} {xs : List Exchange} : Fails P (.ok a) xs := by
  rintro e ⟨⟩

theorem error {e : ClientError} {xs : List Exchange} (h : P e) :
    Fails P (.error e : Except ClientError α) xs := by
  intro e' he
  rw [← Except.error.inj he]
  exact h

theorem ask {node : Node ν} {failure : NodeFailure → ClientError} {r : Request}
    (h : ∀ f, P (failure f)) : Talks (ask node failure r) (Fails P) :=
  Talks.of_ask (fun _ => ok) (fun f => error (h f))

theorem bind {m : Talk ν α} {f : α → Talk ν β} (hm : Talks m (Fails P))
    (hf : ∀ a, Talks (f a) (Fails P)) : Talks (m >>= f) (Fails P) := by
  refine Talks.of_bind hm (fun a xs _ => hf a) (fun e xs hxs => ?_)
  exact error (hxs e rfl)

end Fails

/-- The failures before a transaction of a call is sent. -/
inductive EarlyFailure (method : String) : ClientError → Prop where
  | broken (message : String) : EarlyFailure method (.transport message)
  | refused (message : String) : EarlyFailure method (.rejected method message)

variable (node : Node ν)

theorem talks_baseFee_fails (method : String) (h : FeeHistory) :
    Talks (baseFee node h) (Fails (EarlyFailure method)) := by
  unfold baseFee
  split
  · exact Talks.of_pure .ok
  · refine Fails.bind (Fails.ask fun f => .broken f.message) fun latest => ?_
    split
    · exact Talks.of_throw (.error (.broken _))
    · exact Talks.of_throw (.error (.broken _))
    · exact Talks.of_pure .ok

theorem talks_feeEstimate_fails (method : String) :
    Talks (feeEstimate node) (Fails (EarlyFailure method)) := by
  refine Fails.bind (Fails.ask fun f => .broken f.message) fun h => ?_
  refine Fails.bind (talks_baseFee_fails node method h) fun base => ?_
  exact Talks.of_pure .ok

theorem talks_nextNonce_fails (method : String) (sender : Address) :
    Talks (nextNonce node method sender) (Fails (EarlyFailure method)) := by
  have hcount (n : Nat) : Talks (ν := ν)
      (do
        modify fun l =>
          { l with nonces := (sender, n + 1) :: l.nonces.filter (·.1 ≠ sender) }
        return n)
      (Fails (EarlyFailure method)) := by
    refine Fails.bind (Talks.of_modify (fun _ => rfl) .ok) fun _ => ?_
    exact Talks.of_pure .ok
  refine Talks.of_get fun l => ?_
  split
  · exact Fails.bind (Talks.of_pure .ok) hcount
  · exact Fails.bind (Fails.ask fun f => .refused f.message) hcount

theorem talks_chainId_fails (method : String) :
    Talks (chainId node method) (Fails (EarlyFailure method)) := by
  refine Talks.of_get fun l => ?_
  split
  · exact Talks.of_pure .ok
  · refine Fails.bind (Fails.ask fun f => .refused f.message) fun n => ?_
    refine Fails.bind (Talks.of_modify (fun _ => rfl) .ok) fun _ => ?_
    exact Talks.of_pure .ok

variable (contract : Contract) (call : Call) (options : CallOptions)

theorem talks_fill_fails :
    Talks (fill node contract call options) (Fails (EarlyFailure call.method)) := by
  refine Fails.bind (talks_feeEstimate_fails node call.method) fun e => ?_
  refine Fails.bind (Fails.ask fun f => .refused f.message) fun gas => ?_
  refine Fails.bind (talks_nextNonce_fails node call.method options.sender.address) fun nonce => ?_
  refine Fails.bind (talks_chainId_fails node call.method) fun chainId => ?_
  exact Talks.of_pure .ok

/-! ## The ways of a submission -/

/-- The ways in which a submission can go, with the replies they end in. -/
inductive SubmitVerdict (signers : List Address) (contract : Contract) (call : Call)
    (options : CallOptions) : List Exchange → Except ClientError Receipt → Prop where
  /-- There is no key for the sender, and nothing is said. -/
  | unknown (hsender : options.sender.address ∉ signers) :
      SubmitVerdict signers contract call options []
        (.error (.unknownSigner options.sender.address))
  /-- No transaction comes about. -/
  | unsent (xs : List Exchange) (e : ClientError) (hsender : options.sender.address ∈ signers)
      (hxs : ∀ x ∈ xs, x.isInquiry) (he : EarlyFailure call.method e) :
      SubmitVerdict signers contract call options xs (.error e)
  /-- A transaction meets its fate. -/
  | sent (xs : List Exchange) (t : Transaction) (ys : List Exchange)
      (reply : Except ClientError Receipt) (hsender : options.sender.address ∈ signers)
      (hxs : ∀ x ∈ xs, x.isInquiry) (ht : Carries signers contract call options t)
      (hfate : Fate call.method t ys reply) :
      SubmitVerdict signers contract call options (xs ++ ys) reply

variable (signers : List Address)

theorem talks_submit_verdict :
    Talks (submit node signers contract call options) fun r xs =>
      SubmitVerdict signers contract call options xs r := by
  unfold submit
  split
  case isFalse hsender => exact Talks.of_throw (.unknown hsender)
  case isTrue hsender =>
  have hfill := (talks_fill node signers contract call options hsender).and
    (talks_fill_fails node contract call options)
  refine Talks.of_bind hfill (fun t xs h => ?_) (fun e xs h => ?_)
  · obtain ⟨⟨hxs, ht⟩, -⟩ := h
    have ht := ht t rfl
    refine Talks.of_ask_bind (fun h => ?_) (fun f => .sent xs t _ _ hsender hxs ht (.refused f))
    refine Talks.of_ask_bind (fun i => ?_) (fun f => .sent xs t _ _ hsender hxs ht (.lost h f))
    obtain ⟨succeeded, block⟩ := i
    cases succeeded with
    | true => exact Talks.of_pure (.sent xs t _ _ hsender hxs ht (.completed h block))
    | false => exact Talks.of_throw (.sent xs t _ _ hsender hxs ht (.reverted h block))
  · obtain ⟨⟨hxs, -⟩, he⟩ := h
    exact .unsent xs e hsender hxs (he e rfl)

/-! ## Reading the reply -/

/-- The node took a transaction and returned its hash. -/
def Took (hash : TxHash) (xs : List Exchange) : Prop :=
  ∃ t, ⟨.send t, .ok hash⟩ ∈ xs

/-- What the node said when it was asked what became of a transaction. -/
def Told (hash : TxHash) (a : Except NodeFailure Inclusion) (xs : List Exchange) : Prop :=
  ⟨.inclusion hash, a⟩ ∈ xs

section Pieces

variable {xs ys : List Exchange} (hxs : ∀ x ∈ xs, x.isInquiry)
include hxs

theorem not_took_of_inquiries (hash : TxHash) : ¬ Took hash xs := by
  rintro ⟨t, ht⟩
  exact Handoff.not_mem_send hxs t _ ht

theorem not_told_of_inquiries (hash : TxHash) (a : Except NodeFailure Inclusion) :
    ¬ Told hash a xs :=
  Handoff.not_mem_inclusion hxs hash a

theorem took_append_iff (hash : TxHash) : Took hash (xs ++ ys) ↔ Took hash ys := by
  constructor
  · rintro ⟨t, ht⟩
    rcases List.mem_append.mp ht with hleft | hright
    · exact absurd ⟨t, hleft⟩ (not_took_of_inquiries hxs hash)
    · exact ⟨t, hright⟩
  · rintro ⟨t, ht⟩
    exact ⟨t, List.mem_append_right xs ht⟩

theorem told_append_iff (hash : TxHash) (a : Except NodeFailure Inclusion) :
    Told hash a (xs ++ ys) ↔ Told hash a ys := by
  constructor
  · intro h
    rcases List.mem_append.mp h with hleft | hright
    · exact absurd hleft (not_told_of_inquiries hxs hash a)
    · exact hright
  · intro h
    exact List.mem_append_right xs h

end Pieces

section Taken

variable {t : Transaction} {hash h : TxHash} {a a' : Except NodeFailure Inclusion}

theorem not_took_refused {f : NodeFailure} : ¬ Took hash [⟨.send t, .error f⟩] := by
  rintro ⟨t', ht⟩
  rcases List.mem_singleton.mp ht with ⟨⟩

theorem took_taken_iff : Took hash [⟨.send t, .ok h⟩, ⟨.inclusion h, a⟩] ↔ hash = h := by
  constructor
  · rintro ⟨t', ht⟩
    rcases List.mem_cons.mp ht with heq | hrest
    · cases heq
      rfl
    · rcases List.mem_singleton.mp hrest with ⟨⟩
  · rintro rfl
    exact ⟨t, List.mem_cons_self⟩

theorem told_taken_iff :
    Told hash a' [⟨.send t, .ok h⟩, ⟨.inclusion h, a⟩] ↔ hash = h ∧ a' = a := by
  constructor
  · intro htold
    rcases List.mem_cons.mp htold with hfirst | hrest
    · cases hfirst
    · cases List.mem_singleton.mp hrest
      exact ⟨rfl, rfl⟩
  · rintro ⟨rfl, rfl⟩
    exact List.mem_cons_of_mem _ (List.mem_singleton_self _)

end Taken

/-- A reply tells what became of a transaction. -/
structure Tells (method : String) (xs : List Exchange) (reply : Except ClientError Receipt) :
    Prop where
  /-- There is a receipt just if the node took the transaction and saw it succeed. -/
  receipt : ∀ r, reply = .ok r ↔
    r.method = method ∧ Took r.txHash xs ∧ Told r.txHash (.ok ⟨true, r.block⟩) xs
  /-- A revert names the transaction that the node took and saw fail. -/
  revert : ∀ method' hash? reason, reply = .error (.reverted method' hash? reason) →
    method' = method ∧ ∃ hash block,
      hash? = some hash ∧ Took hash xs ∧ Told hash (.ok ⟨false, block⟩) xs
  /-- A transaction that the node took and saw fail is reported as a revert. -/
  reverts : ∀ hash block, Took hash xs → Told hash (.ok ⟨false, block⟩) xs →
    ∃ reason, reply = .error (.reverted method (some hash) reason)
  /-- After a rejection no transaction is out. -/
  rejection : ∀ method' message, reply = .error (.rejected method' message) →
    method' = method ∧ ∀ hash, ¬ Took hash xs
  /-- After a failure of the connection one is out only if the failure names it,
  and then nothing is known of what became of it. -/
  transport : ∀ message, reply = .error (.transport message) →
    (∀ hash, ¬ Took hash xs) ∨
      ∃ hash f, Took hash xs ∧ Told hash (.error f) xs ∧
        .transport message = lostTrack method hash f

namespace Tells

variable {method : String} {xs ys : List Exchange} {reply : Except ClientError Receipt}

theorem of_fate {t : Transaction} (h : Fate method t xs reply) : Tells method xs reply := by
  cases h with
  | refused f =>
      have hnone (hash : TxHash) : ¬ Took hash [⟨.send t, .error f⟩] := not_took_refused
      exact {
        receipt := by simp [hnone]
        revert := by simp [refusedCall]
        reverts := fun hash _ h => absurd h (hnone hash)
        rejection := by
          rintro method' message ⟨⟩
          exact ⟨rfl, hnone⟩
        transport := fun _ _ => .inl hnone }
  | lost h f =>
      exact {
        receipt := by
          refine fun r => ⟨nofun, ?_⟩
          rintro ⟨-, -, htold⟩
          cases (told_taken_iff.mp htold).2
        revert := by simp [lostTrack]
        reverts := by
          intro hash block _ htold
          cases (told_taken_iff.mp htold).2
        rejection := by simp [lostTrack]
        transport := by
          intro message hmessage
          have htold : Told h (.error f) [⟨.send t, .ok h⟩, ⟨.inclusion h, .error f⟩] :=
            told_taken_iff.mpr ⟨rfl, rfl⟩
          exact .inr ⟨h, f, took_taken_iff.mpr rfl, htold, (Except.error.inj hmessage).symm⟩ }
  | reverted h block =>
      exact {
        receipt := by
          refine fun r => ⟨nofun, ?_⟩
          rintro ⟨-, -, htold⟩
          cases (told_taken_iff.mp htold).2
        revert := by
          rintro method' hash? reason ⟨⟩
          exact ⟨rfl, h, block, rfl, took_taken_iff.mpr rfl, told_taken_iff.mpr ⟨rfl, rfl⟩⟩
        reverts := by
          intro hash block' htook _
          obtain rfl := took_taken_iff.mp htook
          exact ⟨_, rfl⟩
        rejection := by simp
        transport := by simp }
  | completed h block =>
      exact {
        receipt := by
          intro r
          constructor
          · rintro ⟨⟩
            exact ⟨rfl, took_taken_iff.mpr rfl, told_taken_iff.mpr ⟨rfl, rfl⟩⟩
          · rintro ⟨hmethod, -, htold⟩
            obtain ⟨hhash, hblock⟩ := told_taken_iff.mp htold
            obtain ⟨method', hash, block'⟩ := r
            cases hblock
            rw [← hmethod, ← hhash]
        revert := by simp
        reverts := by
          intro hash block' _ htold
          cases (told_taken_iff.mp htold).2
        rejection := by simp
        transport := by simp }

/-- Inquiries change nothing in what a reply tells. -/
theorem behind (hxs : ∀ x ∈ xs, x.isInquiry) (h : Tells method ys reply) :
    Tells method (xs ++ ys) reply := by
  constructor <;> simp only [took_append_iff hxs, told_append_iff hxs]
  · exact h.receipt
  · exact h.revert
  · exact h.reverts
  · exact h.rejection
  · exact h.transport

theorem of_unsent {e : ClientError} (hxs : ∀ x ∈ xs, x.isInquiry) (he : EarlyFailure method e) :
    Tells method xs (.error e) where
  receipt := by simp [not_took_of_inquiries hxs]
  revert := by
    rintro method' hash? reason ⟨⟩
    cases he
  reverts := fun hash block h => absurd h (not_took_of_inquiries hxs hash)
  rejection := by
    rintro method' message ⟨⟩
    cases he
    exact ⟨rfl, not_took_of_inquiries hxs⟩
  transport := fun _ _ => .inl (not_took_of_inquiries hxs)

theorem of_unknown {a : Address} : Tells method [] (.error (.unknownSigner a)) where
  receipt := by simp [Took]
  revert := by simp
  reverts := by simp [Took]
  rejection := by simp
  transport := by simp

end Tells

/-- A reply classifies what was said to the node at a submission. -/
structure Classified (signers : List Address) (contract : Contract) (call : Call)
    (options : CallOptions) (xs : List Exchange) (reply : Except ClientError Receipt) : Prop
    extends Tells call.method xs reply where
  /-- One transaction is sent at most, and it is that of the call. -/
  once : xs.filterMap Exchange.sent? = [] ∨
    ∃ t, Carries signers contract call options t ∧ xs.filterMap Exchange.sent? = [t]
  /-- Without a key for the sender nothing is said. -/
  silent : options.sender.address ∉ signers →
    reply = .error (.unknownSigner options.sender.address) ∧ xs = []
  /-- These are all the failures. -/
  failures : ∀ e, reply = .error e →
    (e = .unknownSigner options.sender.address ∧ options.sender.address ∉ signers) ∨
      (∃ message, e = .transport message) ∨ (∃ message, e = .rejected call.method message) ∨
        ∃ hash reason, e = .reverted call.method (some hash) reason

theorem EarlyFailure.cases_of {method : String} {e : ClientError} (h : EarlyFailure method e) :
    (∃ message, e = .transport message) ∨ ∃ message, e = .rejected method message := by
  cases h with
  | broken message => exact .inl ⟨message, rfl⟩
  | refused message => exact .inr ⟨message, rfl⟩

theorem Fate.failures {method : String} {t : Transaction} {xs : List Exchange} {e : ClientError}
    (h : Fate method t xs (.error e)) :
    (∃ message, e = .transport message) ∨ (∃ message, e = .rejected method message) ∨
      ∃ hash reason, e = .reverted method (some hash) reason := by
  cases h with
  | refused f => exact .inr (.inl ⟨f.message, rfl⟩)
  | lost h f => exact .inl ⟨_, rfl⟩
  | reverted h block => exact .inr (.inr ⟨h, _, rfl⟩)

section Classified

variable {signers} {contract} {call} {options}

theorem SubmitVerdict.classified {xs : List Exchange} {reply : Except ClientError Receipt}
    (h : SubmitVerdict signers contract call options xs reply) :
    Classified signers contract call options xs reply := by
  cases h with
  | unknown hsender =>
      exact {
        toTells := .of_unknown
        once := .inl rfl
        silent := fun _ => ⟨rfl, rfl⟩
        failures := by
          rintro e ⟨⟩
          exact .inl ⟨rfl, hsender⟩ }
  | unsent xs e hsender hxs he =>
      exact {
        toTells := .of_unsent hxs he
        once := .inl (Handoff.sent_of_inquiries hxs)
        silent := fun h => absurd hsender h
        failures := by
          rintro e' ⟨⟩
          rcases he.cases_of with hbroken | hrefused
          · exact .inr (.inl hbroken)
          · exact .inr (.inr (.inl hrefused)) }
  | sent xs t ys reply hsender hxs ht hfate =>
      have hsent : (xs ++ ys).filterMap Exchange.sent? = [t] := by
        rw [List.filterMap_append, Handoff.sent_of_inquiries hxs, Handoff.sent_of_fate hfate,
          List.nil_append]
      exact {
        toTells := (Tells.of_fate hfate).behind hxs
        once := .inr ⟨t, ht, hsent⟩
        silent := fun h => absurd hsender h
        failures := by
          rintro e rfl
          exact .inr hfate.failures }

end Classified

/-! ## Any client -/

/-- A client that only reads sends no transaction in any session. -/
theorem sent_readOnly {rpcUrl : String} {conn : Connection}
    (hconn : Connection.readOnly rpcUrl = .ok conn) (session : Session α) (l : Link ν) :
    (l.since (session.run (client node conn.signers) l).state).filterMap Exchange.sent? = [] := by
  refine List.eq_nil_iff_forall_not_mem.mpr fun t ht => ?_
  obtain ⟨contract, call, options, -, hcarries⟩ := asked_of_sent node conn.signers session l ht
  have hsigned := hcarries.signed
  rw [Connection.signers_readOnly hconn] at hsigned
  cases hsigned

/-- Whatever a node answers, the reply of a client to a submission classifies what
was said to the node.  The keys of a client are those of the keyring it was
connected with; a client that only reads has none, and sends no transaction
whatever it is used for. -/
theorem submissions_classified {ν : Type} (node : Node ν) (conn : Connection) (l : Link ν)
    (contract : Contract) (call : Call) (options : CallOptions) :
    let turn := client node conn.signers (.submit contract call options) l
    (∃ xs, turn.state.exchanges = l.exchanges ++ xs ∧
      Classified conn.signers contract call options xs turn.reply) ∧
    (options.sender.address ∉ conn.signers → turn.state = l) ∧
    (∀ rpcUrl ring, Connection.withKeys rpcUrl ring = .ok conn →
      ∀ a, a ∈ conn.signers ↔ a ∈ ring.addresses) ∧
    (∀ rpcUrl, Connection.readOnly rpcUrl = .ok conn →
      turn.reply = .error (.unknownSigner options.sender.address) ∧
      ∀ session : Session Unit,
        (l.since (session.run (client node conn.signers) l).state).filterMap Exchange.sent? =
          []) := by
  intro turn
  obtain ⟨xs, hxs, hverdict⟩ := talks_submit_verdict node contract call options conn.signers l
  have hclassified : Classified conn.signers contract call options xs turn.reply :=
    hverdict.classified
  refine ⟨⟨xs, hxs, hclassified⟩, fun hsender => ?_, fun rpcUrl ring hconn => ?_,
    fun rpcUrl hconn => ⟨?_, fun session => sent_readOnly node hconn session l⟩⟩
  · have hrun : (submit node conn.signers contract call options).run l =
        (.error (.unknownSigner options.sender.address), l) := by
      rw [submit, if_neg hsender]
      rfl
    exact congrArg Prod.snd hrun
  · exact Connection.mem_signers_withKeys hconn
  · have hsender : options.sender.address ∉ conn.signers := by
      rw [Connection.signers_readOnly hconn]
      exact List.not_mem_nil
    exact (hclassified.silent hsender).1

end Rpc

/-! ## Whom a client signs for

A client is given its keys twice.  Whose calls it takes it sees from the
addresses of the keyring; what it sends is signed by a wallet, in which the keys
of the keyring were registered one by one.  If the two differed, a call could be
taken that cannot be signed, or a key be held in vain.

They agree after every history of a keyring, also where several labels have one
key.  `Keyring.exists_wallet` has the wallet's side of it, and
`Connection.withKeys_eq_ok_iff` the client's; `submit_turned_away_iff` reads the
check off the reply to a submission.
-/

namespace Rpc

/-- A sender is turned away just if it is none of those whose calls are
taken. -/
theorem submit_turned_away_iff {ν : Type} (node : Node ν) (signers : List Address) (l : Link ν)
    (contract : Contract) (call : Call) (options : CallOptions) :
    (client node signers (.submit contract call options) l).reply =
        .error (.unknownSigner options.sender.address) ↔
      options.sender.address ∉ signers := by
  obtain ⟨xs, -, hverdict⟩ := talks_submit_verdict node contract call options signers l
  have hclassified := hverdict.classified
  constructor
  · intro hreply
    obtain ⟨-, hsender⟩ | ⟨message, he⟩ | ⟨message, he⟩ | ⟨hash, reason, he⟩ :=
      hclassified.failures _ hreply
    · exact hsender
    · cases he
    · cases he
    · cases he
  · intro hsender
    exact (hclassified.silent hsender).1

/-- The wallet of a keyring holds just its keys, and a client connected with the
keyring takes just the calls that this wallet can sign. -/
structure SignsForKeyring (ring : Keyring) : Prop where
  empty_iff : ring.wallet = .error .empty ↔ ring.keys = []
  /-- Otherwise there is a wallet. -/
  wallet : ring.keys ≠ [] → ∃ w, ring.wallet = .ok w ∧ Keyring.Serves w ring ∧
    ∀ a, a ∈ w.signers ↔ ∃ k ∈ ring.keys, k.key.address = a
  /-- A client is connected iff the endpoint can be read and there is a key. -/
  connects_iff : ∀ rpcUrl, (∃ conn, Connection.withKeys rpcUrl ring = .ok conn) ↔
    (∃ url, Connection.endpoint rpcUrl = .ok url) ∧ ring.keys ≠ []
  /-- It has that wallet, and turns away just the senders without a key in it. -/
  takes : ∀ rpcUrl conn, Connection.withKeys rpcUrl ring = .ok conn →
    ∃ w, conn.wallet = some w ∧ ring.wallet = .ok w ∧
      ∀ {ν : Type} (node : Node ν) (l : Link ν) contract call (options : CallOptions),
        (client node conn.signers (.submit contract call options) l).reply ≠
            .error (.unknownSigner options.sender.address) ↔
          options.sender.address ∈ w.signers

/-- After any history of a keyring, its wallet has the first key as the default
and signs with all keys and no other, and a client with the keyring takes a call
from a sender iff this wallet holds a key for it. -/
theorem wallet_matches_client (ops : List Keyring.Operation) :
    SignsForKeyring (Keyring.after ops) where
  empty_iff := by
    refine ⟨fun hempty => Classical.byContradiction fun hkeys => ?_, Keyring.wallet_of_nil⟩
    obtain ⟨w, hw, -⟩ := Keyring.exists_wallet hkeys
    cases hempty.symm.trans hw
  wallet := by
    intro hkeys
    obtain ⟨w, hw, hserves⟩ := Keyring.exists_wallet hkeys
    refine ⟨w, hw, hserves, fun a => ?_⟩
    rw [hserves.signers, Keyring.addresses, List.mem_map]
    refine exists_congr fun k => and_congr_right fun hk => ?_
    rw [Keyring.address_of_mem_after hk]
  connects_iff := by
    intro rpcUrl
    simp only [Connection.withKeys_eq_ok_iff]
    constructor
    · rintro ⟨conn, url, w, hurl, hw, rfl⟩
      refine ⟨⟨url, hurl⟩, fun hkeys => ?_⟩
      cases (Keyring.wallet_of_nil hkeys).symm.trans hw
    · rintro ⟨⟨url, hurl⟩, hkeys⟩
      obtain ⟨w, hw, -⟩ := Keyring.exists_wallet hkeys
      exact ⟨_, url, w, hurl, hw, rfl⟩
  takes := by
    intro rpcUrl conn hconn
    have hsigners := Connection.mem_signers_withKeys hconn
    obtain ⟨url, w, -, hw, rfl⟩ := Connection.withKeys_eq_ok_iff.mp hconn
    refine ⟨w, rfl, hw, fun node l contract call options => ?_⟩
    have hkeys : (Keyring.after ops).keys ≠ [] := fun hkeys => by
      cases (Keyring.wallet_of_nil hkeys).symm.trans hw
    obtain ⟨w', hw', hserves⟩ := Keyring.exists_wallet hkeys
    obtain rfl := Except.ok.inj (hw.symm.trans hw')
    rw [hserves.signers, ← hsigners, Ne, submit_turned_away_iff, Classical.not_not]

end Rpc

end TwoStep
