import TwoStep.Proofs.Handoff.Transactions
import TwoStep.Proofs.Keyring

/-!
# Transactions as requested

Whatever a client over a node is asked, and whatever the node answers, each
transaction it sends is the one that was asked for: sent and signed by the
account that was named, to the contract that was named, with data that spell
the call, and with the tip that was named.  The fee it offers beyond the tip is
the room in the node's own estimate of the moment.

`Exchanges` has all of this but the fee.  `Estimated` reads the estimate off what
the node said about fees, and `talks_submit_priced` follows it through a
submission; `requested_of_run` puts both together for every session.
-/

namespace TwoStep

namespace Rpc

variable {ν α : Type}

/-! ## Two things said of one talk -/

theorem Talks.imp {talk : Talk ν α} {R R' : Except ClientError α → List Exchange → Prop}
    (h : Talks talk R) (himp : ∀ r xs, R r xs → R' r xs) : Talks talk R' := by
  intro l
  obtain ⟨xs, hxs, hR⟩ := h l
  exact ⟨xs, hxs, himp _ xs hR⟩

theorem Talks.and {talk : Talk ν α} {R R' : Except ClientError α → List Exchange → Prop}
    (h : Talks talk R) (h' : Talks talk R') : Talks talk fun r xs => R r xs ∧ R' r xs := by
  intro l
  obtain ⟨xs, hxs, hR⟩ := h l
  obtain ⟨ys, hys, hR'⟩ := h' l
  obtain rfl : xs = ys := List.append_cancel_left (hxs.symm.trans hys)
  exact ⟨xs, hxs, hR, hR'⟩

/-- A result, if there is one, is as stated. -/
def Yields (Q : α → List Exchange → Prop) (r : Except ClientError α) (xs : List Exchange) : Prop :=
  ∀ a, r = .ok a → Q a xs

theorem Yields.ok {Q : α → List Exchange → Prop} {a : α} {xs : List Exchange} (h : Q a xs) :
    Yields Q (.ok a) xs := by
  rintro b hb
  exact Except.ok.inj hb ▸ h

theorem Yields.error {Q : α → List Exchange → Prop} {e : ClientError} {xs : List Exchange} :
    Yields Q (.error e) xs := by
  rintro b ⟨⟩

/-! ## The node's estimate -/

/-- The base fee that a node told: the history has it, or else it is asked for. -/
inductive ToldBase (h : FeeHistory) : Nat → List Exchange → Prop where
  | history (n : Nat) (hn : h.latest? = some (n + 1)) : ToldBase h (n + 1) []
  | latest (n : Nat) (hn : ∀ m, h.latest? ≠ some (m + 1)) :
      ToldBase h n [⟨.latestBaseFee, .ok (some (some n))⟩]

/-- The estimate that is made of what a node told about fees. -/
inductive Estimated (node : Node ν) : FeeEstimate → List Exchange → Prop where
  | intro (h : FeeHistory) (base : Nat) (xs : List Exchange) (hbase : ToldBase h base xs) :
      Estimated node (node.estimate base h.rewards) (⟨.feeHistory, .ok h⟩ :: xs)

theorem talks_baseFee_told (node : Node ν) (h : FeeHistory) :
    Talks (baseFee node h) (Yields (ToldBase h)) := by
  unfold baseFee
  split
  · rename_i n hn
    exact Talks.of_pure (.ok (.history n hn))
  · rename_i hn
    refine Talks.of_ask_bind (fun latest => ?_) (fun f => .error)
    split
    · exact Talks.of_throw .error
    · exact Talks.of_throw .error
    · rename_i n
      exact Talks.of_pure (.ok (.latest n hn))

theorem talks_feeEstimate_estimated (node : Node ν) :
    Talks (feeEstimate node) (Yields (Estimated node)) := by
  refine Talks.of_ask_bind (fun h => ?_) (fun f => .error)
  refine Talks.of_bind (talks_baseFee_told node h) (fun base xs hbase => ?_) (fun e xs _ => .error)
  refine Talks.of_pure (.ok ?_)
  rw [List.append_nil]
  exact .intro h base xs (hbase base rfl)

/-! ## The price of a transaction -/

/-- A transaction offers the room that the node's estimate, told first, leaves
for the base fee, and the tip. -/
def Priced (node : Node ν) (fee : Fee) (t : Transaction) (xs : List Exchange) : Prop :=
  ∃ fees e, fees <+: xs ∧ Estimated node e fees ∧ t.maxFee = maxFeeFor e fee.wei

theorem Priced.append {node : Node ν} {fee : Fee} {t : Transaction} {xs : List Exchange}
    (h : Priced node fee t xs) (ys : List Exchange) : Priced node fee t (xs ++ ys) := by
  obtain ⟨fees, e, hfees, he, hmax⟩ := h
  exact ⟨fees, e, hfees.trans (List.prefix_append xs ys), he, hmax⟩

variable (node : Node ν) (signers : List Address)

theorem talks_fill_priced (contract : Contract) (call : Call) (options : CallOptions) :
    Talks (fill node contract call options) (Yields (Priced node options.fee)) := by
  refine Talks.of_bind (talks_feeEstimate_estimated node) (fun e fees he => ?_)
    (fun e xs _ => .error)
  -- what is asked behind the fees has no say in the price
  refine Talks.imp (R := Inquires fun t => t.maxFee = maxFeeFor e options.fee.wei) ?_
    fun r xs hxs t ht =>
      ⟨fees, e, List.prefix_append fees xs, he e rfl, hxs.2 t ht⟩
  refine Inquires.bind (Inquires.ask fun _ => rfl) fun gas _ => ?_
  refine Inquires.bind (talks_nextNonce node call.method options.sender.address) fun nonce _ => ?_
  refine Inquires.bind (talks_chainId node call.method) fun chainId _ => ?_
  exact Talks.of_pure (Inquires.ok rfl)

theorem talks_submit_priced (contract : Contract) (call : Call) (options : CallOptions) :
    Talks (submit node signers contract call options) fun _ xs =>
      ∀ t ∈ xs.filterMap Exchange.sent?, Priced node options.fee t xs := by
  unfold submit
  split
  case isFalse => exact Talks.of_throw (by simp)
  case isTrue hsigner =>
  refine Talks.of_bind ((talks_fill node signers contract call options hsigner).and
    (talks_fill_priced node contract call options)) (fun t xs hfill => ?_) (fun e xs hfill => ?_)
  · obtain ⟨⟨hxs, -⟩, hpriced⟩ := hfill
    have hsent : ∀ ys, ys.filterMap Exchange.sent? = [t] →
        ∀ t' ∈ (xs ++ ys).filterMap Exchange.sent?, Priced node options.fee t' (xs ++ ys) := by
      intro ys hys t' ht'
      rw [List.filterMap_append, Handoff.sent_of_inquiries hxs, hys, List.nil_append] at ht'
      rw [List.mem_singleton.mp ht']
      exact (hpriced t rfl).append ys
    refine Talks.of_ask_bind (fun h => ?_) (fun f => hsent _ rfl)
    refine Talks.of_ask_bind (fun i => ?_) (fun f => hsent _ rfl)
    split
    · exact Talks.of_pure (hsent _ rfl)
    · exact Talks.of_throw (hsent _ rfl)
  · rw [Handoff.sent_of_inquiries hfill.1.1]
    simp

/-! ## Questions and sessions -/

/-- What is sent at a question is what the question asks for. -/
def Requested (node : Node ν) (signers : List Address) (q : Query) (xs : List Exchange) : Prop :=
  ∀ t ∈ xs.filterMap Exchange.sent?, ∃ contract call options,
    q = .submit contract call options ∧ Carries signers contract call options t ∧
      Priced node options.fee t xs

theorem requested_of_inquiries {q : Query} {xs : List Exchange} (hxs : ∀ x ∈ xs, x.isInquiry) :
    Requested node signers q xs := by
  intro t ht
  rw [Handoff.sent_of_inquiries hxs] at ht
  cases ht

theorem requested_of_question (q : Query) (l : Link ν) :
    ∃ xs, (client node signers q l).state.exchanges = l.exchanges ++ xs ∧
      Requested node signers q xs := by
  cases q with
  | contractAt a =>
      obtain ⟨xs, hxs, hask, -⟩ := talks_contractAt node a l
      exact ⟨xs, hxs, requested_of_inquiries node signers hask⟩
  | owner c =>
      obtain ⟨xs, hxs, hread⟩ := talks_readSlot node c .owner l
      exact ⟨xs, hxs, requested_of_inquiries node signers hread.inquires⟩
  | pendingOwner c =>
      obtain ⟨xs, hxs, hread⟩ := talks_readSlot node c .pendingOwner l
      exact ⟨xs, hxs, requested_of_inquiries node signers hread.inquires⟩
  | submit c call options =>
      obtain ⟨xs, hxs, hcourse, hpriced⟩ := (talks_submit node signers c call options).and
        (talks_submit_priced node signers c call options) l
      refine ⟨xs, hxs, fun t ht => ⟨c, call, options, rfl, ?_, hpriced t ht⟩⟩
      obtain hnone | ⟨t', ht', hone⟩ := Handoff.sent_of_submission hcourse
      · rw [hnone] at ht
        cases ht
      · rw [hone] at ht
        rw [List.mem_singleton.mp ht]
        exact ht'

theorem requested_of_run (session : Session α) (l : Link ν) :
    let run := session.run (client node signers) l
    ∃ pieces, List.Forall₂ (Requested node signers) run.asked pieces ∧
      l.since run.state = pieces.flatten := by
  obtain ⟨pieces, hpieces, hsince⟩ := pieces_of_run node signers
    (P := fun a => Requested node signers a.1) (requested_of_question node signers) session l
  refine ⟨pieces, ?_, hsince⟩
  rw [← Session.map_fst_answers]
  exact List.forall₂_map_left_iff.mpr hpieces

/-- Every transaction that is sent carries a submission that was asked for. -/
theorem asked_of_sent (session : Session α) (l : Link ν) {t : Transaction} :
    let run := session.run (client node signers) l
    t ∈ (l.since run.state).filterMap Exchange.sent? → ∃ contract call options,
      Query.submit contract call options ∈ run.asked ∧
        Carries signers contract call options t := by
  intro run ht
  obtain ⟨pieces, hpieces, hsince⟩ := requested_of_run node signers session l
  rw [hsince] at ht
  clear hsince
  generalize (session.run (client node signers) l).asked = asked at hpieces
  induction hpieces with
  | nil => cases ht
  | @cons q xs asked pieces hq _ ih =>
      rw [List.flatten_cons, List.filterMap_append, List.mem_append] at ht
      obtain ht | ht := ht
      · obtain ⟨contract, call, options, rfl, hcarries, -⟩ := hq t ht
        exact ⟨contract, call, options, List.mem_cons_self, hcarries⟩
      · obtain ⟨contract, call, options, hmem, hcarries⟩ := ih ht
        exact ⟨contract, call, options, List.mem_cons_of_mem q hmem, hcarries⟩

end Rpc

/-! ## A client with a keyring -/

/-- With an endpoint and a wallet there is a connection that has them. -/
theorem Connection.withKeys_eq_ok_iff {rpcUrl : String} {ring : Keyring} {conn : Connection} :
    Connection.withKeys rpcUrl ring = .ok conn ↔ ∃ url wallet,
      endpoint rpcUrl = .ok url ∧ ring.wallet = .ok wallet ∧
        conn = ⟨rpcUrl, url, ring.addresses.eraseDups, some wallet⟩ := by
  unfold withKeys
  cases endpoint rpcUrl with
  | error e => simp [bind, Except.bind]
  | ok url =>
      cases ring.wallet with
      | error e => simp [bind, Except.bind]
      | ok wallet => simp [bind, Except.bind, pure, Except.pure, eq_comm]

theorem Connection.mem_signers_withKeys {rpcUrl : String} {ring : Keyring} {conn : Connection}
    (h : Connection.withKeys rpcUrl ring = .ok conn) (a : Address) :
    a ∈ conn.signers ↔ a ∈ ring.addresses := by
  obtain ⟨url, wallet, -, -, rfl⟩ := withKeys_eq_ok_iff.mp h
  exact List.mem_eraseDups

namespace Rpc

/-- What a client is used for: a single question, or a whole workflow. -/
inductive Activity where
  | question (q : Query)
  | errand (e : Handoff.Errand)

def Activity.session : Activity → Session Unit
  | .question q => (Session.question q).bind fun _ => .done ()
  | .errand e => e.session.bind fun _ => .done ()

/-- One activity after the other. -/
def inTurn : List Activity → Session Unit
  | [] => .done ()
  | a :: rest => a.session.bind fun _ => inTurn rest

/-- A transaction is well-formed for a call: its fields are those requested, and
its fee is the tip on top of the room in the node's estimate, which told of the
fees first. -/
structure WellFormed {ν : Type} (node : Node ν) (ring : Keyring) (contract : Contract)
    (call : Call) (options : CallOptions) (xs : List Exchange) (t : Transaction) : Prop where
  sender : t.sender = options.sender.address
  signed : t.sender ∈ ring.addresses
  destination : t.destination = contract.address
  decodes : Call.ofData? t.data = some call
  tip : t.tip = options.fee.wei
  /-- The room is nothing if the estimate is below its own tip. -/
  maxFee : ∃ fees e, fees <+: xs ∧ Estimated node e fees ∧
    t.maxFee = min (e.maxFee.wei - e.tip.wei + options.fee.wei) (2 ^ 128 - 1)
  tip_le : t.tip ≤ t.maxFee

theorem tip_le_maxFeeFor (e : FeeEstimate) (fee : Fee) : fee.wei ≤ maxFeeFor e fee.wei := by
  have hfits := fee.fits
  rw [maxFeeFor, feeLimit]
  omega

theorem wellFormed_of_carries {ν : Type} {node : Node ν} {ring : Keyring} {signers : List Address}
    (hsigners : ∀ a ∈ signers, a ∈ ring.addresses) {contract : Contract} {call : Call}
    {options : CallOptions} {xs : List Exchange} {t : Transaction}
    (hcarries : Carries signers contract call options t) (hpriced : Priced node options.fee t xs) :
    WellFormed node ring contract call options xs t := by
  obtain ⟨fees, e, hfees, he, hmax⟩ := hpriced
  exact {
    sender := hcarries.sender
    signed := hsigners _ hcarries.signed
    destination := hcarries.destination
    decodes := by rw [hcarries.data, Call.ofData?_data]
    tip := hcarries.tip
    maxFee := ⟨fees, e, hfees, he, hmax⟩
    tip_le := by
      rw [hcarries.tip, hmax]
      exact tip_le_maxFeeFor e options.fee }

/-- What is sent at a question is well-formed for the submission that the
question asks for. -/
def SentWellFormed {ν : Type} (node : Node ν) (ring : Keyring) (q : Query)
    (xs : List Exchange) : Prop :=
  ∀ t ∈ xs.filterMap Exchange.sent?, ∃ contract call options,
    q = .submit contract call options ∧ WellFormed node ring contract call options xs t

/-- Whatever a client with the keys of a keyring is used for, and whatever its
node answers: its record is made of one piece for each question, and every
transaction in a piece is well-formed for the submission that the question asks
for. -/
theorem transactions_as_requested {ν : Type} (node : Node ν) {rpcUrl : String} {ring : Keyring}
    {conn : Connection} (hconn : Connection.withKeys rpcUrl ring = .ok conn) (l : Link ν)
    (activities : List Activity) :
    let run := (inTurn activities).run (client node conn.signers) l
    ∃ pieces, l.since run.state = pieces.flatten ∧
      List.Forall₂ (SentWellFormed node ring) run.asked pieces := by
  intro run
  obtain ⟨pieces, hpieces, hsince⟩ := requested_of_run node conn.signers (inTurn activities) l
  refine ⟨pieces, hsince, hpieces.imp fun q xs hrequested t ht => ?_⟩
  obtain ⟨contract, call, options, hq, hcarries, hpriced⟩ := hrequested t ht
  refine ⟨contract, call, options, hq, wellFormed_of_carries (fun a ha => ?_) hcarries hpriced⟩
  exact (Connection.mem_signers_withKeys hconn a).mp ha

/-! A keyring with one key, a node on this machine, and a tip that leaves no room
below the limit. -/

def soleKey : PrivateKey := ⟨1, by decide⟩

def soleRing : Keyring := Keyring.put {} Keyring.newOwner soleKey

def localUrl : Url :=
  Url.build .web "http" (some ⟨none, .ipv6 [0, 0, 0, 0, 0, 0, 0, 1], some 8545⟩)
    (Url.pathOf .web) []

def soleConnection : Connection :=
  ⟨"http://[::1]:8545", localUrl, [soleKey.address], some ⟨soleKey.address, [soleKey.address]⟩⟩

def localNode : NodeScript where
  feeHistory := [.ok ⟨[1000000000, 1000000000], [[7]]⟩]
  gas := [.ok 50000]
  nonce := [.ok 3]
  chainId := [.ok 1]
  send := [.ok ⟨7⟩]
  inclusions := [(⟨7⟩, .ok ⟨true, none⟩)]

def highestFee : Fee := ⟨2 ^ 128 - 1, by decide⟩

def soleAcceptance (a : Address) : List Activity :=
  [.question (.submit ⟨⟨9⟩⟩ .acceptOwnership ⟨⟨Keyring.newOwner, a⟩, highestFee⟩)]

theorem endpoint_local : Connection.endpoint "http://[::1]:8545" = .ok localUrl := by
  have hscheme : Url.schemePart (Url.cleaned "http://[::1]:8545") =
      some ("http", "//[::1]:8545".toList) := by decide +kernel
  have hslashes : "//[::1]:8545".toList.dropWhile (Url.isSlash .web) = "[::1]:8545".toList := by
    decide +kernel
  have huser : Url.splitCredentials .web "[::1]:8545".toList = .ok (none, "[::1]:8545".toList) :=
    rfl
  have hsplit : Url.splitHost .web false "[::1]:8545".toList =
      ("[::1]".toList, ":8545".toList) := by decide +kernel
  have hhost : Url.Host.read "[::1]".toList = .ok (.ipv6 [0, 0, 0, 0, 0, 0, 0, 1]) := by rfl
  have hserver : Url.readServer .web "http" "[::1]:8545".toList =
      .ok (⟨none, .ipv6 [0, 0, 0, 0, 0, 0, 0, 1], some 8545⟩, []) := by
    rw [Url.readServer, huser]
    simp only [bind, Except.bind, hsplit, hhost]
    rfl
  have hkind : Url.kindOf "http" = .web := by decide +kernel
  rw [Connection.endpoint, Url.parse, hscheme]
  simp only [Url.readBehindScheme, hkind, hslashes, hserver, bind, Except.bind]
  rfl

-- For any address: to compute that of a key takes the kernel long.
theorem sent_soleAcceptance (a : Address) :
    ((inTurn (soleAcceptance a)).run (client NodeScript.node [a]) { node := localNode }).state.sent =
      [{ sender := a, destination := ⟨9⟩, data := Call.acceptOwnership.data, nonce := 3
         gas := 50000, chainId := 1, maxFee := 2 ^ 128 - 1, tip := 2 ^ 128 - 1 }] := by
  have ha : a ∈ [a] := List.mem_singleton_self a
  have hestimate : FeeEstimate.usual 1000000000 [[7]] =
      ⟨⟨2000000007, by decide⟩, ⟨7, by decide⟩⟩ := by
    simp [FeeEstimate.usual, FeeEstimate.medianTip, FeeEstimate.wrapped, Fee.bound]
  have hmax : maxFeeFor (FeeEstimate.usual 1000000000 [[7]]) highestFee.wei = 2 ^ 128 - 1 := by
    rw [hestimate]
    rfl
  have hrun : ((submit NodeScript.node [a] ⟨⟨9⟩⟩ .acceptOwnership
      ⟨⟨Keyring.newOwner, a⟩, highestFee⟩).run { node := localNode }).2.sent =
      [{ sender := a, destination := ⟨9⟩, data := Call.acceptOwnership.data, nonce := 3
         gas := 50000, chainId := 1, tip := highestFee.wei
         maxFee := maxFeeFor (FeeEstimate.usual 1000000000 [[7]]) highestFee.wei }] := by
    rw [submit, if_pos ha]
    rfl
  rw [hmax] at hrun
  exact hrun

theorem soleAcceptance_as_requested :
    Connection.withKeys "http://[::1]:8545" soleRing = .ok soleConnection ∧
      let l : Link NodeScript := { node := localNode }
      let run := (inTurn (soleAcceptance soleKey.address)).run
        (client NodeScript.node soleConnection.signers) l
      run.state.sent.map (fun t => (t.data, t.maxFee, t.tip)) =
        [(Call.acceptOwnership.data, 2 ^ 128 - 1, 2 ^ 128 - 1)] ∧
      ∃ pieces, l.since run.state = pieces.flatten ∧
        List.Forall₂ (SentWellFormed NodeScript.node soleRing) run.asked pieces := by
  have hwallet : soleRing.wallet = .ok ⟨soleKey.address, [soleKey.address]⟩ := rfl
  have hconn : Connection.withKeys "http://[::1]:8545" soleRing = .ok soleConnection := by
    rw [Connection.withKeys, endpoint_local, hwallet]
    rfl
  have hsent := congrArg (List.map fun t : Transaction => (t.data, t.maxFee, t.tip))
    (sent_soleAcceptance soleKey.address)
  exact ⟨hconn, hsent, transactions_as_requested NodeScript.node hconn _ _⟩

end Rpc

end TwoStep
