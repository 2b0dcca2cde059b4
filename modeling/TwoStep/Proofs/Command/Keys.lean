import TwoStep.Proofs.Command.Course
import TwoStep.Proofs.Rpc.Requested

/-!
# Which keys a command uses

A look at the owners takes no key, and an acceptance only the new owner's: from
all variables of its environment it reads one (`Accept.plan_congr`).  What it can
sign follows from its plan, in which there is a single submission, and from its
connection, which holds a single key.

`commands_use_only_their_keys` says so for whole runs: what is printed, asked and
returned stays the same when other variables change.
-/

namespace TwoStep

/-! ## One variable -/

/-- An environment with all variables but one removed. -/
def Environment.only (env : Environment) (name : String) : Environment :=
  (env.get? name).toList.map fun value => (name, value)

theorem Environment.get?_only (env : Environment) (name : String) :
    (env.only name).get? name = env.get? name := by
  rw [only]
  cases hvalue : env.get? name with
  | none => simp [get?]
  | some value =>
      have hname : name.isEmpty = false := by
        cases hempty : name.isEmpty with
        | false => rfl
        | true => simp [get?, hempty] at hvalue
      have hfound : valueIn name (name, value) = some value := by
        have hsplit : name.toList ++ '=' :: value.toList =
            (name.toList ++ ['=']) ++ value.toList := by simp
        have hprefix : (name.toList ++ ['=']).isPrefixOf
            ((name.toList ++ ['=']) ++ value.toList) = true :=
          List.isPrefixOf_iff_prefix.mpr (List.prefix_append _ _)
        simp only [valueIn, hsplit, hprefix, if_true, List.drop_left, String.ofList_toList]
      simp [get?, hname, hfound]

namespace Command

variable {ν α : Type} (network : Url → Node ν) (link : Link ν)

/-! ## What an acceptance reads -/

theorem nomineeKey_congr {s : Settings} {env env' : Environment}
    (h : env.get? s.newOwnerKeyVar = env'.get? s.newOwnerKeyVar) :
    nomineeKey s env = nomineeKey s env' := by
  simp only [nomineeKey, loadKey, Keyring.loadVariable, h]

/-- Environments that agree on the new owner's key are the same to an
acceptance. -/
theorem Accept.plan_congr {s : Settings} {env env' : Environment}
    (h : env.get? s.newOwnerKeyVar = env'.get? s.newOwnerKeyVar) (stamp : Handoff.Stamp)
    (o : AcceptOptions) : Accept.plan s env stamp o = Accept.plan s env' stamp o := by
  simp only [Accept.plan, Accept.order, nomineeKey_congr h]

/-! ## What the commands submit -/

section Submissions

variable {σ : Type} {client : Client σ} (hfinds : Finds client) (st : σ) {contract : Contract}
  {call : Call} {options : CallOptions}

include hfinds

theorem Status.not_mem_asked (json : Bool) (o : Status.Order) :
    .submit contract call options ∉ ((Status.session json o).run client st).asked := by
  intro h
  have hplan := (Status.session_follows hfinds st json o).asked
  rw [Session.map_fst_answers] at hplan
  simpa [Handoff.snapshotPlan] using hplan.mem h

theorem Accept.eq_of_mem_asked {stamp : Handoff.Stamp} {o : Accept.Order}
    (h : .submit contract call options ∈ ((Accept.session stamp o).run client st).asked) :
    contract = ⟨o.contract⟩ ∧ call = .acceptOwnership ∧ options = ⟨o.newOwner, o.fee⟩ := by
  have hplan := (Accept.session_follows hfinds st stamp o).asked
  rw [Session.map_fst_answers] at hplan
  simpa [Handoff.acceptPlan] using hplan.mem h

end Submissions

theorem signers_of_nomineeRing {rpcUrl : String} {new : PrivateKey} {c : Connection}
    (h : Connection.withKeys rpcUrl (nomineeRing new) = .ok c) : c.signers = [new.address] := by
  have hwallet : (nomineeRing new).wallet = .ok ⟨new.address, [new.address]⟩ := rfl
  simp only [Connection.withKeys, hwallet, bind_eq_ok_iff] at h
  obtain ⟨url, -, h⟩ := h
  obtain rfl := Except.ok.inj h
  rfl

/-! ## What the commands send -/

theorem Status.sent_run (s : Settings) (o : StatusOptions) :
    (run network link (Status.plan s o)).link.sent = link.sent := by
  cases hplan : (Status.plan s o).result with
  | error e => rw [run_of_error network link hplan]
  | ok plan =>
      obtain ⟨order, -, rfl⟩ := Status.plan_eq_ok_iff.mp hplan
      obtain ⟨-, -, hlink⟩ := run_of_node network link hplan
      rw [hlink]
      have hsent : ∀ t, t ∉ (link.since _).filterMap Exchange.sent? := fun t ht => by
        obtain ⟨contract, call, options, hmem, -⟩ :=
          Rpc.asked_of_sent (network order.connection.url) order.connection.signers
            (Status.session o.json order) link ht
        exact Status.not_mem_asked (Rpc.finds _ _) link o.json order hmem
      rw [Link.sent, Rpc.exchanges_of_run, List.filterMap_append,
        List.eq_nil_iff_forall_not_mem.mpr hsent, List.append_nil, Link.sent]

/-- A transaction accepts, as the account of the new owner's key, with the fee and
for the contract that are in force. -/
structure AcceptsAsNominee (s : Settings) (env : Environment) (o : AcceptOptions)
    (t : Transaction) : Prop where
  accepts : Call.ofData? t.data = some .acceptOwnership
  sender : (Keyring.keyIn? env s.newOwnerKeyVar).map PrivateKey.address = some t.sender
  contract : contractAddress s o.contract = .ok t.destination
  fee : ∃ fee, priorityFee s o.fee = .ok fee ∧ t.tip = fee.wei

theorem Accept.acceptsAsNominee_of_sent {s : Settings} {env : Environment} {stamp : Handoff.Stamp}
    {o : AcceptOptions} {t : Transaction}
    (ht : t ∈ (link.since (run network link (Accept.plan s env stamp o)).link).filterMap
      Exchange.sent?) :
    AcceptsAsNominee s env o t := by
  cases hplan : (Accept.plan s env stamp o).result with
  | error e =>
      rw [run_of_error network link hplan, Link.since, List.drop_length] at ht
      cases ht
  | ok plan =>
      obtain ⟨order, horder, rfl⟩ := Accept.plan_eq_ok_iff.mp hplan
      rw [(run_of_node network link hplan).2.2] at ht
      obtain ⟨contract, call, options, hmem, hcarries⟩ := Rpc.asked_of_sent _ _ _ link ht
      obtain ⟨rfl, rfl, rfl⟩ := Accept.eq_of_mem_asked (Rpc.finds _ _) link hmem
      obtain ⟨contract, fee, new, c, hcontract, hfee, hnew, -, rfl⟩ :=
        Accept.order_eq_ok_iff.mp horder
      exact {
        accepts := by rw [hcarries.data, Call.ofData?_data]
        sender := by rw [hnew, hcarries.sender]; rfl
        contract := by rw [hcontract, hcarries.destination]
        fee := ⟨fee, hfee, hcarries.tip⟩ }

/-- The wallet of an acceptance holds the new owner's key and no other. -/
theorem Accept.wallet_of_plan {s : Settings} {env : Environment} {stamp : Handoff.Stamp}
    {o : AcceptOptions} {plan : Plan Receipt}
    (hplan : (Accept.plan s env stamp o).result = .ok plan) :
    ∃ c new, plan.partner = .node c ∧ Keyring.keyIn? env s.newOwnerKeyVar = some new ∧
      c.signers = [new.address] := by
  obtain ⟨order, horder, rfl⟩ := Accept.plan_eq_ok_iff.mp hplan
  obtain ⟨contract, fee, new, c, -, -, hnew, hc, rfl⟩ := Accept.order_eq_ok_iff.mp horder
  exact ⟨c, new, rfl, hnew, signers_of_nomineeRing hc⟩

/-! ## Whole commands -/

/-- A look at the owners is the same in every environment, and sends nothing. -/
structure StatusKeyless (network : Url → Node ν) (link : Link ν) (s : Settings)
    (o : StatusOptions) : Prop where
  same : ∀ env env' stamp stamp',
    run network link (Dialogue.plan s env stamp (.status o)) =
      run network link (Dialogue.plan s env' stamp' (.status o))
  unsent : ∀ env stamp,
    (run network link (Dialogue.plan s env stamp (.status o))).link.sent = link.sent

/-- An acceptance reads the variable of the new owner's key and no other, signs
with that key only, and sends only acceptances. -/
structure AcceptNeedsOneKey (network : Url → Node ν) (link : Link ν) (s : Settings)
    (o : AcceptOptions) : Prop where
  /-- Environments that agree on the variable are the same. -/
  same : ∀ env env' stamp, env.get? s.newOwnerKeyVar = env'.get? s.newOwnerKeyVar →
    run network link (Dialogue.plan s env stamp (.accept o)) =
      run network link (Dialogue.plan s env' stamp (.accept o))
  /-- All other variables can be missing. -/
  alone : ∀ env stamp,
    run network link (Dialogue.plan s (env.only s.newOwnerKeyVar) stamp (.accept o)) =
      run network link (Dialogue.plan s env stamp (.accept o))
  wallet : ∀ env stamp plan, (Dialogue.plan s env stamp (.accept o)).result = .ok plan →
    ∃ c new, plan.partner = .node c ∧ Keyring.keyIn? env s.newOwnerKeyVar = some new ∧
      c.signers = [new.address]
  sent : ∀ env stamp,
    ∀ t ∈ (link.since (run network link (Dialogue.plan s env stamp (.accept o))).link).filterMap
      Exchange.sent?, AcceptsAsNominee s env o t

/-- Whatever the settings are and whatever nodes answer, a look at the owners
needs no key, and an acceptance needs the new owner's key alone. -/
theorem commands_use_only_their_keys (network : Url → Node ν) (link : Link ν) (s : Settings)
    (status : StatusOptions) (accept : AcceptOptions) :
    StatusKeyless network link s status ∧ AcceptNeedsOneKey network link s accept := by
  have hplan {env env' : Environment} (stamp : Handoff.Stamp)
      (h : env.get? s.newOwnerKeyVar = env'.get? s.newOwnerKeyVar) :
      Dialogue.plan s env stamp (.accept accept) = Dialogue.plan s env' stamp (.accept accept) := by
    simp only [Dialogue.plan, Accept.plan_congr h]
  refine ⟨⟨fun env env' stamp stamp' => rfl, fun env stamp => ?_⟩, ⟨?_, ?_, ?_, ?_⟩⟩
  · rw [Dialogue.plan, run_forget, link_forget]
    exact Status.sent_run network link s status
  · intro env env' stamp h
    rw [hplan stamp h]
  · intro env stamp
    rw [hplan stamp (Environment.get?_only env s.newOwnerKeyVar)]
  · intro env stamp plan h
    rw [Dialogue.plan, Preparation.map_eq] at h
    cases hresult : (Accept.plan s env stamp accept).result with
    | error e => simp [hresult, Except.map] at h
    | ok made =>
        simp only [hresult, Except.map, Except.ok.injEq] at h
        obtain rfl := h
        exact Accept.wallet_of_plan hresult
  · intro env stamp t ht
    rw [Dialogue.plan, run_forget, link_forget] at ht
    exact Accept.acceptsAsNominee_of_sent network link ht

/-- An acceptance does not miss the current owner's key. -/
theorem acceptance_without_current_owner :
    let key := "0000000000000000000000000000000000000000000000000000000000000001"
    let env : Environment := [("NEW_OWNER_PRIVATE_KEY", key)]
    let env' : Environment :=
      [("CURRENT_OWNER_PRIVATE_KEY", "none"), ("NEW_OWNER_PRIVATE_KEY", key)]
    let stamp : Handoff.Stamp := ⟨"", ⟨1970, 1, 1, 0, 0, 0, 0⟩, ⟨1970, 1, 1, 0, 0, 0, 0⟩⟩
    env.get? "CURRENT_OWNER_PRIVATE_KEY" ≠ env'.get? "CURRENT_OWNER_PRIVATE_KEY" ∧
      run Node.silent { node := () } (Dialogue.plan {} env stamp (.accept {})) =
        run Node.silent { node := () } (Dialogue.plan {} env' stamp (.accept {})) :=
  ⟨by decide, (commands_use_only_their_keys Node.silent { node := () } {} {} {}).2.same _ _ _ rfl⟩

end Command

end TwoStep
