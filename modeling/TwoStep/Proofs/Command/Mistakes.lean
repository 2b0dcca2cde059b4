import TwoStep.Proofs.Command.Course

/-!
# The first mistake stops a command

Each command has a list of inputs that it checks in this order.  An input has a
mistake in it or none, and which mistake it is can be told without the command
(`Input.mistake?`): from the flag or the setting, from a variable, or from the
endpoint.

`Checked` relates the mistake that is looked for first with what a check comes to.
It goes along with the sequence of checks (`Checked.bind`), so a preparation is
checked against its list of inputs just as it is written down, one input after the
other.  The result of a preparation is thus the first mistake on the list.  A
command whose preparation stopped has no partner, so then nothing is asked and
nothing is sent.
-/

namespace TwoStep

open Command

/-! ## Inputs -/

/-- What an operator can get wrong. -/
inductive Input where
  | contract
  | fee
  | currentKey
  | newKey
  | endpoint
  deriving DecidableEq, Repr

namespace Dialogue

/-- The inputs of a command, in the order in which they are checked. -/
def inputs : Dialogue → List Input
  | .transfer o =>
    [.contract, .fee, .currentKey, .newKey] ++ if o.dryRun then [] else [.endpoint]
  | .accept _ => [.contract, .fee, .newKey, .endpoint]
  | .status _ => [.contract, .endpoint]

def contractFlag : Dialogue → Option String
  | .transfer o => o.contract
  | .accept o => o.contract
  | .status o => o.contract

def feeFlag : Dialogue → Option String
  | .transfer o => o.fee
  | .accept o => o.fee
  | .status _ => none

/-- How a command words a missing or faulty key. -/
def keyMistake : Dialogue → KeyError → CommandError
  | .transfer _ => .ownerKeys
  | _ => .nomineeKey

end Dialogue

/-- Why a variable holds no key. -/
def Keyring.keyFault? (env : Environment) (label var : String) : Option KeyError :=
  match env.get? var with
  | none => some (.missingVariable label var)
  | some text =>
    match PrivateKey.read text with
    | .error f => some (.invalidKey label f)
    | .ok _ => none

/-- What is wrong with an input of a command. -/
def Input.mistake? (s : Settings) (env : Environment) (d : Dialogue) : Input → Option CommandError
  | .contract =>
    let raw := d.contractFlag.getD s.contractAddress
    match Address.read (Text.trimmed raw) with
    | .error f => some (.contract raw f)
    | .ok _ => none
  | .fee =>
    let raw := d.feeFlag.getD s.priorityFee
    match Fee.read raw with
    | .error e => some (.fee raw e)
    | .ok _ => none
  | .currentKey =>
    (Keyring.keyFault? env Keyring.currentOwner s.currentOwnerKeyVar).map d.keyMistake
  | .newKey => (Keyring.keyFault? env Keyring.newOwner s.newOwnerKeyVar).map d.keyMistake
  | .endpoint =>
    match Url.parse s.rpcUrl with
    | .error f => some (.connection (.invalidEndpoint s.rpcUrl f.message))
    | .ok _ => none

/-- The mistake in the first input that has one. -/
def Dialogue.firstMistake? (s : Settings) (env : Environment) (d : Dialogue) :
    Option CommandError :=
  d.inputs.findSome? (Input.mistake? s env d)

/-! ## Checks -/

/-- A check comes to the mistake that is there, or to a value if there is none. -/
inductive Checked {α : Type} : Option CommandError → Except CommandError α → Prop where
  | passed (a : α) : Checked none (.ok a)
  | stopped (e : CommandError) : Checked (some e) (.error e)

namespace Checked

variable {α β : Type} {s : Settings} {env : Environment} {d : Dialogue}

theorem map {mistake : Option CommandError} {p : Preparation α} (f : α → β)
    (h : Checked mistake p.result) : Checked mistake (f <$> p).result := by
  rw [Preparation.map_eq]
  generalize p.result = result at h
  cases h with
  | passed a => exact .passed (f a)
  | stopped e => exact .stopped e

/-- Inputs that are checked behind others count if there is no mistake in those. -/
theorem bind (is js : List Input) {p : Preparation α} {f : α → Preparation β}
    (hp : Checked (is.findSome? (Input.mistake? s env d)) p.result)
    (hf : ∀ a, p.result = .ok a → Checked (js.findSome? (Input.mistake? s env d)) (f a).result) :
    Checked ((is ++ js).findSome? (Input.mistake? s env d)) (p >>= f).result := by
  rw [List.findSome?_append, Preparation.result_bind]
  generalize is.findSome? (Input.mistake? s env d) = mistake, p.result = result at hp hf
  cases hp with
  | passed a => exact hf a rfl
  | stopped e => exact .stopped e

/-- What is made of checked inputs adds no mistake. -/
theorem bind_pure {mistake : Option CommandError} {p : Preparation α} {f : α → β}
    (hp : Checked mistake p.result) : Checked mistake (p >>= fun a => pure (f a)).result := by
  rw [Preparation.result_bind]
  generalize p.result = result at hp
  cases hp with
  | passed a => exact .passed (f a)
  | stopped e => exact .stopped e

end Checked

namespace Command

variable {s : Settings} {env : Environment} {d : Dialogue}

/-! ### One input -/

theorem checked_contract :
    Checked ([Input.contract].findSome? (Input.mistake? s env d))
      (Preparation.check (contractAddress s d.contractFlag)).result := by
  simp only [List.findSome?_singleton, Input.mistake?, Preparation.result_check, contractAddress]
  cases Address.read (Text.trimmed (d.contractFlag.getD s.contractAddress)) with
  | error f => exact .stopped _
  | ok a => exact .passed a

theorem checked_fee :
    Checked ([Input.fee].findSome? (Input.mistake? s env d))
      (Preparation.check (priorityFee s d.feeFlag)).result := by
  simp only [List.findSome?_singleton, Input.mistake?, Preparation.result_check, priorityFee]
  cases Fee.read (d.feeFlag.getD s.priorityFee) with
  | error e => exact .stopped _
  | ok fee => exact .passed fee

theorem checked_loadKey (mistake : KeyError → CommandError) (label var : String) (ring : Keyring) :
    Checked ((Keyring.keyFault? env label var).map mistake)
      (loadKey mistake env label var ring).result := by
  rw [Keyring.keyFault?, loadKey, Keyring.loadVariable]
  cases env.get? var with
  | none => exact .stopped _
  | some text =>
      dsimp only
      rw [Keyring.insert]
      cases PrivateKey.read text with
      | error f => exact .stopped _
      | ok key => exact .passed _

theorem checked_connect (quiet : Bool) (note : Connection → Log.Record)
    {made : Except ClientError Connection}
    (hmade : ∀ url, Url.parse s.rpcUrl = .ok url → ∃ c, made = .ok c)
    (hfault : ∀ f, Url.parse s.rpcUrl = .error f →
      made = .error (.invalidEndpoint s.rpcUrl f.message)) :
    Checked ([Input.endpoint].findSome? (Input.mistake? s env d))
      (connect quiet s.rpcUrl note made).result := by
  simp only [List.findSome?_singleton, Input.mistake?]
  cases hparse : Url.parse s.rpcUrl with
  | error f =>
      rw [hfault f hparse]
      exact .stopped _
  | ok url =>
      obtain ⟨c, rfl⟩ := hmade url hparse
      exact .passed c

/-- With a key there is a wallet, so only the endpoint can be at fault. -/
theorem checked_connectWithKeys (quiet : Bool) {ring : Keyring} (hring : ring.keys ≠ []) :
    Checked ([Input.endpoint].findSome? (Input.mistake? s env d))
      (connectWithKeys quiet s ring).result := by
  obtain ⟨wallet, hwallet, -⟩ := Keyring.exists_wallet hring
  refine checked_connect quiet _ (fun url hurl => ?_) fun f hf => ?_
  · rw [Connection.withKeys, Connection.endpoint, hurl, hwallet]
    exact ⟨_, rfl⟩
  · rw [Connection.withKeys, Connection.endpoint, hf]
    rfl

theorem checked_connectReadOnly (quiet : Bool) :
    Checked ([Input.endpoint].findSome? (Input.mistake? s env d))
      (connectReadOnly quiet s).result := by
  refine checked_connect quiet _ (fun url hurl => ?_) fun f hf => ?_
  · rw [Connection.readOnly, Connection.endpoint, hurl]
    exact ⟨_, rfl⟩
  · rw [Connection.readOnly, Connection.endpoint, hf]
    rfl

/-! ### One command -/

theorem checked_ownerKeys (o : TransferOptions) :
    Checked ([Input.currentKey, .newKey].findSome? (Input.mistake? s env (.transfer o)))
      (ownerKeys s env).result := by
  refine Checked.bind [.currentKey] [.newKey] ?_ fun ring _ => ?_
  · rw [List.findSome?_singleton]
    exact checked_loadKey _ _ _ _
  · rw [List.findSome?_singleton]
    exact checked_loadKey _ _ _ _

theorem Transfer.checked_order (o : TransferOptions) :
    Checked (Dialogue.firstMistake? s env (.transfer o)) (Transfer.order s env o).result := by
  refine Checked.bind [.contract] _ checked_contract fun contract _ => ?_
  refine Checked.bind [.fee] _ checked_fee fun fee _ => ?_
  refine Checked.bind [.currentKey, .newKey] _ (checked_ownerKeys o) fun ring hring => ?_
  -- the labels differ, so there is a signer under each
  obtain ⟨current, new, -, -, rfl⟩ := ownerKeys_eq_ok_iff.mp hring
  have hring : (ownerRing current new).keys ≠ [] := by simp [ownerRing, Keyring.put]
  refine Checked.bind [] (if o.dryRun then [] else [.endpoint])
    (.passed (currentSigner current, newSigner new)) fun owners _ => ?_
  cases o.dryRun with
  | true => exact .passed _
  | false => exact (checked_connectWithKeys o.json hring).bind_pure

theorem Accept.checked_order (o : AcceptOptions) :
    Checked (Dialogue.firstMistake? s env (.accept o)) (Accept.order s env o).result := by
  refine Checked.bind [.contract] _ checked_contract fun contract _ => ?_
  refine Checked.bind [.fee] _ checked_fee fun fee _ => ?_
  have hkey : Checked ([Input.newKey].findSome? (Input.mistake? s env (.accept o)))
      (nomineeKey s env).result := by
    rw [List.findSome?_singleton]
    exact checked_loadKey _ _ _ _
  refine Checked.bind [.newKey] _ hkey fun ring hring => ?_
  obtain ⟨new, -, rfl⟩ := nomineeKey_eq_ok_iff.mp hring
  refine Checked.bind [] _ (.passed (newSigner new)) fun newOwner _ => ?_
  have hkeys : (nomineeRing new).keys ≠ [] := by simp [nomineeRing, Keyring.put]
  exact (checked_connectWithKeys false hkeys).bind_pure

theorem Status.checked_order (o : StatusOptions) :
    Checked (Dialogue.firstMistake? s env (.status o)) (Status.order s o).result := by
  refine Checked.bind [.contract] _ checked_contract fun contract _ => ?_
  exact (checked_connectReadOnly o.json).bind_pure

/-- A command is ready, or stops at the first mistake. -/
theorem checked_plan (s : Settings) (env : Environment) (stamp : Handoff.Stamp) (d : Dialogue) :
    Checked (d.firstMistake? s env) (d.plan s env stamp).result := by
  cases d with
  | transfer o => exact (Transfer.checked_order o).bind_pure.map Plan.forget
  | accept o => exact (Accept.checked_order o).bind_pure.map Plan.forget
  | status o => exact (Status.checked_order o).bind_pure.map Plan.forget

/-! ## The first mistake -/

/-- All that a plan takes from the settings. -/
theorem plan_congr {s s' : Settings} {stamp : Handoff.Stamp}
    (hcontract : contractAddress s' d.contractFlag = contractAddress s d.contractFlag)
    (hfee : priorityFee s' d.feeFlag = priorityFee s d.feeFlag) (hrpc : s'.rpcUrl = s.rpcUrl)
    (hcurrent : s'.currentOwnerKeyVar = s.currentOwnerKeyVar)
    (hnew : s'.newOwnerKeyVar = s.newOwnerKeyVar) :
    d.plan s' env stamp = d.plan s env stamp := by
  cases d with
  | transfer o =>
      simp only [Dialogue.contractFlag, Dialogue.feeFlag] at hcontract hfee
      simp only [Dialogue.plan, Transfer.plan, Transfer.order, ownerKeys, connectWithKeys,
        hcontract, hfee, hrpc, hcurrent, hnew]
  | accept o =>
      simp only [Dialogue.contractFlag, Dialogue.feeFlag] at hcontract hfee
      simp only [Dialogue.plan, Accept.plan, Accept.order, nomineeKey, connectWithKeys, hcontract,
        hfee, hrpc, hnew]
  | status o =>
      simp only [Dialogue.contractFlag] at hcontract
      simp only [Dialogue.plan, Status.plan, Status.order, connectReadOnly, hcontract, hrpc]

variable {ν : Type}

/-- What the inputs of a command decide about its run over a network. -/
structure MistakesDecide (network : Url → Node ν) (link : Link ν) (s : Settings)
    (env : Environment) (stamp : Handoff.Stamp) (d : Dialogue) : Prop where
  /-- The first mistake is what the command fails with, and nothing is sent. -/
  stops : ∀ {before i after e}, d.inputs = before ++ i :: after →
    (∀ j ∈ before, j.mistake? s env d = none) → i.mistake? s env d = some e →
      let o := run network link (d.plan s env stamp)
      o.result = .error e ∧ o.asked = [] ∧ o.link = link
  /-- If any input has a mistake in it, there is a first one. -/
  first : (∃ i ∈ d.inputs, i.mistake? s env d ≠ none) → ∃ before i after e,
    d.inputs = before ++ i :: after ∧ (∀ j ∈ before, j.mistake? s env d = none) ∧
      i.mistake? s env d = some e
  /-- Without a mistake there is somebody to talk to. -/
  ready : (∀ i ∈ d.inputs, i.mistake? s env d = none) →
    ∃ plan, (d.plan s env stamp).result = .ok plan
  contractFlag : d.contractFlag ≠ none → ∀ raw, let s' := { s with contractAddress := raw }
    (∀ i : Input, i.mistake? s' env d = i.mistake? s env d) ∧
      d.plan s' env stamp = d.plan s env stamp
  feeFlag : d.feeFlag ≠ none → ∀ raw, let s' := { s with priorityFee := raw }
    (∀ i : Input, i.mistake? s' env d = i.mistake? s env d) ∧
      d.plan s' env stamp = d.plan s env stamp

/-- A mistake in an input never reaches the network: the first one stops the
command, and a flag stands in for the setting altogether. -/
theorem first_mistake_decides (network : Url → Node ν) (link : Link ν) (s : Settings)
    (env : Environment) (stamp : Handoff.Stamp) (d : Dialogue) :
    MistakesDecide network link s env stamp d where
  stops := by
    intro before i after e hinputs hbefore hi
    have hfirst : d.firstMistake? s env = some e :=
      List.findSome?_eq_some_iff.mpr ⟨before, i, after, hinputs, hi, hbefore⟩
    have hchecked := checked_plan s env stamp d
    rw [hfirst] at hchecked
    generalize hresult : (d.plan s env stamp).result = result at hchecked
    cases hchecked with
    | stopped =>
        rw [run_of_error network link hresult]
        exact ⟨rfl, rfl, rfl⟩
  first := by
    rintro ⟨i, hmem, hi⟩
    have hsome : d.firstMistake? s env ≠ none :=
      fun hnone => hi (List.findSome?_eq_none_iff.mp hnone i hmem)
    obtain ⟨e, he⟩ := Option.ne_none_iff_exists'.mp hsome
    obtain ⟨before, i, after, hinputs, hi, hbefore⟩ := List.findSome?_eq_some_iff.mp he
    exact ⟨before, i, after, e, hinputs, hbefore, hi⟩
  ready := by
    intro hnone
    have hchecked := checked_plan s env stamp d
    rw [Dialogue.firstMistake?, List.findSome?_eq_none_iff.mpr hnone] at hchecked
    generalize (d.plan s env stamp).result = result at hchecked
    cases hchecked with
    | passed plan => exact ⟨plan, rfl⟩
  contractFlag := by
    intro hflag raw
    obtain ⟨flag, hflag⟩ := Option.ne_none_iff_exists'.mp hflag
    refine ⟨fun i => by cases i <;> simp [Input.mistake?, hflag], ?_⟩
    exact plan_congr (by simp [contractAddress, hflag]) rfl rfl rfl rfl
  feeFlag := by
    intro hflag raw
    obtain ⟨flag, hflag⟩ := Option.ne_none_iff_exists'.mp hflag
    refine ⟨fun i => by cases i <;> simp [Input.mistake?, hflag], ?_⟩
    exact plan_congr rfl (by simp [priorityFee, hflag]) rfl rfl rfl

end Command

end TwoStep
