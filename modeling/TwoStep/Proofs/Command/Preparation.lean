import TwoStep.Command.Dialogue
import TwoStep.Proofs.Keyring
import TwoStep.Proofs.Settings.Decode

/-!
# When a command is ready

A preparation prints while it checks, but what it comes to is decided by the
checks alone: each is passed with a value, or the command stops.  So the result
of a preparation is a chain of results (`result_bind`), and an order exists iff
every link of its chain does.

`Transfer.order_eq_ok_iff` and `Accept.order_eq_ok_iff` follow the two chains.
They tell from the settings and the variables with which contract, fee and keys
a command goes to its partner.
-/

namespace TwoStep

namespace Preparation

variable {α β : Type}

@[simp] theorem result_pure (a : α) : (pure a : Preparation α).result = .ok a := rfl

@[simp] theorem result_check (r : Except CommandError α) : (check r).result = r := rfl

theorem result_say_bind (outputs : List Output) (f : Unit → Preparation β) :
    (say outputs >>= f).result = (f ()).result := rfl

@[simp] theorem result_bind (p : Preparation α) (f : α → Preparation β) :
    (p >>= f).result = p.result >>= fun a => (f a).result := by
  change (p.bind f).result = _
  rw [Preparation.bind]
  cases p.result <;> rfl

theorem bind_pure_eq_ok_iff {p : Preparation α} {f : α → β} {b : β} :
    (p >>= fun a => pure (f a)).result = .ok b ↔ ∃ a, p.result = .ok a ∧ b = f a := by
  simp only [result_bind, bind_eq_ok_iff, result_pure, Except.ok.injEq, eq_comm (a := b)]

theorem map_eq (f : α → β) (p : Preparation α) : f <$> p = ⟨p.outputs, p.result.map f⟩ := by
  change p.bind (fun a => ⟨[], .ok (f a)⟩) = _
  rw [Preparation.bind]
  cases p.result with
  | error e => rfl
  | ok a => simp only [List.append_nil, Except.map]

end Preparation

namespace Command

/-! ## Keys -/

section Keys

variable {env : Environment} {var : String} {ring : Keyring}

/-- A key is loaded iff the variable holds one. -/
theorem loadKey_eq_ok_iff {mistake : KeyError → CommandError} {label : String} {ring' : Keyring} :
    (loadKey mistake env label var ring).result = .ok ring' ↔
      ∃ key, Keyring.keyIn? env var = some key ∧ ring' = ring.put label key := by
  have hputs := Keyring.puts_loadVariable ring env label var
  rw [loadKey]
  generalize ring.loadVariable env label var = outcome, Keyring.keyIn? env var = key? at hputs
  cases hputs with
  | found key => simp [eq_comm]
  | missing e => simp

/-- The keyring of both owners. -/
def ownerRing (current new : PrivateKey) : Keyring :=
  (Keyring.put {} Keyring.currentOwner current).put Keyring.newOwner new

/-- The keyring of the new owner alone. -/
def nomineeRing (new : PrivateKey) : Keyring :=
  Keyring.put {} Keyring.newOwner new

theorem ownerKeys_eq_ok_iff {s : Settings} :
    (ownerKeys s env).result = .ok ring ↔ ∃ current new,
      Keyring.keyIn? env s.currentOwnerKeyVar = some current ∧
        Keyring.keyIn? env s.newOwnerKeyVar = some new ∧ ring = ownerRing current new := by
  simp only [ownerKeys, Preparation.result_bind, bind_eq_ok_iff, loadKey_eq_ok_iff]
  constructor
  · rintro ⟨-, ⟨current, hcurrent, rfl⟩, new, hnew, rfl⟩
    exact ⟨current, new, hcurrent, hnew, rfl⟩
  · rintro ⟨current, new, hcurrent, hnew, rfl⟩
    exact ⟨_, ⟨current, hcurrent, rfl⟩, new, hnew, rfl⟩

theorem nomineeKey_eq_ok_iff {s : Settings} :
    (nomineeKey s env).result = .ok ring ↔
      ∃ new, Keyring.keyIn? env s.newOwnerKeyVar = some new ∧ ring = nomineeRing new :=
  loadKey_eq_ok_iff

/-- The account of a key, under the label of the current owner. -/
def currentSigner (key : PrivateKey) : Signer := ⟨Keyring.currentOwner, key.address⟩

/-- The account of a key, under the label of the new owner. -/
def newSigner (key : PrivateKey) : Signer := ⟨Keyring.newOwner, key.address⟩

/-- The labels differ, so neither key is in the way of the other. -/
theorem signers_ownerRing (current new : PrivateKey) :
    signers (ownerRing current new) = .ok (currentSigner current, newSigner new) := rfl

theorem signer_nomineeRing (new : PrivateKey) :
    signer (nomineeRing new) Keyring.newOwner = .ok (newSigner new) := rfl

end Keys

/-! ## Connections -/

theorem connectWithKeys_eq_ok_iff {quiet : Bool} {s : Settings} {ring : Keyring}
    {c : Connection} :
    (connectWithKeys quiet s ring).result = .ok c ↔ Connection.withKeys s.rpcUrl ring = .ok c := by
  simp only [connectWithKeys, connect]
  cases Connection.withKeys s.rpcUrl ring <;> simp

/-! ## Orders -/

/-- Whom a transfer talks to: in a dry run a contract in memory, which needs no
endpoint, and otherwise the node, connected to with both keys. -/
inductive Transfer.Faces (s : Settings) (contract : Address) (current new : PrivateKey) :
    Bool → Partner → Prop where
  | rehearsal :
      Transfer.Faces s contract current new true
        (.memory (rehearsal contract (currentSigner current) (newSigner new)))
  | node (c : Connection) (h : Connection.withKeys s.rpcUrl (ownerRing current new) = .ok c) :
      Transfer.Faces s contract current new false (.node c)

/-- What a transfer finds in the settings, its flags and the variables. -/
structure Transfer.Inputs (s : Settings) (env : Environment) (contractFlag feeFlag : Option String)
    (contract : Address) (fee : Fee) (current new : PrivateKey) : Prop where
  contract : contractAddress s contractFlag = .ok contract
  fee : priorityFee s feeFlag = .ok fee
  current : Keyring.keyIn? env s.currentOwnerKeyVar = some current
  new : Keyring.keyIn? env s.newOwnerKeyVar = some new

/-- A transfer is ready iff it finds its inputs and its partner. -/
theorem Transfer.order_eq_ok_iff {s : Settings} {env : Environment} {o : TransferOptions}
    {order : Transfer.Order} :
    (Transfer.order s env o).result = .ok order ↔ ∃ contract fee current new partner,
      Transfer.Inputs s env o.contract o.fee contract fee current new ∧
        Transfer.Faces s contract current new o.dryRun partner ∧
        order = ⟨contract, fee, currentSigner current, newSigner new, partner⟩ := by
  have hpartner (contract : Address) (fee : Fee) (current new : PrivateKey) :
      Preparation.result (if o.dryRun then do
          Preparation.say (progress o.json rehearsalLine)
          return ⟨contract, fee, currentSigner current, newSigner new,
            .memory (rehearsal contract (currentSigner current) (newSigner new))⟩
        else do
          let c ← connectWithKeys o.json s (ownerRing current new)
          return ⟨contract, fee, currentSigner current, newSigner new, .node c⟩) = .ok order ↔
        ∃ partner, Transfer.Faces s contract current new o.dryRun partner ∧
          order = ⟨contract, fee, currentSigner current, newSigner new, partner⟩ := by
    cases o.dryRun with
    | true =>
        rw [if_pos rfl, Preparation.result_say_bind, Preparation.result_pure, Except.ok.injEq]
        constructor
        · rintro rfl
          exact ⟨_, .rehearsal, rfl⟩
        · rintro ⟨partner, hfaces, rfl⟩
          cases hfaces with
          | rehearsal => rfl
    | false =>
        simp only [Bool.false_eq_true, if_false, Preparation.bind_pure_eq_ok_iff,
          connectWithKeys_eq_ok_iff]
        constructor
        · rintro ⟨c, hc, rfl⟩
          exact ⟨_, .node c hc, rfl⟩
        · rintro ⟨partner, hfaces, rfl⟩
          cases hfaces with
          | node c hc => exact ⟨c, hc, rfl⟩
  simp only [Transfer.order, Preparation.result_bind, Preparation.result_check, bind_eq_ok_iff,
    ownerKeys_eq_ok_iff]
  constructor
  · rintro ⟨contract, hcontract, fee, hfee, -, ⟨current, new, hcurrent, hnew, rfl⟩, signers,
      hsigners, horder⟩
    obtain rfl := Except.ok.inj ((signers_ownerRing current new).symm.trans hsigners)
    obtain ⟨partner, hfaces, rfl⟩ := (hpartner contract fee current new).mp horder
    exact ⟨contract, fee, current, new, partner, ⟨hcontract, hfee, hcurrent, hnew⟩, hfaces, rfl⟩
  · rintro ⟨contract, fee, current, new, partner, hin, hfaces, rfl⟩
    exact ⟨contract, hin.contract, fee, hin.fee, _, ⟨current, new, hin.current, hin.new, rfl⟩, _,
      signers_ownerRing current new, (hpartner contract fee current new).mpr ⟨_, hfaces, rfl⟩⟩

/-- An acceptance is ready iff there are a contract, a fee, the new owner's key
and a connection with that key alone. -/
theorem Accept.order_eq_ok_iff {s : Settings} {env : Environment} {o : AcceptOptions}
    {order : Accept.Order} :
    (Accept.order s env o).result = .ok order ↔ ∃ contract fee new c,
      contractAddress s o.contract = .ok contract ∧ priorityFee s o.fee = .ok fee ∧
      Keyring.keyIn? env s.newOwnerKeyVar = some new ∧
      Connection.withKeys s.rpcUrl (nomineeRing new) = .ok c ∧
      order = ⟨contract, fee, newSigner new, c⟩ := by
  simp only [Accept.order, Preparation.result_bind, Preparation.result_check, bind_eq_ok_iff,
    nomineeKey_eq_ok_iff, connectWithKeys_eq_ok_iff, Preparation.result_pure]
  constructor
  · rintro ⟨contract, hcontract, fee, hfee, -, ⟨new, hnew, rfl⟩, signer, hsigner, c, hc, horder⟩
    obtain rfl := Except.ok.inj ((signer_nomineeRing new).symm.trans hsigner)
    exact ⟨contract, fee, new, c, hcontract, hfee, hnew, hc, (Except.ok.inj horder).symm⟩
  · rintro ⟨contract, fee, new, c, hcontract, hfee, hnew, hc, rfl⟩
    exact ⟨contract, hcontract, fee, hfee, _, ⟨new, hnew, rfl⟩, _, signer_nomineeRing new,
      c, hc, rfl⟩

/-! ## Plans -/

theorem Status.plan_eq_ok_iff {s : Settings} {o : StatusOptions} {plan : Plan Snapshot} :
    (Status.plan s o).result = .ok plan ↔ ∃ order, (Status.order s o).result = .ok order ∧
      plan = ⟨.node order.connection, Status.session o.json order⟩ :=
  Preparation.bind_pure_eq_ok_iff

theorem Accept.plan_eq_ok_iff {s : Settings} {env : Environment} {stamp : Handoff.Stamp}
    {o : AcceptOptions} {plan : Plan Receipt} :
    (Accept.plan s env stamp o).result = .ok plan ↔
      ∃ order, (Accept.order s env o).result = .ok order ∧
        plan = ⟨.node order.connection, Accept.session stamp order⟩ :=
  Preparation.bind_pure_eq_ok_iff

theorem Transfer.plan_eq_ok_iff {s : Settings} {env : Environment} {stamp : Handoff.Stamp}
    {o : TransferOptions} {plan : Plan Handoff.Report} :
    (Transfer.plan s env stamp o).result = .ok plan ↔
      ∃ order, (Transfer.order s env o).result = .ok order ∧
        plan = ⟨order.partner, Transfer.session stamp o.json order⟩ :=
  Preparation.bind_pure_eq_ok_iff

end Command

end TwoStep
