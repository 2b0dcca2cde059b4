import Mathlib.Data.List.Dedup
import Mathlib.Data.List.Induction
import TwoStep.Keyring

/-!
# What a keyring remembers

A keyring is used by putting keys into it, one by one or both accounts' at once
in a keyring of their own, and any of this can fail.  What is left of a whole
history is a matter of the keys that were written since the keyring was last
replaced: of each label the last one stands, and they stand in the order in
which they were written (`standing`).

`standing_concat` is the one step of all histories: a new write takes the place
of the one under its label and goes to the end, which is what `put` does.
`fits_apply` says the same of each operation, with its failures, and
`keyring_last_write` reads off what the keyring answers after a history.
-/

namespace TwoStep.Keyring

/-! ## Operations -/

/-- What can be done to a keyring. -/
inductive Operation where
  | insert (label text : String)
  | loadVariable (env : Environment) (label var : String)
  /-- Replaces the keyring. -/
  | ofEnvironment (env : Environment) (currentVar newVar : String)

/-- What an operation makes of a keyring. -/
def Operation.apply (ring : Keyring) : Operation → Except KeyError Keyring
  | .insert label text => (ring.insert label text).map Prod.snd
  | .loadVariable env label var => (ring.loadVariable env label var).map Prod.snd
  | .ofEnvironment env currentVar newVar => Keyring.ofEnvironment env currentVar newVar

/-- The keyring after an operation, whether it fails or not. -/
def perform (ring : Keyring) (op : Operation) : Keyring :=
  match op.apply ring with
  | .ok ring' => ring'
  | .error _ => ring

/-- The keyring after a history of operations on an empty one. -/
def after (ops : List Operation) : Keyring :=
  ops.foldl perform {}

/-! ## Writes -/

/-- A key as it is written under a label. -/
def write (label : String) (key : PrivateKey) : LabelledKey :=
  ⟨label, key, key.address⟩

/-- The key in a variable, if it holds one. -/
def keyIn? (env : Environment) (var : String) : Option PrivateKey :=
  (env.get? var).bind fun text => (PrivateKey.read text).toOption

/-- The writes since the keyring was last replaced, after an operation that
finds the keys it needs. -/
def Operation.writes? (past : List LabelledKey) : Operation → Option (List LabelledKey)
  | .insert label text =>
    (PrivateKey.read text).toOption.map fun key => past ++ [write label key]
  | .loadVariable env label var => (keyIn? env var).map fun key => past ++ [write label key]
  | .ofEnvironment env currentVar newVar => do
    let current ← keyIn? env currentVar
    let new ← keyIn? env newVar
    return [write currentOwner current, write newOwner new]

/-- The writes since the keyring was last replaced. -/
def writes (ops : List Operation) : List LabelledKey :=
  ops.foldl (fun past op => (op.writes? past).getD past) []

/-- The writes that no later one replaced: of each label the last, in the order
in which they were made. -/
def standing : List LabelledKey → List LabelledKey
  | [] => []
  | w :: later => if w.label ∈ later.map (·.label) then standing later else w :: standing later

/-- One more write takes the place of the one under its label, at the end. -/
theorem standing_concat (log : List LabelledKey) (w : LabelledKey) :
    standing (log ++ [w]) = (standing log).filter (·.label ≠ w.label) ++ [w] := by
  induction log with
  | nil => rfl
  | cons x later ih =>
      by_cases hw : x.label = w.label
      · have hlater : x.label ∈ (later ++ [w]).map (·.label) := by simp [hw]
        rw [List.cons_append, standing, if_pos hlater, ih, standing]
        split
        · rfl
        · simp [hw]
      · have hlater : x.label ∈ (later ++ [w]).map (·.label) ↔ x.label ∈ later.map (·.label) := by
          simp [hw]
        rw [List.cons_append, standing, standing]
        by_cases hx : x.label ∈ later.map (·.label)
        · rw [if_pos (hlater.mpr hx), if_pos hx, ih]
        · rw [if_neg (mt hlater.mp hx), if_neg hx, ih]
          simp [hw]

/-- The labels stand in the order of their last writes. -/
theorem map_label_standing (log : List LabelledKey) :
    (standing log).map (·.label) = (log.map (·.label)).dedup := by
  induction log with
  | nil => rfl
  | cons w later ih =>
      rw [standing, List.map_cons]
      split
      · rename_i hw
        rw [ih, List.dedup_cons_of_mem hw]
      · rename_i hw
        rw [List.map_cons, ih, List.dedup_cons_of_notMem hw]

/-- What stands under a label is the last that was written there. -/
theorem find?_standing (log : List LabelledKey) (label : String) :
    (standing log).find? (·.label = label) = (log.filter (·.label = label)).getLast? := by
  induction log using List.reverseRecOn with
  | nil => rfl
  | append_singleton log w ih =>
      rw [standing_concat, List.find?_append, List.filter_append]
      by_cases hw : w.label = label
      · subst hw
        have hnone : ((standing log).filter (·.label ≠ w.label)).find? (·.label = w.label) =
            none := by
          refine List.find?_eq_none.mpr fun x hx => ?_
          simpa using (List.mem_filter.mp hx).2
        rw [hnone]
        simp
      · have hkept : ((standing log).filter (·.label ≠ w.label)).find? (·.label = label) =
            (standing log).find? (·.label = label) := by
          rw [List.find?_filter]
          congr 1
          funext x
          by_cases hx : x.label = label
          · simp [hx, Ne.symm hw]
          · simp [hx]
        have hlast : [w].filter (·.label = label) = [] := by simp [hw]
        rw [hkept, ih, hlast, List.append_nil]
        simp [hw]

theorem mem_of_mem_standing {log : List LabelledKey} {w : LabelledKey} (h : w ∈ standing log) :
    w ∈ log := by
  induction log with
  | nil => cases h
  | cons x later ih =>
      rw [standing] at h
      split at h
      · exact List.mem_cons_of_mem x (ih h)
      · rcases List.mem_cons.mp h with rfl | hlater
        · exact List.mem_cons_self
        · exact List.mem_cons_of_mem x (ih hlater)

/-! ## Operations as writes -/

section Operations

variable {ring : Keyring} {log : List LabelledKey}

theorem put_standing (h : ring.keys = standing log) (label : String) (key : PrivateKey) :
    (ring.put label key).keys = standing (log ++ [write label key]) := by
  rw [standing_concat, ← h]
  rfl

/-- A key that is found is put under its label; without one there is an error. -/
inductive Puts (ring : Keyring) (label : String) :
    Option PrivateKey → Except KeyError (Signer × Keyring) → Prop where
  | found (key : PrivateKey) :
      Puts ring label (some key) (.ok (⟨label, key.address⟩, ring.put label key))
  | missing (e : KeyError) : Puts ring label none (.error e)

theorem puts_insert (ring : Keyring) (label text : String) :
    Puts ring label (PrivateKey.read text).toOption (ring.insert label text) := by
  rw [insert]
  cases PrivateKey.read text with
  | error f => exact .missing _
  | ok key => exact .found key

theorem puts_loadVariable (ring : Keyring) (env : Environment) (label var : String) :
    Puts ring label (keyIn? env var) (ring.loadVariable env label var) := by
  rw [loadVariable, keyIn?]
  cases env.get? var with
  | none => exact .missing _
  | some text =>
      rw [Option.bind_some]
      exact puts_insert ring label text

/-- The outcome of an operation and the writes it leaves fit together. -/
inductive Fits : Option (List LabelledKey) → Except KeyError Keyring → Prop where
  | written {log : List LabelledKey} {ring : Keyring} (h : ring.keys = standing log) :
      Fits (some log) (.ok ring)
  | failed (e : KeyError) : Fits none (.error e)

theorem Puts.fits (h : ring.keys = standing log) {label : String} {key? : Option PrivateKey}
    {outcome : Except KeyError (Signer × Keyring)} (hputs : Puts ring label key? outcome) :
    Fits (key?.map fun key => log ++ [write label key]) (outcome.map Prod.snd) := by
  cases hputs with
  | found key => exact .written (put_standing h label key)
  | missing e => exact .failed e

theorem fits_ofEnvironment (env : Environment) (currentVar newVar : String) :
    Fits (Operation.writes? log (.ofEnvironment env currentVar newVar))
      (Keyring.ofEnvironment env currentVar newVar) := by
  simp only [Operation.writes?, Keyring.ofEnvironment]
  have hcurrent := puts_loadVariable {} env currentOwner currentVar
  generalize keyIn? env currentVar = found, loadVariable {} env currentOwner currentVar = outcome
    at hcurrent
  cases hcurrent with
  | missing e => exact .failed e
  | found current =>
      have hnew := puts_loadVariable (put {} currentOwner current) env newOwner newVar
      simp only [bind, Except.bind, Option.bind]
      generalize keyIn? env newVar = found,
        loadVariable (put {} currentOwner current) env newOwner newVar = outcome at hnew
      cases hnew with
      | missing e => exact .failed e
      | found new =>
          have hempty : ({} : Keyring).keys = standing [] := rfl
          have hfirst := put_standing hempty currentOwner current
          exact .written (put_standing hfirst newOwner new)

/-- An operation fails iff it does not find its keys; otherwise it makes its
writes. -/
theorem fits_apply (h : ring.keys = standing log) (op : Operation) :
    Fits (op.writes? log) (op.apply ring) := by
  cases op with
  | insert label text => exact (puts_insert ring label text).fits h
  | loadVariable env label var => exact (puts_loadVariable ring env label var).fits h
  | ofEnvironment env currentVar newVar => exact fits_ofEnvironment env currentVar newVar

end Operations

/-! ## Histories -/

theorem perform_standing {ring : Keyring} {log : List LabelledKey}
    (h : ring.keys = standing log) (op : Operation) :
    (ring.perform op).keys = standing ((op.writes? log).getD log) := by
  have hfits := fits_apply h op
  rw [perform]
  generalize op.writes? log = writes, op.apply ring = outcome at hfits
  cases hfits with
  | written hkeys => exact hkeys
  | failed e => exact h

/-- After every history the keyring holds the writes that stand. -/
theorem keys_after (ops : List Operation) : (after ops).keys = standing (writes ops) := by
  induction ops using List.reverseRecOn with
  | nil => rfl
  | append_singleton ops op ih =>
      rw [after, writes, List.foldl_append, List.foldl_append]
      exact perform_standing ih op

/-- What is written under a label is a key with its own address. -/
theorem address_of_mem_writes (ops : List Operation) :
    ∀ w ∈ writes ops, w.address = w.key.address := by
  induction ops using List.reverseRecOn with
  | nil => simp [writes]
  | append_singleton ops op ih =>
      rw [writes, List.foldl_append, List.foldl_cons, List.foldl_nil, ← writes]
      have happended (label : String) (key? : Option PrivateKey) :
          ∀ w ∈ (key?.map fun key => writes ops ++ [write label key]).getD (writes ops),
            w.address = w.key.address := by
        cases key? with
        | none => exact ih
        | some key =>
            intro w hw
            rcases List.mem_append.mp hw with hpast | hnew
            · exact ih w hpast
            · rw [List.mem_singleton.mp hnew]
              rfl
      cases op with
      | insert label text => exact happended label (PrivateKey.read text).toOption
      | loadVariable env label var => exact happended label (keyIn? env var)
      | ofEnvironment env currentVar newVar =>
          simp only [Operation.writes?]
          cases keyIn? env currentVar with
          | none => exact ih
          | some current =>
              cases keyIn? env newVar with
              | none => exact ih
              | some new => simp [write]

theorem address_of_mem_after {ops : List Operation} {k : LabelledKey} (h : k ∈ (after ops).keys) :
    k.address = k.key.address := by
  rw [keys_after] at h
  exact address_of_mem_writes ops k (mem_of_mem_standing h)

/-- A keyring answers as the last writes under its labels say. -/
structure LastWriteWins (log : List LabelledKey) (ring : Keyring) : Prop where
  keys : ring.keys = standing log
  distinct : (ring.keys.map (·.label)).Nodup
  signer : ∀ label, ring.signer label =
    match (log.filter (·.label = label)).getLast? with
    | some w => .ok ⟨label, w.address⟩
    | none => .error (.unknownLabel label)
  addresses : ring.addresses = (standing log).map (·.address)
  length : ring.keys.length = (log.map (·.label)).dedup.length

theorem lastWriteWins {ring : Keyring} {log : List LabelledKey} (h : ring.keys = standing log) :
    LastWriteWins log ring where
  keys := h
  distinct := by
    rw [h, map_label_standing]
    exact List.nodup_dedup _
  signer := by
    intro label
    rw [signer, h, find?_standing]
    cases hlast : (log.filter (·.label = label)).getLast? with
    | none => rfl
    | some w =>
        have hw := (List.mem_filter.mp (List.mem_of_getLast? hlast)).2
        obtain rfl : w.label = label := of_decide_eq_true hw
        rfl
  addresses := by rw [addresses, h]
  length := by rw [← map_label_standing, List.length_map, h]

/-- After any history of operations on an empty keyring, of each label the last
key that was written stands, in the order of these writes; and an operation
fails iff a key it needs cannot be read, and then leaves the keyring as it
was. -/
theorem keyring_last_write (ops : List Operation) :
    LastWriteWins (writes ops) (after ops) ∧
      ∀ op : Operation,
        ((∃ e, op.apply (after ops) = .error e) ↔ op.writes? (writes ops) = none) ∧
        ∀ e, op.apply (after ops) = .error e → after (ops ++ [op]) = after ops := by
  refine ⟨lastWriteWins (keys_after ops), fun op => ⟨?_, fun e he => ?_⟩⟩
  · have hfits := fits_apply (keys_after ops) op
    generalize op.writes? (writes ops) = log, op.apply (after ops) = outcome at hfits
    cases hfits <;> simp
  · rw [after, List.foldl_append, List.foldl_cons, List.foldl_nil, ← after, perform, he]

/-! ## Wallets -/

theorem mem_signers_register {w : Wallet} {a b : Address} :
    b ∈ (w.register a).signers ↔ b ∈ w.signers ∨ b = a := by
  unfold Wallet.register
  split
  · rename_i ha
    constructor
    · exact .inl
    · rintro (hb | rfl)
      · exact hb
      · exact ha
  · simp

theorem mem_signers_registered {w : Wallet} {rest : List Address} {b : Address} :
    b ∈ (rest.foldl Wallet.register w).signers ↔ b ∈ w.signers ∨ b ∈ rest := by
  induction rest generalizing w with
  | nil => simp
  | cons a rest ih =>
      rw [List.foldl_cons, ih, mem_signers_register, List.mem_cons, or_assoc]

/-- A wallet has the first address of its keyring as the default, and signs for
all of them and for no other. -/
structure Serves (w : Wallet) (ring : Keyring) : Prop where
  default : ring.addresses.head? = some w.default
  signers : ∀ a, a ∈ w.signers ↔ a ∈ ring.addresses

theorem wallet_of_nil {ring : Keyring} (h : ring.keys = []) : ring.wallet = .error .empty := by
  rw [wallet, addresses, h]
  rfl

/-- Only an empty keyring has no wallet. -/
theorem exists_wallet {ring : Keyring} (h : ring.keys ≠ []) :
    ∃ w, ring.wallet = .ok w ∧ Serves w ring := by
  obtain ⟨first, rest, hkeys⟩ := List.exists_cons_of_ne_nil h
  have haddresses : ring.addresses = first.address :: rest.map (·.address) := by
    rw [addresses, hkeys, List.map_cons]
  refine ⟨_, by rw [wallet, haddresses], ?_, fun a => ?_⟩
  · -- the default stays the first key through all registrations
    have hdefault (w : Wallet) (as : List Address) :
        (as.foldl Wallet.register w).default = w.default := by
      induction as generalizing w with
      | nil => rfl
      | cons a as ih =>
          rw [List.foldl_cons, ih, Wallet.register]
          split <;> rfl
    rw [haddresses, hdefault]
    rfl
  · rw [haddresses, mem_signers_registered, List.mem_singleton, List.mem_cons]

end TwoStep.Keyring
