import Mathlib.Data.List.Forall2
import Mathlib.Logic.Function.Basic
import TwoStep.Proofs.Json.Documents
import TwoStep.Proofs.Settings.Decode
import TwoStep.Proofs.Settings.Names

/-!
# Each setting comes from the last layer that sets it

The tree that the layers are merged into is looked at through seven windows,
one for each setting (`Value.scalarAt`).  Whatever the tree is, putting a value
on top of a setting changes that window to the value and no other
(`scalarAt_withEntry`); sections given as tables, settings given by their path
and variables are all made of such steps.  So what a layer does to the windows
is a list of single writes (`scalarAt_overlay`), and a tree is decoded by
reading its windows (`decode_of_shows`).

`load_last_writer` puts the three layers together.
-/

namespace TwoStep.Settings

/-! ## The seven settings -/

/-- A setting, as the place of a value in the tree. -/
inductive Leaf where
  | rpcUrl
  | contractAddress
  | currentOwnerKeyVar
  | newOwnerKeyVar
  | priorityFee
  | logLevel
  | jsonLogs
  deriving DecidableEq, Repr

namespace Leaf

/-- The section a setting stands in. -/
def table : Leaf → String
  | .rpcUrl => "network"
  | .contractAddress => "contract"
  | .currentOwnerKeyVar => "accounts"
  | .newOwnerKeyVar => "accounts"
  | .priorityFee => "fees"
  | .logLevel => "observability"
  | .jsonLogs => "observability"

/-- The key of a setting in its section. -/
def key : Leaf → String
  | .rpcUrl => "rpc_url"
  | .contractAddress => "address"
  | .currentOwnerKeyVar => "current_owner_key_env"
  | .newOwnerKeyVar => "new_owner_key_env"
  | .priorityFee => "priority_fee"
  | .logLevel => "log_level"
  | .jsonLogs => "json_logs"

theorem isName_place (l : Leaf) : Text.isName l.table = true ∧ Text.isName l.key = true := by
  cases l <;> decide +kernel

def path (l : Leaf) : Path := ⟨l.table, [.key l.key]⟩

theorem ofText_place (l : Leaf) : Path.ofText (l.table ++ "." ++ l.key) = l.path :=
  Path.ofText_of_isName_of_isName l.isName_place.1 l.isName_place.2

/-- The name of the variable that sets a setting, in lower case. -/
def variableName (l : Leaf) : String := "ownership_handoff__" ++ l.table ++ "__" ++ l.key

/-- Values of the right kind: a truth value for the last setting, a text for
all others. -/
def Takes : Leaf → Scalar → Prop
  | .jsonLogs, s => ∃ b, s = .bool b
  | _, s => ∃ t, s = .text t

/-- What the text of a variable sets: a word for a truth value, in any letter
case, or a text that is neither such a word nor a number. -/
def Reads : Leaf → String → Scalar → Prop
  | .jsonLogs, text, s =>
    (Text.lowered text = "true" ∧ s = .bool true) ∨ (Text.lowered text = "false" ∧ s = .bool false)
  | _, text, s =>
    s = .text text ∧ Text.lowered text ≠ "true" ∧ Text.lowered text ≠ "false" ∧
      readInteger text = none ∧ Binary64.read text = none

theorem eq_of_key {l l' : Leaf} (hkey : l'.key = l.key) :
    l' = l := by
  cases l <;> cases l' <;> first | rfl | exact absurd hkey (by decide)

end Leaf

/-- The value of a setting. -/
def get (s : Settings) : Leaf → Scalar
  | .rpcUrl => .text s.rpcUrl
  | .contractAddress => .text s.contractAddress
  | .currentOwnerKeyVar => .text s.currentOwnerKeyVar
  | .newOwnerKeyVar => .text s.newOwnerKeyVar
  | .priorityFee => .text s.priorityFee
  | .logLevel => .text s.logLevel
  | .jsonLogs => .bool s.jsonLogs

/-! ## Windows on the tree -/

namespace Value

/-- The value that stands in the place of a setting, if it has no parts. -/
def scalarAt (root : Value) (l : Leaf) : Option Scalar :=
  match (root.entries.lookup l.table).bind fun part => part.entries.lookup l.key with
  | some (.scalar s _) => some s
  | _ => none

theorem lookup_setEntry (k : String) (v : Value) (es : List (String × Value)) (k' : String) :
    (setEntry k v es).lookup k' = if k' = k then some v else es.lookup k' := by
  induction es with
  | nil =>
      rw [setEntry, List.lookup_cons]
      by_cases h : k' = k
      · simp [h]
      · simp [h, beq_false_of_ne h]
  | cons e es ih =>
      obtain ⟨k₀, old⟩ := e
      rw [setEntry]
      split
      case isTrue hk =>
        subst hk
        rw [List.lookup_cons, List.lookup_cons]
        by_cases h : k' = k₀
        · simp [h]
        · simp [h, beq_false_of_ne h]
      case isFalse hk =>
        rw [List.lookup_cons, List.lookup_cons, ih]
        by_cases h : k' = k₀
        · simp [h, hk]
        · simp [beq_false_of_ne h]

theorem lookup_withEntry (target : Value) (k : String) (v : Value) (k' : String) :
    (target.withEntry k v).entries.lookup k' =
      if k' = k then some v else target.entries.lookup k' :=
  lookup_setEntry k v target.entries k'

/-- A value set in a section is seen in its own window and in no other. -/
theorem scalarAt_withEntry (root target : Value) (l : Leaf) (s : Scalar) (o : Option String) :
    (root.withEntry l.table (target.withEntry l.key (.scalar s o))).scalarAt =
      Function.update (root.withEntry l.table target).scalarAt l (some s) := by
  funext l'
  by_cases hl : l' = l
  · subst hl
    simp [scalarAt, lookup_withEntry]
  · rw [Function.update_of_ne hl]
    by_cases htable : l'.table = l.table
    · have hkey : l'.key ≠ l.key := fun hkey => hl (Leaf.eq_of_key hkey)
      simp [scalarAt, lookup_withEntry, htable, hkey]
    · simp [scalarAt, lookup_withEntry, htable]

/-- A section put where it was changes nothing, and neither does one without
entries where there was none. -/
theorem scalarAt_withEntry_lookup (root : Value) (name : String) (missing : Value)
    (hmissing : missing.entries = []) :
    (root.withEntry name ((root.entries.lookup name).getD missing)).scalarAt = root.scalarAt := by
  funext l
  by_cases htable : l.table = name
  · subst htable
    cases h : root.entries.lookup l.table with
    | none => simp [scalarAt, lookup_withEntry, h, hmissing]
    | some v => simp [scalarAt, lookup_withEntry, h]
  · simp [scalarAt, lookup_withEntry, htable]

end Value

/-! ## Layers as writes -/

/-- Single settings, written one after the other. -/
def writes (g : Leaf → Option Scalar) (xs : List (Leaf × Scalar)) : Leaf → Option Scalar :=
  xs.foldl (fun g x => Function.update g x.1 (some x.2)) g

theorem writes_cons (g : Leaf → Option Scalar) (l : Leaf) (s : Scalar)
    (xs : List (Leaf × Scalar)) :
    writes g ((l, s) :: xs) = writes (Function.update g l (some s)) xs := rfl

theorem writes_append (g : Leaf → Option Scalar) (xs ys : List (Leaf × Scalar)) :
    writes g (xs ++ ys) = writes (writes g xs) ys :=
  List.foldl_append

/-- If no setting is written twice, the order of the writes does not matter. -/
theorem writes_eq_lookup {xs : List (Leaf × Scalar)} (h : (xs.map Prod.fst).Nodup)
    (g : Leaf → Option Scalar) (l : Leaf) : writes g xs l = (xs.lookup l).or (g l) := by
  induction xs generalizing g with
  | nil => rfl
  | cons x xs ih =>
      obtain ⟨l₀, s⟩ := x
      obtain ⟨hnew, hrest⟩ := List.nodup_cons.mp h
      rw [writes_cons, ih hrest, List.lookup_cons]
      by_cases hl : l = l₀
      · subst hl
        have hnone : xs.lookup l = none := by
          rw [List.lookup_eq_none_iff]
          intro x hx
          refine bne_iff_ne.mpr ?_
          rintro rfl
          exact hnew (List.mem_map.mpr ⟨x, hx, rfl⟩)
        simp [hnone]
      · simp [Function.update_of_ne hl, beq_false_of_ne hl]

/-- An entry of a section that gives a value to a setting, its key in any
letter case. -/
structure EntrySets (table : String) (entry : String × Value) (x : Leaf × Scalar) : Prop where
  table : x.1.table = table
  key : Text.lowered entry.1 = x.1.key
  takes : x.1.Takes x.2
  value : ∃ origin, entry.2 = .scalar x.2 origin

/-- A layer that gives values to some settings and says nothing else: each
entry names a setting by its path, or is a section with values for some of its
settings. -/
inductive Assigns : Value.Layer → List (Leaf × Scalar) → Prop where
  | nil : Assigns [] []
  | leaf {name : String} {l : Leaf} {s : Scalar} {layer : Value.Layer}
      {xs : List (Leaf × Scalar)} (origin : Option String) (named : Path.ofText name = l.path)
      (takes : l.Takes s) (rest : Assigns layer xs) :
      Assigns ((name, .scalar s origin) :: layer) ((l, s) :: xs)
  | table {name table : String} {es : List (String × Value)} {layer : Value.Layer}
      {ys xs : List (Leaf × Scalar)} (origin : Option String)
      (named : Path.ofText name = ⟨table, []⟩) (sets : List.Forall₂ (EntrySets table) es ys)
      (rest : Assigns layer xs) :
      Assigns ((name, .table es origin) :: layer) (ys ++ xs)

theorem takes_of_entrySets {table : String} {es : List (String × Value)}
    {ys : List (Leaf × Scalar)} (h : List.Forall₂ (EntrySets table) es ys) :
    ∀ y ∈ ys, y.1.Takes y.2 := by
  induction h with
  | nil => simp
  | cons he _ ih => exact List.forall_mem_cons.mpr ⟨he.takes, ih⟩

theorem Assigns.takes {layer : Value.Layer} {xs : List (Leaf × Scalar)} (h : Assigns layer xs) :
    ∀ x ∈ xs, x.1.Takes x.2 := by
  induction h with
  | nil => simp
  | leaf origin named takes rest ih => exact List.forall_mem_cons.mpr ⟨takes, ih⟩
  | table origin named sets rest ih =>
      intro x hx
      rcases List.mem_append.mp hx with hx | hx
      · exact takes_of_entrySets sets x hx
      · exact ih x hx

namespace Value

/-- The entries of a section are written one after the other. -/
theorem scalarAt_mergedEntries (root target : Value) {table : String}
    {es : List (String × Value)} {ys : List (Leaf × Scalar)}
    (h : List.Forall₂ (EntrySets table) es ys) :
    (root.withEntry table (mergedEntries target es)).scalarAt =
      writes (root.withEntry table target).scalarAt ys := by
  induction h generalizing target with
  | nil => rfl
  | @cons e y es ys he _ ih =>
      obtain ⟨k, v⟩ := e
      obtain ⟨l, s⟩ := y
      obtain ⟨rfl, hkey, -, o, rfl⟩ := he
      rw [mergedEntries, ih, writes_cons, ← scalarAt_withEntry _ _ _ _ o, ← hkey]
      rfl

/-- A value put at the path of a setting is seen in its own window and in no
other. -/
theorem scalarAt_assign_path (root : Value) (l : Leaf) (s : Scalar) (o : Option String) :
    (root.assign l.path (.scalar s o)).scalarAt = Function.update root.scalarAt l (some s) := by
  rw [← scalarAt_withEntry_lookup root l.table gap rfl, ← scalarAt_withEntry]
  rfl

theorem scalarAt_overlay {layer : Layer} {xs : List (Leaf × Scalar)} (h : Assigns layer xs)
    (root : Value) : (root.overlay layer).scalarAt = writes root.scalarAt xs := by
  induction h generalizing root with
  | nil => rfl
  | @leaf name l s layer xs origin named takes rest ih =>
      have hstep : root.overlay ((name, .scalar s origin) :: layer) =
          (root.assign l.path (.scalar s origin)).overlay layer := by
        rw [← named]
        rfl
      rw [hstep, ih, scalarAt_assign_path, writes_cons]
  | @table name table es layer ys xs origin named sets rest ih =>
      have hassign : (root.assign ⟨table, []⟩ (.table es origin)).scalarAt =
          writes root.scalarAt ys := by
        rw [← scalarAt_withEntry_lookup root table empty rfl,
          ← scalarAt_mergedEntries _ _ sets]
        rfl
      have hstep : root.overlay ((name, .table es origin) :: layer) =
          (root.assign ⟨table, []⟩ (.table es origin)).overlay layer := by
        rw [← named]
        rfl
      rw [hstep, ih, hassign, writes_append]

end Value

/-! ## Variables -/

/-- Variables that give values to some settings: each is the variable of a
setting, its name in any letter case, or has nothing to do with settings. -/
inductive Sets : Environment → List (Leaf × Scalar) → Prop where
  | nil : Sets [] []
  | unrelated {name : String} {env : Environment} {ys : List (Leaf × Scalar)} (text : String)
      (named : variableStart.toList.isPrefixOf (Text.lowered name).toList = false)
      (rest : Sets env ys) : Sets ((name, text) :: env) ys
  | leaf {name text : String} {l : Leaf} {s : Scalar} {env : Environment}
      {ys : List (Leaf × Scalar)} (named : Text.lowered name = l.variableName)
      (reads : l.Reads text s) (rest : Sets env ys) :
      Sets ((name, text) :: env) ((l, s) :: ys)

theorem pathOfVariable?_of_unrelated {name : String}
    (h : variableStart.toList.isPrefixOf (Text.lowered name).toList = false) :
    pathOfVariable? name = none := by
  rw [Text.lowered, String.toList_ofList] at h
  simp [pathOfVariable?, h]

theorem pathOfVariable?_of_leaf {name : String} {l : Leaf}
    (h : Text.lowered name = l.variableName) :
    pathOfVariable? name = some (l.table ++ "." ++ l.key) := by
  have hlower : Text.lower name.toList = l.variableName.toList := by
    rw [← h, Text.lowered, String.toList_ofList]
  simp only [pathOfVariable?, hlower]
  cases l <;> decide +kernel

theorem Leaf.Reads.scalarOfText {l : Leaf} {text : String} {s : Scalar} (h : l.Reads text s) :
    scalarOfText text = s := by
  cases l with
  | jsonLogs =>
      rcases h with ⟨hword, rfl⟩ | ⟨hword, rfl⟩ <;> simp [Settings.scalarOfText, hword]
  | _ =>
      obtain ⟨rfl, htrue, hfalse, hinteger, hfloat⟩ := h
      simp [Settings.scalarOfText, htrue, hfalse, hinteger, hfloat]

theorem Leaf.Reads.takes {l : Leaf} {text : String} {s : Scalar} (h : l.Reads text s) :
    l.Takes s := by
  cases l with
  | jsonLogs =>
      rcases h with ⟨-, rfl⟩ | ⟨-, rfl⟩
      · exact ⟨true, rfl⟩
      · exact ⟨false, rfl⟩
  | _ => exact ⟨text, h.1⟩

/-- Variables make a layer of settings that are named by their paths. -/
theorem Sets.assigns {env : Environment} {ys : List (Leaf × Scalar)} (h : Sets env ys) :
    Assigns (layerOfVariables env) ys := by
  induction h with
  | nil => exact .nil
  | unrelated text named rest ih =>
      simp only [layerOfVariables, List.filterMap_cons, pathOfVariable?_of_unrelated named,
        Option.map_none]
      exact ih
  | leaf named reads rest ih =>
      simp only [layerOfVariables, List.filterMap_cons, pathOfVariable?_of_leaf named,
        Option.map_some, reads.scalarOfText]
      exact .leaf _ (Leaf.ofText_place _) reads.takes ih

/-! ## Reading the windows -/

theorem Value.lookup_of_scalarAt {root : Value} {l : Leaf} {x : Scalar}
    (h : root.scalarAt l = some x) :
    ∃ part o, root.entries.lookup l.table = some part ∧
      part.entries.lookup l.key = some (.scalar x o) := by
  unfold scalarAt at h
  split at h
  · rename_i s o hlookup
    obtain ⟨part, hpart, hscalar⟩ := Option.bind_eq_some_iff.mp hlookup
    obtain rfl := Option.some.inj h
    exact ⟨part, o, hpart, hscalar⟩
  · cases h

/-- The text that a value without parts stands for where a text is wanted. -/
def Scalar.shown? : Scalar → Option String
  | .nothing => none
  | .bool b => some (toString b)
  | .integer i => some (toString i)
  | .float x => some x.display
  | .text t => some t

/-- What stands in the window of a setting is read as a value. -/
def Value.Shows (root : Value) (l : Leaf) : Scalar → Prop
  | .text t => ∃ x, root.scalarAt l = some x ∧ x.shown? = some t
  | y => root.scalarAt l = some y

theorem Value.shows_of_scalarAt {root : Value} {l : Leaf} {y : Scalar}
    (h : root.scalarAt l = some y) : root.Shows l y := by
  cases y with
  | text t => exact ⟨.text t, h, rfl⟩
  | _ => exact h

theorem Value.lookup_of_shows_text {root : Value} {l : Leaf} {t : String}
    (h : root.Shows l (.text t)) :
    ∃ part v, root.entries.lookup l.table = some part ∧ part.entries.lookup l.key = some v ∧
      ∀ key, v.asText key = .ok t := by
  obtain ⟨x, hx, hshown⟩ := h
  obtain ⟨part, o, hpart, hv⟩ := Value.lookup_of_scalarAt hx
  refine ⟨part, .scalar x o, hpart, hv, fun key => ?_⟩
  cases x with
  | nothing => cases hshown
  | _ =>
      obtain rfl := Option.some.inj hshown
      rfl

/-- Settings are decoded from a tree that shows them in its windows. -/
theorem decode_of_shows {root : Value} {s : Settings} (h : ∀ l, root.Shows l (s.get l))
    (visits : Visits) : decode visits root = .ok s := by
  obtain ⟨network, url, hnetwork, hurl, hurlText⟩ := Value.lookup_of_shows_text (h .rpcUrl)
  obtain ⟨contract, address, hcontract, haddress, haddressText⟩ :=
    Value.lookup_of_shows_text (h .contractAddress)
  obtain ⟨accounts, current, haccounts, hcurrent, hcurrentText⟩ :=
    Value.lookup_of_shows_text (h .currentOwnerKeyVar)
  obtain ⟨accounts', new, haccounts', hnew, hnewText⟩ :=
    Value.lookup_of_shows_text (h .newOwnerKeyVar)
  obtain ⟨fees, fee, hfees, hfee, hfeeText⟩ := Value.lookup_of_shows_text (h .priorityFee)
  obtain ⟨logs, level, hlogs, hlevel, hlevelText⟩ := Value.lookup_of_shows_text (h .logLevel)
  obtain ⟨logs', o, hlogs', hjson⟩ := Value.lookup_of_scalarAt (h .jsonLogs)
  obtain rfl : accounts = accounts' := Option.some.inj (haccounts.symm.trans haccounts')
  obtain rfl : logs = logs' := Option.some.inj (hlogs.symm.trans hlogs')
  have hnetwork' : sectionOf root .network = .ok network := sectionOf_eq_ok_iff.mpr hnetwork
  have hcontract' : sectionOf root .contract = .ok contract := sectionOf_eq_ok_iff.mpr hcontract
  have haccounts' : sectionOf root .accounts = .ok accounts := sectionOf_eq_ok_iff.mpr haccounts
  have hfees' : sectionOf root .fees = .ok fees := sectionOf_eq_ok_iff.mpr hfees
  have hlogs' : sectionOf root .observability = .ok logs := sectionOf_eq_ok_iff.mpr hlogs
  have hurl' : readNetwork network = .ok s.rpcUrl :=
    section1_of_lookup _ _ _ hurl (hurlText _)
  have haddress' : readContract contract = .ok s.contractAddress :=
    section1_of_lookup _ _ _ haddress (haddressText _)
  have hkeys : readAccounts false accounts = .ok (s.currentOwnerKeyVar, s.newOwnerKeyVar) :=
    section2_of_lookup _ _ _ _ hcurrent hnew (hcurrentText _) (hnewText _)
  have hfee' : readFees fees = .ok s.priorityFee :=
    section1_of_lookup _ _ _ hfee (hfeeText _)
  have hlogging : readObservability false logs = .ok (s.logLevel, s.jsonLogs) :=
    section2_of_lookup _ _ _ _ hlevel hjson (hlevelText _) rfl
  refine decode_eq_ok_iff.mpr ?_
  simp only [collect, hnetwork', hcontract', haccounts', hfees', hlogs', hurl', haddress', hkeys,
    hfee', hlogging, bind, Except.bind, pure, Except.pure]

theorem decode_of_scalarAt {root : Value} {s : Settings}
    (h : ∀ l, root.scalarAt l = some (s.get l)) (visits : Visits) : decode visits root = .ok s :=
  decode_of_shows (fun l => Value.shows_of_scalarAt (h l)) visits

theorem exists_get_eq {g : Leaf → Scalar} (h : ∀ l : Leaf, l.Takes (g l)) :
    ∃ s : Settings, s.get = g := by
  obtain ⟨rpcUrl, hrpcUrl⟩ := h .rpcUrl
  obtain ⟨contractAddress, hcontractAddress⟩ := h .contractAddress
  obtain ⟨currentOwnerKeyVar, hcurrent⟩ := h .currentOwnerKeyVar
  obtain ⟨newOwnerKeyVar, hnew⟩ := h .newOwnerKeyVar
  obtain ⟨priorityFee, hpriorityFee⟩ := h .priorityFee
  obtain ⟨logLevel, hlogLevel⟩ := h .logLevel
  obtain ⟨jsonLogs, hjsonLogs⟩ := h .jsonLogs
  refine ⟨⟨rpcUrl, contractAddress, currentOwnerKeyVar, newOwnerKeyVar, priorityFee, logLevel,
    jsonLogs⟩, funext fun l => ?_⟩
  cases l <;> exact Eq.symm ‹_›

theorem takes_get (s : Settings) (l : Leaf) : l.Takes (s.get l) := by
  cases l <;> exact ⟨_, rfl⟩

theorem scalarAt_encode (s : Settings) (l : Leaf) : (encode s).scalarAt l = some (s.get l) := by
  cases l <;> rfl

/-! ## The three layers -/

/-- What a setting is when variables say `ys` and a file says `xs`. -/
def layered (xs ys : List (Leaf × Scalar)) (l : Leaf) : Scalar :=
  ((ys.lookup l).or (xs.lookup l)).getD (({} : Settings).get l)

theorem takes_of_lookup {xs : List (Leaf × Scalar)} (h : ∀ x ∈ xs, x.1.Takes x.2) {l : Leaf}
    {s : Scalar} (hl : xs.lookup l = some s) : l.Takes s := by
  obtain ⟨before, after, rfl, -⟩ := List.lookup_eq_some_iff.mp hl
  exact h (l, s) (by simp)

theorem takes_layered {xs ys : List (Leaf × Scalar)} (hxs : ∀ x ∈ xs, x.1.Takes x.2)
    (hys : ∀ y ∈ ys, y.1.Takes y.2) (l : Leaf) : l.Takes (layered xs ys l) := by
  unfold layered
  cases hy : ys.lookup l with
  | some s => exact takes_of_lookup hys hy
  | none =>
      cases hx : xs.lookup l with
      | some s => exact takes_of_lookup hxs hx
      | none => exact takes_get {} l

theorem scalarAt_layers {layer above : Value.Layer} {xs ys : List (Leaf × Scalar)}
    (hlayer : Assigns layer xs) (hxs : (xs.map Prod.fst).Nodup) (habove : Assigns above ys)
    (hys : (ys.map Prod.fst).Nodup) (l : Leaf) :
    ((defaults.overlay layer).overlay above).scalarAt l = some (layered xs ys l) := by
  rw [Value.scalarAt_overlay habove, writes_eq_lookup hys, Value.scalarAt_overlay hlayer,
    writes_eq_lookup hxs, defaults, scalarAt_encode, layered]
  cases ys.lookup l <;> cases xs.lookup l <;> rfl

/-- If the file and the variables each give a value to some of the settings,
then settings are loaded, and each is what its variable says, or else what the
file says, or else the default.  The other variables do not matter, nor does
the letter case of names: every environment with the same values loads the
same settings.  Nor do the order of visits and the format of the file. -/
theorem load_last_writer {loader : Loader} {d : Directory} {path? : Option String}
    {layer : Value.Layer} {env : Environment} {xs ys : List (Leaf × Scalar)}
    (hfile : fileLayer loader.formats d path? = .ok layer) (hlayer : Assigns layer xs)
    (hxs : (xs.map Prod.fst).Nodup) (henv : Sets env ys) (hys : (ys.map Prod.fst).Nodup) :
    ∃ s, loader.load d path? env = .ok s ∧
      (∀ l, s.get l = ((ys.lookup l).or (xs.lookup l)).getD (({} : Settings).get l)) ∧
      ∀ env', Sets env' ys → loader.load d path? env' = .ok s := by
  obtain ⟨s, hs⟩ := exists_get_eq (takes_layered hlayer.takes henv.assigns.takes)
  have hload : ∀ env', Sets env' ys → loader.load d path? env' = .ok s := by
    intro env' henv'
    refine bind_eq_ok_iff.mpr ⟨layer, hfile, mapError_eq_ok_iff.mpr ?_⟩
    refine decode_of_scalarAt (fun l => ?_) loader.visits
    rw [scalarAt_layers hlayer hxs henv'.assigns hys, hs]
  exact ⟨s, hload env henv, fun l => congrFun hs l, hload⟩

/-! A file in which one section is written in capitals and one setting by its
path, and variables with names in mixed case. -/

def mixedDocument : Json := .object [
  ("accounts.new_owner_key_env", .string "NEW_KEY"),
  ("FEES", .object [("Priority_Fee", .string "2 gwei")]),
  ("observability", .object [("json_logs", .bool true)])]

def mixedFolder : Directory := .ofFiles "/srv" [("settings.json", mixedDocument.compact)]

def mixedVariables : Environment := [
  ("PATH", "/bin"),
  ("Ownership_Handoff__Fees__Priority_Fee", "9 gwei"),
  ("OWNERSHIP_HANDOFF_TEST", "12"),
  ("OWNERSHIP_HANDOFF__OBSERVABILITY__JSON_LOGS", "False")]

def mixedLayer : Value.Layer :=
  let origin := some "settings.json"
  [("accounts.new_owner_key_env", .scalar (.text "NEW_KEY") origin),
    ("FEES", .table [("Priority_Fee", .scalar (.text "2 gwei") origin)] origin),
    ("observability", .table [("json_logs", .scalar (.bool true) origin)] origin)]

theorem fileLayer_mixedFolder :
    fileLayer .standard mixedFolder (some "settings.json") = .ok mixedLayer := by
  have hfind : mixedFolder.find "settings.json" =
      .file ["srv", "settings.json"] mixedDocument.compact := by decide +kernel
  have hrelative : mixedFolder.relative "settings.json" = ["settings.json"] := by decide +kernel
  have hext : extension? "settings.json" = some "json" := by decide +kernel
  have hformat : Formats.standard.ofPath? ["settings.json"] = some .json := by
    rw [Formats.ofPath?, List.getLast?_singleton, Option.bind_some, hext]
    rfl
  have hmark : withoutMark mixedDocument.compact = mixedDocument.compact := by
    simp [withoutMark, Json.compact, mixedDocument, Json.compactText_object]
  have hplain : mixedDocument.Plain := by
    refine .object ?_
    simp only [List.forall_mem_cons, List.not_mem_nil, false_imp_iff, implies_true, and_true]
    exact ⟨.string _, .object (by simp [Json.Plain.string]), .object (by simp [Json.Plain.bool])⟩
  have hparse := Json.parse_compact hplain
  have hvalue : Format.json "settings.json" mixedDocument.compact =
      some (.table mixedLayer (some "settings.json")) := by
    simp only [Format.json, hmark, hparse]
    rfl
  have horigin : "/".intercalate ["settings.json"] = "settings.json" := rfl
  simp [fileLayer, Directory.exists?, layerOfFile?, Format.layer?, hfind, hrelative, hformat,
    horigin, hvalue]

theorem assigns_mixedLayer : Assigns mixedLayer [(.newOwnerKeyVar, .text "NEW_KEY"),
    (.priorityFee, .text "2 gwei"), (.jsonLogs, .bool true)] := by
  have hfees : List.Forall₂ (EntrySets "fees")
      [("Priority_Fee", .scalar (.text "2 gwei") (some "settings.json"))]
      [(.priorityFee, .text "2 gwei")] :=
    .cons ⟨rfl, by decide +kernel, ⟨_, rfl⟩, ⟨_, rfl⟩⟩ .nil
  have hlogs : List.Forall₂ (EntrySets "observability")
      [("json_logs", .scalar (.bool true) (some "settings.json"))] [(.jsonLogs, .bool true)] :=
    .cons ⟨rfl, by decide +kernel, ⟨_, rfl⟩, ⟨_, rfl⟩⟩ .nil
  exact .leaf _ (Leaf.ofText_place .newOwnerKeyVar) ⟨_, rfl⟩
    (.table _ (by decide +kernel) hfees
      (.table _ (Path.ofText_of_isName (by decide)) hlogs .nil))

theorem sets_mixedVariables :
    Sets mixedVariables [(.priorityFee, .text "9 gwei"), (.jsonLogs, .bool false)] := by
  refine .unrelated _ (by decide +kernel) (.leaf (by decide +kernel) ?_
    (.unrelated _ (by decide +kernel) (.leaf (by decide +kernel) ?_ .nil)))
  · exact ⟨rfl, by decide +kernel, by decide +kernel, by decide +kernel, by decide +kernel⟩
  · exact .inr ⟨by decide +kernel, rfl⟩

theorem eq_of_get {s t : Settings} (h : ∀ l, s.get l = t.get l) : s = t := by
  have hrpcUrl := h .rpcUrl
  have hcontractAddress := h .contractAddress
  have hcurrent := h .currentOwnerKeyVar
  have hnew := h .newOwnerKeyVar
  have hpriorityFee := h .priorityFee
  have hlogLevel := h .logLevel
  have hjsonLogs := h .jsonLogs
  simp only [get, Scalar.text.injEq, Scalar.bool.injEq] at *
  cases s
  cases t
  simp_all

theorem load_mixedFolder : Loader.load {} mixedFolder (some "settings.json") mixedVariables =
    .ok { newOwnerKeyVar := "NEW_KEY", priorityFee := "9 gwei", jsonLogs := false } := by
  have hfile : fileLayer ({} : Loader).formats mixedFolder (some "settings.json") =
      .ok mixedLayer := fileLayer_mixedFolder
  obtain ⟨s, hload, hget, -⟩ := load_last_writer hfile assigns_mixedLayer (by decide)
    sets_mixedVariables (by decide)
  rw [hload]
  refine congrArg Except.ok (eq_of_get fun l => ?_)
  rw [hget]
  cases l <;> rfl

end TwoStep.Settings
