import TwoStep.Settings.Load

/-!
# Settings do not depend on the order of visits

A section is read value by value, and the root section by section.  In which order
decides what is reported of several faults, and nothing else: settings are decoded
in every order or in none, and are the same (`decode_eq_ok_iff`).  Hence what is
loaded is a matter of the files and the variables alone (`Loader.load_ok_iff`).
-/

namespace TwoStep

/-! ## Chains of results -/

section Results

variable {ε α β : Type}

/-- A chain of results has a value iff each link of it does. -/
theorem bind_eq_ok_iff {x : Except ε α} {f : α → Except ε β} {b : β} :
    (x >>= f) = .ok b ↔ ∃ a, x = .ok a ∧ f a = .ok b := by
  cases x with
  | error e => simp [bind, Except.bind]
  | ok a => simp [bind, Except.bind]

theorem mapError_eq_ok_iff {ε' : Type} {f : ε → ε'} {x : Except ε α} {a : α} :
    x.mapError f = .ok a ↔ x = .ok a := by
  cases x with
  | error e => exact ⟨nofun, nofun⟩
  | ok b => exact ⟨fun h => congrArg Except.ok (Except.ok.inj h),
      fun h => congrArg Except.ok (Except.ok.inj h)⟩

theorem forM_eq_ok_iff {f : α → Except ε Unit} {xs : List α} :
    xs.forM f = .ok () ↔ ∀ x ∈ xs, f x = .ok () := by
  induction xs with
  | nil => exact ⟨fun _ => nofun, fun _ => rfl⟩
  | cons x xs ih =>
      change (f x >>= fun _ => xs.forM f) = _ ↔ _
      rw [bind_eq_ok_iff, List.forall_mem_cons, ← ih]
      exact ⟨fun ⟨(), hx, hxs⟩ => ⟨hx, hxs⟩, fun ⟨hx, hxs⟩ => ⟨(), hx, hxs⟩⟩

theorem discard_of_ok {x : Except ε α} {a : α} (h : x = .ok a) : discard x = .ok () := by
  rw [h]
  rfl

end Results

namespace Settings

/-! ## Sections -/

section Sections

variable {root part v w : Value} {α β : Type}

theorem sectionOf_eq_ok_iff {s : Section} :
    sectionOf root s = .ok part ↔ root.entries.lookup s.key = some part := by
  rw [sectionOf]
  cases root.entries.lookup s.key <;> simp

theorem exists_table_of_lookup {field : String} (h : part.entries.lookup field = some v) :
    ∃ es o, part = .table es o := by
  cases part with
  | table es o => exact ⟨es, o, rfl⟩
  | _ => cases h

theorem section1_of_lookup (key name field : String) {read : Reader α} {a : α}
    (h : part.entries.lookup field = some v) (hread : read s!"{key}.{field}" v = .ok a) :
    section1 key name field read part = .ok a := by
  obtain ⟨es, o, rfl⟩ := exists_table_of_lookup h
  rw [Value.entries] at h
  simp only [section1, h, hread]

theorem present_of_lookup {key field : String} {read : Reader α} {es : List (String × Value)}
    {a : α} (h : es.lookup field = some v) (hread : read s!"{key}.{field}" v = .ok a) :
    present key field read es = .ok (some a) := by
  simp only [present, h, hread]
  rfl

theorem section2_of_lookup (key name first second : String) {read : Reader α}
    {read' : Reader β} {a : α} {b : β}
    (h : part.entries.lookup first = some v) (h' : part.entries.lookup second = some w)
    (hread : read s!"{key}.{first}" v = .ok a) (hread' : read' s!"{key}.{second}" w = .ok b) :
    section2 false key name first second read read' part = .ok (a, b) := by
  obtain ⟨es, o, rfl⟩ := exists_table_of_lookup h
  refine bind_eq_ok_iff.mpr ⟨some a, present_of_lookup h hread, ?_⟩
  exact bind_eq_ok_iff.mpr ⟨some b, present_of_lookup h' hread', rfl⟩

/-- Once both values can be read, the one that is handed out first does not matter. -/
theorem section2_of_ok {key name first second : String} {read : Reader α} {read' : Reader β}
    {x : α × β} (h : section2 false key name first second read read' part = .ok x)
    (secondFirst : Bool) : section2 secondFirst key name first second read read' part = .ok x := by
  cases secondFirst with
  | false => exact h
  | true =>
      cases part with
      | table es o =>
          obtain ⟨a, ha, hrest⟩ := bind_eq_ok_iff.mp h
          obtain ⟨b, hb, hpair⟩ := bind_eq_ok_iff.mp hrest
          refine bind_eq_ok_iff.mpr ⟨(), discard_of_ok hb, ?_⟩
          exact bind_eq_ok_iff.mpr ⟨a, ha, bind_eq_ok_iff.mpr ⟨b, hb, hpair⟩⟩
      | _ => exact h

end Sections

/-! ## Settings -/

section Visits

variable {root : Value} {s : Settings}

/-- Where settings can be collected, every section can be read. -/
theorem checkSection_of_collect (h : collect root = .ok s) (visits : Visits) (t : Section) :
    checkSection visits root t = .ok () := by
  simp only [collect, bind_eq_ok_iff, sectionOf_eq_ok_iff] at h
  obtain ⟨network, hnetwork, url, hurl, contract, hcontract, address, haddress, accounts,
    haccounts, keyVars, hkeyVars, fees, hfees, fee, hfee, logs, hlogs, logging, hlogging, -⟩ := h
  rw [checkSection]
  cases t with
  | network => rw [hnetwork]; exact discard_of_ok hurl
  | contract => rw [hcontract]; exact discard_of_ok haddress
  | accounts => rw [haccounts]; exact discard_of_ok (section2_of_ok hkeyVars _)
  | fees => rw [hfees]; exact discard_of_ok hfee
  | observability => rw [hlogs]; exact discard_of_ok (section2_of_ok hlogging _)

theorem decode_eq_ok_iff {visits : Visits} : decode visits root = .ok s ↔ collect root = .ok s := by
  refine ⟨fun h => ?_, fun h => ?_⟩
  · obtain ⟨-, -, hcollect⟩ := bind_eq_ok_iff.mp h
    exact hcollect
  · have hchecks : visits.sections.forM (checkSection visits root) = .ok () :=
      forM_eq_ok_iff.mpr fun t _ => checkSection_of_collect h visits t
    exact bind_eq_ok_iff.mpr ⟨(), hchecks, h⟩

end Visits

end Settings

end TwoStep
