import Mathlib.Data.List.TakeWhile
import TwoStep.EnvFile

/-!
# What a file of variables leaves behind

The lines of a file are applied one after the other, each read with the
variables that are set by then, and a faulty line ends it.  One line sets at most
one variable, behind those that are there (`readLine_cases`), so every prefix of
every file leaves what was set as it was (`prefix_apply`), and a name that was
not set gets the value of the first line that assigns it (`get?_apply_iff`).

Which names a file assigns, and whether a line is faulty, does not depend on the
variables; only the values do (`readLine_outline`).  So a file that was applied to
its end can be applied again, and then all its names are set (`apply_of_settled`).

`load_settles` says all this of the file in a folder, whatever it holds.
-/

namespace TwoStep

/-! ## Setting variables -/

namespace Environment

theorem get?_append (env more : Environment) (name : String) :
    (env ++ more).get? name = (env.get? name).or (more.get? name) := by
  unfold get?
  split
  · rfl
  · exact List.findSome?_append

theorem prefix_setIfUnset (env : Environment) (name value : String) :
    env <+: env.setIfUnset name value := by
  unfold setIfUnset
  split
  · exact List.prefix_rfl
  · exact List.prefix_append env _

theorem get?_of_prefix {env env' : Environment} (h : env <+: env') {name value : String}
    (hset : env.get? name = some value) : env'.get? name = some value := by
  obtain ⟨more, rfl⟩ := h
  rw [get?_append, hset, Option.some_or]

theorem setIfUnset_of_set {env : Environment} {name value : String}
    (hset : env.get? name = some value) (other : String) : env.setIfUnset name other = env := by
  simp only [setIfUnset, hset]

/-- Names without an equals sign are told apart by the texts of variables. -/
theorem valueIn_eq {name key : String} (hname : '=' ∉ name.toList) (hkey : '=' ∉ key.toList)
    (value : String) : valueIn name (key, value) = if key = name then some value else none := by
  have htake {cs : List Char} (hcs : '=' ∉ cs) (rest : List Char) :
      (cs ++ '=' :: rest).takeWhile (· != '=') = cs := by
    rw [List.takeWhile_append_of_pos fun c hc => bne_iff_ne.mpr (ne_of_mem_of_not_mem hc hcs),
      List.takeWhile_cons_of_neg (by decide), List.append_nil]
  unfold valueIn
  by_cases heq : key = name
  · subst heq
    simp
  · rw [if_neg heq, if_neg]
    intro hbelow
    obtain ⟨rest, hrest⟩ := List.isPrefixOf_iff_prefix.mp hbelow
    have hparts := congrArg (List.takeWhile (· != '=')) hrest
    rw [List.append_assoc, List.singleton_append, htake hname, htake hkey] at hparts
    exact heq (String.toList_injective hparts).symm

theorem get?_singleton {name key : String} (hname : '=' ∉ name.toList) (hkey : '=' ∉ key.toList)
    (hne : key ≠ "") (value : String) :
    get? [(key, value)] name = if key = name then some value else none := by
  unfold get?
  split
  case isTrue hempty =>
    rw [if_neg fun heq => hne (heq.trans (String.isEmpty_iff.mp hempty))]
  case isFalse => rw [List.findSome?_singleton, valueIn_eq hname hkey]

theorem get?_setIfUnset {name key : String} (hname : '=' ∉ name.toList)
    (hkey : '=' ∉ key.toList) (hne : key ≠ "") (env : Environment) (value : String) :
    (env.setIfUnset key value).get? name =
      (env.get? name).or (if key = name then some value else none) := by
  unfold setIfUnset
  split
  case h_1 old hset =>
    by_cases heq : key = name
    · rw [← heq, hset, Option.some_or]
    · rw [if_neg heq, Option.or_none]
  case h_2 => rw [get?_append, get?_singleton hname hkey hne]

end Environment

namespace EnvFile

/-! ## One line -/

/-- The lines of a text. -/
def lines (text : String) : List (Except Fault (List Char)) :=
  let cs := match text.toList with
    | c :: rest => if c.toNat = 0xfeff then rest else c :: rest
    | [] => []
  logicalLines [] .complete (physicalLines [] cs)

theorem applyText_eq (env : Environment) (text : String) :
    applyText env text = apply env (lines text) := rfl

/-- A name that may stand in front of an equals sign. -/
structure IsName (name : String) : Prop where
  ne_empty : name ≠ ""
  unequal : '=' ∉ name.toList

theorem isName_of_namePart {cs name rest : List Char} (h : namePart cs = some (name, rest)) :
    IsName (String.ofList name) := by
  cases cs with
  | nil => cases h
  | cons c cs =>
      rw [namePart] at h
      split at h
      case isFalse => cases h
      case isTrue hstart =>
        obtain ⟨rfl, -⟩ := Prod.mk.inj (Option.some.inj h)
        have hchar : isNameChar c = true := by
          rw [startsName, Bool.or_eq_true] at hstart
          obtain hletter | hline := hstart
          · simp [isNameChar, hletter]
          · simp [isNameChar, hline]
        refine ⟨fun hempty => ?_, fun hmem => ?_⟩
        · have hnil := congrArg String.toList hempty
          rw [String.toList_ofList, List.takeWhile_cons_of_pos hchar] at hnil
          cases hnil
        · rw [String.toList_ofList] at hmem
          exact absurd (List.mem_takeWhile_imp hmem) (by decide)

theorem isName_of_assignmentPart {cs name text : List Char}
    (h : assignmentPart cs = .ok (name, text)) : IsName (String.ofList name) := by
  unfold assignmentPart at h
  split at h
  · cases h
  · rename_i first rest hfirst
    split at h
    · obtain ⟨rfl, -⟩ := Prod.mk.inj (Except.ok.inj h)
      exact isName_of_namePart hfirst
    · split at h
      · split at h
        · cases h
        · rename_i second rest' hsecond
          split at h
          · obtain ⟨rfl, -⟩ := Prod.mk.inj (Except.ok.inj h)
            exact isName_of_namePart hsecond
          · cases h
      · cases h

theorem isName_of_readLine {env : Environment} {line : List Char} {name v : String}
    (h : readLine env line = .ok (some (name, v))) : IsName name := by
  rw [readLine] at h
  split at h
  · cases h
  · split at h
    · cases h
    · rename_i found text hpart
      split at h
      · obtain ⟨rfl, -⟩ := Prod.mk.inj (Option.some.inj (Except.ok.inj h))
        exact isName_of_assignmentPart hpart
      · cases hvalue : value env text with
        | error f =>
            rw [hvalue] at h
            cases h
        | ok cs =>
            rw [hvalue] at h
            obtain ⟨rfl, -⟩ := Prod.mk.inj (Option.some.inj (Except.ok.inj h))
            exact isName_of_assignmentPart hpart

/-!
## What a line says without the variables

The variables only add text to a value.  Where a value ends, and whether it has a
fault, is decided by the same moves whatever is set.
-/

def Move.outline : Move → Move
  | .next quote inside _ => .next quote inside []
  | .stop => .stop
  | .fault => .fault

theorem outline_move (env env' : Environment) (quote : Quote) (c : Char) (inside : Inside) :
    (move env quote c inside).outline = (move env' quote c inside).outline := by
  cases inside with
  | name n =>
      simp only [move]
      split_ifs <;> rfl
  | braces n =>
      simp only [move]
      split_ifs <;> rfl
  | text => rfl
  | escape => rfl
  | ended => rfl

theorem valueFrom_outline (env env' : Environment) (whole : List Char) (index : Nat)
    (quote : Quote) (inside : Inside) (cs : List Char) :
    (valueFrom env whole index quote inside cs).map (fun _ => ()) =
      (valueFrom env' whole index quote inside cs).map fun _ => () := by
  induction cs generalizing index quote inside with
  | nil => cases quote <;> cases inside <;> rfl
  | cons c cs ih =>
      have hmove := outline_move env env' quote c inside
      simp only [valueFrom]
      cases hm : move env quote c inside <;> cases hm' : move env' quote c inside <;>
        rw [hm, hm'] at hmove <;> cases hmove
      case next.next.refl quote inside added added' =>
        have hrest := ih (index + 1) quote inside
        simp only
        cases hv : valueFrom env whole (index + 1) quote inside cs <;>
          cases hv' : valueFrom env' whole (index + 1) quote inside cs <;>
          rw [hv, hv'] at hrest <;> cases hrest <;> rfl

/-- The name that a line assigns, if any, or its fault. -/
def outline (line : List Char) : Except Fault (Option String) :=
  (readLine [] line).map (Option.map Prod.fst)

theorem readLine_outline (env : Environment) (line : List Char) :
    (readLine env line).map (Option.map Prod.fst) = outline line := by
  simp only [outline, readLine]
  split
  · rfl
  · split
    · rfl
    · split
      · rfl
      · rename_i name text _ _
        have hvalue := valueFrom_outline env [] text 0 .none .text text
        rw [← value, ← value] at hvalue
        cases hv : value env text <;> cases hv' : value [] text <;> rw [hv, hv'] at hvalue <;>
          cases hvalue <;> rfl

/-! ## Line after line -/

/-- The first line that assigns a name, each line read with the variables that
are set by then, gives it a value.  All lines before are read without a fault. -/
inductive Earliest (name v : String) : Environment → List (Except Fault (List Char)) → Prop where
  | here {env : Environment} {line : List Char} {rest : List (Except Fault (List Char))}
      (hline : readLine env line = .ok (some (name, v))) : Earliest name v env (.ok line :: rest)
  | blank {env : Environment} {line : List Char} {rest : List (Except Fault (List Char))}
      (hline : readLine env line = .ok none) (later : Earliest name v env rest) :
      Earliest name v env (.ok line :: rest)
  | other {env : Environment} {line : List Char} {rest : List (Except Fault (List Char))}
      {key w : String} (hline : readLine env line = .ok (some (key, w))) (hne : key ≠ name)
      (later : Earliest name v (env.setIfUnset key w) rest) :
      Earliest name v env (.ok line :: rest)

section Lines

variable {env : Environment} {ls : List (Except Fault (List Char))}

theorem prefix_apply (env : Environment) (ls : List (Except Fault (List Char))) :
    env <+: (apply env ls).1 := by
  induction ls generalizing env with
  | nil => exact List.prefix_rfl
  | cons l ls ih =>
      cases l with
      | error f => exact List.prefix_rfl
      | ok line =>
          rw [apply]
          split
          · exact List.prefix_rfl
          · exact ih env
          · rename_i name v _
            exact (env.prefix_setIfUnset name v).trans (ih _)

theorem not_earliest_nil {name v : String} : ¬Earliest name v env [] := nofun

theorem not_earliest_error {name v : String} {f : Fault} : ¬Earliest name v env (.error f :: ls) :=
  nofun

theorem earliest_ok_iff {name v : String} {line : List Char} :
    Earliest name v env (.ok line :: ls) ↔
      match readLine env line with
      | .error _ => False
      | .ok none => Earliest name v env ls
      | .ok (some (key, w)) =>
        if key = name then w = v else Earliest name v (env.setIfUnset key w) ls := by
  constructor
  · intro h
    cases h with
    | here hline => simp [hline]
    | blank hline later => simpa [hline] using later
    | other hline hne later => simpa [hline, hne] using later
  · intro h
    split at h
    case h_1 => exact h.elim
    case h_2 hline => exact .blank hline h
    case h_3 key w hline =>
      split_ifs at h with heq
      · exact .here (heq ▸ h ▸ hline)
      · exact .other hline heq h

/-- A name that is not set gets the value of the first line that assigns it, and
no other name is set. -/
theorem get?_apply_iff {name v : String} (hname : '=' ∉ name.toList)
    (hunset : env.get? name = none) :
    (apply env ls).1.get? name = some v ↔ Earliest name v env ls := by
  induction ls generalizing env with
  | nil => simp [apply, hunset, not_earliest_nil]
  | cons l ls ih =>
      cases l with
      | error f => simp [apply, hunset, not_earliest_error]
      | ok line =>
          rw [apply, earliest_ok_iff]
          cases hline : readLine env line with
          | error f => simp [hunset]
          | ok r =>
              cases r with
              | none => exact ih hunset
              | some p =>
                  obtain ⟨key, w⟩ := p
                  obtain ⟨hne, hkey⟩ := isName_of_readLine hline
                  have hget := Environment.get?_setIfUnset hname hkey hne env w
                  rw [hunset, Option.none_or] at hget
                  dsimp only
                  split_ifs with heq
                  · -- set by this line, so no later line changes it
                    rw [if_pos heq] at hget
                    rw [Environment.get?_of_prefix (prefix_apply _ ls) hget, Option.some.injEq]
                  · rw [if_neg heq] at hget
                    exact ih hget

theorem apply_of_settled (h : ∀ l ∈ ls, ∃ line key?, l = .ok line ∧ outline line = .ok key? ∧
    ∀ key ∈ key?, ∃ v, env.get? key = some v) : apply env ls = (env, .ok ()) := by
  induction ls with
  | nil => rfl
  | cons l ls ih =>
      obtain ⟨⟨line, key?, rfl, houtline, hset⟩, hrest⟩ := List.forall_mem_cons.mp h
      have hread := readLine_outline env line
      rw [houtline] at hread
      rw [apply]
      cases hline : readLine env line with
      | error f =>
          rw [hline] at hread
          cases hread
      | ok r =>
          rw [hline] at hread
          obtain rfl := Except.ok.inj hread
          cases r with
          | none => exact ih hrest
          | some p =>
              obtain ⟨key, w⟩ := p
              obtain ⟨v, hv⟩ := hset key rfl
              simp only [Environment.setIfUnset_of_set hv]
              exact ih hrest

theorem settled_of_apply (h : (apply env ls).2 = .ok ()) :
    ∀ l ∈ ls, ∃ line key?, l = .ok line ∧ outline line = .ok key? ∧
      ∀ key ∈ key?, ∃ v, (apply env ls).1.get? key = some v := by
  induction ls generalizing env with
  | nil => simp
  | cons l ls ih =>
      cases l with
      | error f => cases h
      | ok line =>
          have hread := readLine_outline env line
          rw [apply] at h ⊢
          cases hline : readLine env line with
          | error f =>
              rw [hline] at h
              cases h
          | ok r =>
              rw [hline] at hread h
              refine List.forall_mem_cons.mpr ⟨⟨line, _, rfl, hread.symm, ?_⟩, ?_⟩
              · -- set by this line or before it, and the later lines keep it
                rintro key hkey
                obtain ⟨p, rfl, rfl⟩ := Option.map_eq_some_iff.mp (Option.mem_def.mp hkey)
                obtain ⟨hne, hunequal⟩ := isName_of_readLine hline
                have hget := Environment.get?_setIfUnset hunequal hunequal hne env p.2
                rw [if_pos rfl] at hget
                obtain ⟨v, hv⟩ : ∃ v, (env.setIfUnset p.1 p.2).get? p.1 = some v := by
                  rw [hget]
                  cases env.get? p.1 <;> exact ⟨_, rfl⟩
                exact ⟨v, Environment.get?_of_prefix (prefix_apply _ ls) hv⟩
              · cases r with
                | none => exact ih h
                | some p => exact ih h

end Lines

/-! ## The file of a folder -/

/-- What applying the file of a folder leaves of the variables. -/
structure Settles (d : Directory) (folder : String) (env : Environment) : Prop where
  /-- Nothing is removed, whether the file is applied to its end or not. -/
  kept : env <+: (load d folder env).1
  /-- Nothing that is set is changed. -/
  unchanged : ∀ name v, env.get? name = some v → (load d folder env).1.get? name = some v
  /-- What was not set comes from the first line of the file that assigns it. -/
  earliest : ∀ text, d.read (pathIn folder) = .ok text →
    ∀ name v, '=' ∉ name.toList → env.get? name = none →
      ((load d folder env).1.get? name = some v ↔ Earliest name v env (lines text))
  /-- Without a file that can be read, nothing is set. -/
  unread : ∀ e, d.read (pathIn folder) = .error e → (load d folder env).1 = env
  /-- A second run succeeds like the first one, and changes nothing. -/
  again : ∀ applied, (load d folder env).2 = .ok applied →
    load d folder (load d folder env).1 = ((load d folder env).1, .ok applied)

theorem load_of_read {d : Directory} {folder text : String}
    (h : d.read (pathIn folder) = .ok text) (env : Environment) :
    load d folder env = ((apply env (lines text)).1,
      match (apply env (lines text)).2 with
      | .ok () => .ok true
      | .error f => .error (.line f)) := by
  have hexists : d.exists? (pathIn folder) = true := by
    unfold Directory.read at h
    unfold Directory.exists?
    split at h <;> simp_all
  rw [load, if_pos hexists, h]
  dsimp only
  rw [applyText_eq]
  rcases apply env (lines text) with ⟨env', _ | _⟩ <;> rfl

theorem load_of_unread {d : Directory} {folder : String} {e : FileError}
    (h : d.read (pathIn folder) = .error e) (env : Environment) : (load d folder env).1 = env := by
  rw [load, h]
  split <;> rfl

/-- The file of a folder, whatever it holds, sets names that are not set and
leaves the others alone; the first line that assigns a name counts; and once it
was applied to its end, applying it again changes nothing. -/
theorem load_settles (d : Directory) (folder : String) (env : Environment) :
    Settles d folder env := by
  cases hread : d.read (pathIn folder) with
  | error e =>
      have henv := load_of_unread hread env
      refine ⟨henv.symm ▸ env.prefix_rfl, fun name v h => henv.symm ▸ h, ?_, fun _ _ => henv, ?_⟩
      · intro text htext
        rw [hread] at htext
        cases htext
      · intro applied happlied
        rw [henv]
        exact Prod.ext henv happlied
  | ok text =>
      have hload := load_of_read hread
      have hfirst : (load d folder env).1 = (apply env (lines text)).1 := by rw [hload]
      have hkept : env <+: (load d folder env).1 := hfirst ▸ prefix_apply env (lines text)
      refine ⟨hkept, fun name v => Environment.get?_of_prefix hkept, ?_, ?_, ?_⟩
      · intro text' htext' name v hname hunset
        obtain rfl := Except.ok.inj (hread.symm.trans htext')
        rw [hfirst]
        exact get?_apply_iff hname hunset
      · intro e he
        rw [hread] at he
        cases he
      · intro applied happlied
        have hdone : (apply env (lines text)).2 = .ok () ∧ applied = true := by
          rw [hload] at happlied
          dsimp only at happlied
          split at happlied
          · exact ⟨‹_›, (Except.ok.inj happlied).symm⟩
          · cases happlied
        obtain ⟨hend, rfl⟩ := hdone
        rw [hfirst, hload, apply_of_settled (settled_of_apply hend)]

/-- A name assigned twice, a name that is set already, and a faulty line: the
first line counts, what was set stays, and nothing behind the fault is read. -/
example : load (.ofFiles "/srv" [(".env", "A=1\nB=$A$C\nA=2\nC=3\nD='\n")]) "." [("C", "9")] =
    ([("C", "9"), ("A", "1"), ("B", "19")], .error (.line ⟨"D='\n".toList, 4⟩)) := by
  decide +kernel

end EnvFile

end TwoStep
