import Mathlib.Data.List.Perm.Basic
import Mathlib.Data.List.TakeWhile
import TwoStep.CommandLine.Parser

/-!
# Spelled command lines are read back

A command line is spelled in many ways: its options stand in any order, a value
behind an equals sign or as a word of its own, and the settings file is named in
front of the command or behind it (`SpellsLine`).

A value that is a word of its own waits until the next option or the end of the
level, so a reading is looked at as if it were settled (`Holds`).  Then one
spelled option adds itself to what was given and nothing else, in either
spelling and whatever its value is (`readLevel_choice`), and so do several, one
after the other (`readLevel_choices`).  The options of a command are some of those
of its level (`drawn_asked`), so none is given twice, and in whatever order they
are given, they make up the command again (`commandOf_eq`).

`spelled_parses_back` puts the levels together.
-/

namespace TwoStep.CommandLine

/-! ## Spellings -/

/-- An option that a command line has, with its value. -/
inductive Choice where
  | flag (name : String)
  | text (name value : String)
  deriving DecidableEq, Repr

namespace Choice

def name : Choice → String
  | .flag name => name
  | .text name _ => name

/-- An option as it is given to a level. -/
def given : Choice → String × String
  | .flag name => (name, "")
  | .text name value => (name, value)

@[simp]
theorem given_fst (c : Choice) : c.given.1 = c.name := by cases c <;> rfl

def texts (name : String) : Option String → List Choice
  | some value => [.text name value]
  | none => []

def flags (name : String) : Bool → List Choice
  | true => [.flag name]
  | false => []

end Choice

open Choice (texts flags)

def nameOf : Command → String
  | .dialogue (.transfer _) => "transfer"
  | .dialogue (.accept _) => "accept"
  | .dialogue (.status _) => "status"
  | .initConfig _ _ => "init-config"

def choicesOf : Command → List Choice
  | .dialogue (.transfer o) =>
    texts "contract" o.contract ++ texts "priority-fee" o.fee ++ flags "dry-run" o.dryRun ++
      flags "json" o.json
  | .dialogue (.accept o) => texts "contract" o.contract ++ texts "priority-fee" o.fee
  | .dialogue (.status o) => texts "contract" o.contract ++ flags "json" o.json
  | .initConfig path force => texts "path" (some path) ++ flags "force" force

/-- Options that ask for a command: its own, or without the path that is used
anyway. -/
inductive Asks : Command → List Choice → Prop where
  | all (command : Command) : Asks command (choicesOf command)
  | defaultPath (force : Bool) :
      Asks (.initConfig Settings.defaultFile force) (flags "force" force)

/-- An option in words.  A value that starts with a dash stands behind an equals
sign only. -/
inductive Spells : Choice → List String → Prop where
  | flag (name : String) : Spells (.flag name) ["--" ++ name]
  | joined (name value : String) : Spells (.text name value) ["--" ++ name ++ "=" ++ value]
  | apart (name : String) {value : String} (hdash : value.toList.head? ≠ some '-') :
      Spells (.text name value) ["--" ++ name, value]

inductive SpellsAll : List Choice → List String → Prop where
  | nil : SpellsAll [] []
  | cons {c : Choice} {cs : List Choice} {ws words : List String} (first : Spells c ws)
      (rest : SpellsAll cs words) : SpellsAll (c :: cs) (ws ++ words)

/-- The words of a command line. -/
inductive SpellsLine : CommandLine → List String → Prop where
  | bare {config : Option String} {words : List String}
      (spells : SpellsAll (texts "config" config) words) : SpellsLine ⟨config, none⟩ words
  /-- The settings file is named in front of the command. -/
  | front {config : Option String} {command : Command} {asked cs : List Choice}
      {front back : List String} (spells : SpellsAll (texts "config" config) front)
      (asks : Asks command asked) (order : cs.Perm asked) (spellsBack : SpellsAll cs back) :
      SpellsLine ⟨config, some command⟩ (front ++ nameOf command :: back)
  /-- The settings file is named among the options of the command. -/
  | behind {config : Option String} {command : Command} {asked cs : List Choice}
      {back : List String} (asks : Asks command asked)
      (order : cs.Perm (texts "config" config ++ asked)) (spellsBack : SpellsAll cs back) :
      SpellsLine ⟨config, some command⟩ (nameOf command :: back)

/-- No path is empty. -/
structure PathsNamed (line : CommandLine) : Prop where
  config : line.config ≠ some ""
  init : ∀ path force, line.command = some (.initConfig path force) → path ≠ ""

theorem exists_spellsAll (cs : List Choice) : ∃ words, SpellsAll cs words := by
  induction cs with
  | nil => exact ⟨[], .nil⟩
  | cons c cs ih =>
      obtain ⟨words, hwords⟩ := ih
      cases c with
      | flag name => exact ⟨_, .cons (.flag name) hwords⟩
      | text name value => exact ⟨_, .cons (.joined name value) hwords⟩

theorem exists_spellsLine (line : CommandLine) : ∃ words, SpellsLine line words := by
  obtain ⟨config, command⟩ := line
  obtain ⟨front, hfront⟩ := exists_spellsAll (texts "config" config)
  cases command with
  | none => exact ⟨front, .bare hfront⟩
  | some command =>
      obtain ⟨back, hback⟩ := exists_spellsAll (choicesOf command)
      exact ⟨_, .front hfront (.all command) (.refl _) hback⟩

/-! ## One level -/

/-- What a level must be like to be read without doubt: its options have names
that no equals sign ends and are all different, and no command looks like an
option. -/
structure Level.Plain (level : Level) : Prop where
  names : ∀ o ∈ level.options, o.1 ≠ "" ∧ o.1 ≠ "help" ∧ '=' ∉ o.1.toList
  nodup : (level.options.map Prod.fst).Nodup
  commands : ∀ c ∈ level.commands, c.toList.head? ≠ some '-'

/-- One of some options, with a value that it takes. -/
def Choice.Fits (options : List (String × Kind)) : Choice → Prop
  | .flag name => (name, .flag) ∈ options
  | .text name value => ∃ kind, (name, kind) ∈ options ∧ kind ≠ .flag ∧
      (kind = .path → value ≠ "")

theorem Level.Plain.lookup {level : Level} (hlevel : level.Plain) {name : String} {kind : Kind}
    (hmem : (name, kind) ∈ level.options) : level.options.lookup name = some kind := by
  have hnodup := hlevel.nodup
  generalize level.options = options at hmem hnodup
  induction options with
  | nil => cases hmem
  | cons o options ih =>
      rw [List.map_cons, List.nodup_cons] at hnodup
      obtain rfl | hrest := List.mem_cons.mp hmem
      · simp
      · have hne : name ≠ o.1 := by
          rintro rfl
          exact hnodup.1 (List.mem_map.mpr ⟨_, hrest, rfl⟩)
        rw [List.lookup_cons, beq_false_of_ne hne]
        exact ih hrest hnodup.2

/-- A reading has been given some options, the last of which may still wait to
be checked. -/
structure Holds (r : Reading) (given : List (String × String)) : Prop where
  complete : r.waits = false
  settle : r.settle = .ok { given }

theorem holds_empty : Holds {} [] := ⟨rfl, rfl⟩

theorem give_eq {given : List (String × String)} {name value : String} {kind : Kind}
    (hnew : name ∉ given.map Prod.fst) (hvalue : kind = .path → value ≠ "") :
    Reading.give { given } name kind value = .ok { given := given ++ [(name, value)] } := by
  have hany : (given.any fun g => g.1 = name) = false := by
    rw [List.any_eq_false]
    rintro g hg heq
    exact hnew (of_decide_eq_true heq ▸ List.mem_map_of_mem hg)
  simp only [Reading.give, hany, Bool.false_eq_true, if_false]
  rw [if_neg]
  simpa using hvalue

theorem splitEqual_append {cs : List Char} (h : '=' ∉ cs) (rest : List Char) :
    splitEqual (cs ++ rest) = (String.ofList (cs ++ rest.takeWhile (· != '=')),
      match rest.dropWhile (· != '=') with
      | _ :: value => some (String.ofList value)
      | [] => none) := by
  have hne : ∀ c ∈ cs, (c != '=') = true := fun c hc =>
    bne_iff_ne.mpr (ne_of_mem_of_not_mem hc h)
  rw [splitEqual, List.takeWhile_append_of_pos hne, List.dropWhile_append_of_pos hne]
  cases rest.dropWhile (· != '=') <;> rfl

theorem splitEqual_name {name : String} (h : '=' ∉ name.toList) :
    splitEqual name.toList = (name, none) := by
  have hsplit := splitEqual_append h []
  rw [List.append_nil] at hsplit
  rw [hsplit]
  simp

theorem splitEqual_joined {name : String} (h : '=' ∉ name.toList) (value : String) :
    splitEqual (name.toList ++ '=' :: value.toList) = (name, some value) := by
  rw [splitEqual_append h]
  simp

section Level

variable {level : Level} {r : Reading} {given : List (String × String)}

theorem readLevel_dashes (hlevel : level.Plain) (r : Reading) {word : String} {c : Char}
    {cs : List Char} (hword : word.toList = '-' :: '-' :: c :: cs) (rest : List String) :
    readLevel level r (word :: rest) =
      longOption level r (c :: cs) >>= fun r' => readLevel level r' rest := by
  have hcommand : level.commands.contains word = false := by
    rw [← Bool.not_eq_true, List.contains_iff_mem]
    intro hmem
    exact hlevel.commands word hmem (by rw [hword]; rfl)
  rw [readLevel.eq_def]
  simp only [hcommand, Bool.and_false, Bool.false_eq_true, if_false, hword]

theorem readLevel_value {name : String} {kind : Kind} {value : String}
    (hdash : value.toList.head? ≠ some '-') (rest : List String) :
    readLevel level { given, pending := some ⟨name, kind, none⟩ } (value :: rest) =
      readLevel level { given, pending := some ⟨name, kind, some value⟩ } rest := by
  rw [readLevel.eq_def]
  simp only [Reading.waits, Option.isNone_none, Bool.not_true, Bool.false_and, Bool.false_eq_true,
    if_false]
  split
  case h_4 => rfl
  all_goals
    rename_i heq
    rw [heq] at hdash
    exact absurd rfl hdash

section Option

variable {name value : String} {kind : Kind} (hr : Holds r given) (hhelp : name ≠ "help")
  (hequal : '=' ∉ name.toList) (hnew : name ∉ given.map Prod.fst)

include hr hhelp hequal hnew

theorem longOption_flag (hkind : level.options.lookup name = some .flag) :
    longOption level r name.toList = .ok { given := given ++ [(name, "")] } := by
  rw [longOption, splitEqual_name hequal]
  simp only [if_neg hhelp, hkind, hr.settle]
  exact give_eq hnew (by simp)

variable (hkind : level.options.lookup name = some kind) (htext : kind ≠ .flag)

include hkind htext

theorem longOption_joined (hvalue : kind = .path → value ≠ "") :
    longOption level r (name.toList ++ '=' :: value.toList) =
      .ok { given := given ++ [(name, value)] } := by
  rw [longOption, splitEqual_joined hequal]
  simp only [if_neg hhelp, hkind, hr.settle]
  exact give_eq hnew hvalue

omit hnew in
theorem longOption_waits :
    longOption level r name.toList = .ok { given, pending := some ⟨name, kind, none⟩ } := by
  rw [longOption, splitEqual_name hequal]
  simp only [if_neg hhelp, hkind, hr.settle]
  rfl

end Option

/-- An option that is new to a level is given to it, however it is spelled and
whatever its value is. -/
theorem readLevel_choice (hlevel : level.Plain) (hr : Holds r given) {c : Choice}
    (hfits : c.Fits level.options) (hnew : c.name ∉ given.map Prod.fst) {ws : List String}
    (hspells : Spells c ws) (rest : List String) :
    ∃ r', Holds r' (given ++ [c.given]) ∧
      readLevel level r (ws ++ rest) = readLevel level r' rest := by
  have hname {name : String} {kind : Kind} (hkind : (name, kind) ∈ level.options) :
      name ≠ "help" ∧ '=' ∉ name.toList ∧ ∃ d ds, name.toList = d :: ds := by
    obtain ⟨hne, hhelp, hequal⟩ := hlevel.names (name, kind) hkind
    refine ⟨hhelp, hequal, List.exists_cons_of_ne_nil fun hnil => hne ?_⟩
    exact String.toList_injective hnil
  cases hspells with
  | flag name =>
      obtain ⟨hhelp, hequal, d, ds, hchars⟩ := hname hfits
      have hword : ("--" ++ name).toList = '-' :: '-' :: d :: ds := by
        rw [String.toList_append, hchars]
        rfl
      refine ⟨{ given := given ++ [(name, "")] }, ⟨rfl, rfl⟩, ?_⟩
      rw [List.singleton_append, readLevel_dashes hlevel r hword, ← hchars,
        longOption_flag hr hhelp hequal hnew (hlevel.lookup hfits)]
      rfl
  | joined name value =>
      obtain ⟨kind, hkind, htext, hvalue⟩ := hfits
      obtain ⟨hhelp, hequal, d, ds, hchars⟩ := hname hkind
      have hword : ("--" ++ name ++ "=" ++ value).toList =
          '-' :: '-' :: d :: (ds ++ '=' :: value.toList) := by
        rw [String.toList_append, String.toList_append, String.toList_append, hchars]
        simp
      refine ⟨{ given := given ++ [(name, value)] }, ⟨rfl, rfl⟩, ?_⟩
      rw [List.singleton_append, readLevel_dashes hlevel r hword, ← List.cons_append, ← hchars,
        longOption_joined hr hhelp hequal hnew (hlevel.lookup hkind) htext hvalue]
      rfl
  | apart name hdash =>
      obtain ⟨kind, hkind, htext, hvalue⟩ := hfits
      obtain ⟨hhelp, hequal, d, ds, hchars⟩ := hname hkind
      have hword : ("--" ++ name).toList = '-' :: '-' :: d :: ds := by
        rw [String.toList_append, hchars]
        rfl
      rename_i value
      -- the value is only checked by the next option or at the end
      refine ⟨{ given, pending := some ⟨name, kind, some value⟩ }, ⟨rfl, ?_⟩, ?_⟩
      · exact give_eq hnew hvalue
      · rw [List.cons_append, readLevel_dashes hlevel r hword, ← hchars,
          longOption_waits hr hhelp hequal (hlevel.lookup hkind) htext]
        exact readLevel_value hdash rest

theorem readLevel_choices (hlevel : level.Plain) {cs : List Choice} {words : List String}
    (hspells : SpellsAll cs words) (hfits : ∀ c ∈ cs, c.Fits level.options)
    (hr : Holds r given)
    (hnodup : (given.map Prod.fst ++ cs.map Choice.name).Nodup) (rest : List String) :
    ∃ r', Holds r' (given ++ cs.map Choice.given) ∧
      readLevel level r (words ++ rest) = readLevel level r' rest := by
  induction hspells generalizing r given with
  | nil => exact ⟨r, by rwa [List.map_nil, List.append_nil], rfl⟩
  | @cons c cs ws words first others ih =>
      obtain ⟨hc, hcs⟩ := List.forall_mem_cons.mp hfits
      have hnew : c.name ∉ given.map Prod.fst := fun hmem =>
        (List.nodup_append.mp hnodup).2.2 _ hmem _ List.mem_cons_self rfl
      obtain ⟨r', hr', hread⟩ := readLevel_choice hlevel hr hc hnew first (words ++ rest)
      obtain ⟨r'', hr'', hread'⟩ := ih hcs hr' (by simpa using hnodup)
      refine ⟨r'', by simpa using hr'', ?_⟩
      rw [List.append_assoc, hread, hread']

end Level

/-! ## Looking up what was given -/

theorem lookup_perm {xs ys : List (String × String)} (h : xs.Perm ys)
    (hnodup : (xs.map Prod.fst).Nodup) (k : String) : xs.lookup k = ys.lookup k := by
  induction h with
  | nil => rfl
  | cons x _ ih =>
      rw [List.map_cons, List.nodup_cons] at hnodup
      rw [List.lookup_cons, List.lookup_cons, ih hnodup.2]
  | swap x y xs =>
      simp only [List.map_cons, List.nodup_cons, List.mem_cons, not_or] at hnodup
      obtain ⟨x, v⟩ := x
      obtain ⟨y, w⟩ := y
      simp only [List.lookup_cons]
      by_cases hx : k = x
      · have hy : k ≠ y := fun hy => hnodup.1.1 (hy.symm.trans hx)
        simp only [beq_false_of_ne hy]
      · simp only [beq_false_of_ne hx]
  | trans h _ ih ih' => exact (ih hnodup).trans (ih' ((h.map Prod.fst).nodup_iff.mp hnodup))

@[simp]
theorem lookup_texts (name : String) (value : Option String) (k : String) :
    ((texts name value).map Choice.given).lookup k = if k = name then value else none := by
  cases value with
  | none => simp [texts]
  | some v =>
      by_cases h : k = name
      · simp [texts, Choice.given, h]
      · simp [texts, Choice.given, h, List.lookup_cons, beq_false_of_ne h]

@[simp]
theorem lookup_flags (name : String) (b : Bool) (k : String) :
    ((flags name b).map Choice.given).lookup k = if k = name ∧ b then some "" else none := by
  cases b with
  | false => simp [flags]
  | true =>
      by_cases h : k = name
      · simp [flags, Choice.given, h]
      · simp [flags, Choice.given, h, List.lookup_cons, beq_false_of_ne h]

@[simp]
theorem any_texts (name : String) (value : Option String) (k : String) :
    (texts name value).any (fun c => c.name = k) = (decide (name = k) && value.isSome) := by
  cases value with
  | none => simp [texts]
  | some v =>
      change (decide (name = k) || false) = (decide (name = k) && true)
      rw [Bool.or_false, Bool.and_true]

@[simp]
theorem any_flags (name : String) (b : Bool) (k : String) :
    (flags name b).any (fun c => c.name = k) = (decide (name = k) && b) := by
  cases b with
  | false => simp [flags]
  | true =>
      change (decide (name = k) || false) = (decide (name = k) && true)
      rw [Bool.or_false, Bool.and_true]

/-! ## The options of each level -/

theorem rootLevel_plain : rootLevel.Plain where
  names := by simp [rootLevel, configOption]
  nodup := by simp [rootLevel]
  commands := by simp [rootLevel]

theorem levelOf_nameOf (command : Command) : ∃ level, levelOf? (nameOf command) = some level := by
  rcases command with (_ | _ | _) | _ <;> simp [nameOf, levelOf?]

theorem levelOf_plain {name : String} {level : Level} (h : levelOf? name = some level) :
    level.Plain := by
  unfold levelOf? at h
  split_ifs at h
  all_goals
    obtain rfl := Option.some.inj h
    constructor <;> simp [configOption]

/-- Some of the options of a level, in its order, with values that they take. -/
inductive Drawn : List (String × Kind) → List Choice → Prop where
  | nil : Drawn [] []
  | skip {o : String × Kind} {os : List (String × Kind)} {cs : List Choice} (rest : Drawn os cs) :
      Drawn (o :: os) cs
  | flag {name : String} {os : List (String × Kind)} {cs : List Choice} (rest : Drawn os cs) :
      Drawn ((name, .flag) :: os) (.flag name :: cs)
  | text {name value : String} {kind : Kind} {os : List (String × Kind)} {cs : List Choice}
      (htext : kind ≠ .flag) (hvalue : kind = .path → value ≠ "") (rest : Drawn os cs) :
      Drawn ((name, kind) :: os) (.text name value :: cs)

namespace Drawn

variable {os os' : List (String × Kind)} {cs cs' : List Choice}

theorem names (h : Drawn os cs) : (cs.map Choice.name).Sublist (os.map Prod.fst) := by
  induction h with
  | nil => exact .slnil
  | skip _ ih => exact ih.cons _
  | flag _ ih => exact ih.cons_cons _
  | text _ _ _ ih => exact ih.cons_cons _

theorem fits (h : Drawn os cs) : ∀ c ∈ cs, c.Fits os := by
  have hmore {c : Choice} {o : String × Kind} {os : List (String × Kind)} (hc : c.Fits os) :
      c.Fits (o :: os) := by
    cases c with
    | flag name => exact List.mem_cons_of_mem _ hc
    | text name value => exact hc.imp fun kind hkind => ⟨List.mem_cons_of_mem _ hkind.1, hkind.2⟩
  induction h with
  | nil => simp
  | skip _ ih => exact fun c hc => hmore (ih c hc)
  | flag _ ih => exact List.forall_mem_cons.mpr ⟨List.mem_cons_self, fun c hc => hmore (ih c hc)⟩
  | text htext hvalue _ ih =>
      refine List.forall_mem_cons.mpr ⟨⟨_, List.mem_cons_self, htext, hvalue⟩, fun c hc => ?_⟩
      exact hmore (ih c hc)

theorem append (h : Drawn os cs) (h' : Drawn os' cs') : Drawn (os ++ os') (cs ++ cs') := by
  induction h with
  | nil => exact h'
  | skip _ ih => exact .skip ih
  | flag _ ih => exact .flag ih
  | text htext hvalue _ ih => exact .text htext hvalue ih

theorem ofFlag {name : String} {b : Bool} : Drawn [(name, .flag)] (flags name b) := by
  cases b with
  | false => exact .skip .nil
  | true => exact .flag .nil

theorem ofText {name : String} {value : Option String} :
    Drawn [(name, .text)] (texts name value) := by
  cases value with
  | none => exact .skip .nil
  | some v => exact .text (by decide) nofun .nil

theorem ofPath {name : String} {value : Option String} (h : value ≠ some "") :
    Drawn [(name, .path)] (texts name value) := by
  cases value with
  | none => exact .skip .nil
  | some v => exact .text (by decide) (fun _ hnil => h (congrArg some hnil)) .nil

end Drawn

section Asks

variable {config : Option String} {command : Command} {asked cs : List Choice} {level : Level}

/-- The options of a command, and the settings file, are options of its level. -/
theorem drawn_asked (asks : Asks command asked) (hpaths : PathsNamed ⟨config, some command⟩)
    (hlevel : levelOf? (nameOf command) = some level) :
    Drawn level.options (texts "config" config ++ asked) := by
  cases asks with
  | all =>
    rcases command with (o | o | o) | ⟨path, force⟩
    all_goals
      simp [levelOf?, nameOf] at hlevel
      subst hlevel
      refine (Drawn.ofPath hpaths.config).append ?_
    case dialogue.transfer => exact ((Drawn.ofText.append .ofText).append .ofFlag).append .ofFlag
    case dialogue.accept => exact Drawn.ofText.append .ofText
    case dialogue.status => exact Drawn.ofText.append .ofFlag
    case initConfig =>
      have hnamed : some path ≠ some "" := fun hnil =>
        hpaths.init path force rfl (Option.some.inj hnil)
      exact (Drawn.ofPath hnamed).append .ofFlag
  | defaultPath force =>
    simp [levelOf?, nameOf] at hlevel
    subst hlevel
    exact (Drawn.ofPath hpaths.config).append (.skip .ofFlag)

/-- The options of a command and the settings file make up both, in whatever
order they stand. -/
theorem commandOf_eq (asks : Asks command asked)
    (order : cs.Perm (texts "config" config ++ asked)) (hnodup : (cs.map Choice.name).Nodup) :
    Reading.get? { given := cs.map Choice.given } "config" = config ∧
      commandOf (nameOf command) { given := cs.map Choice.given } = command := by
  have hget (k : String) : Reading.get? { given := cs.map Choice.given } k =
      ((texts "config" config ++ asked).map Choice.given).lookup k :=
    lookup_perm (order.map _) (by simpa [Choice.given_fst, Function.comp_def] using hnodup) k
  have hhas (k : String) : Reading.has { given := cs.map Choice.given } k =
      (texts "config" config ++ asked).any fun c => c.name = k := by
    rw [Reading.has, List.any_map, order.any_eq]
    simp [Function.comp_def]
  cases asks with
  | all =>
    rcases command with (o | o | o) | ⟨path, force⟩
    all_goals simp [commandOf, nameOf, hget, hhas, choicesOf, List.lookup_append]
  | defaultPath force =>
    simp [commandOf, nameOf, hget, hhas, List.lookup_append]

/-! ## Whole lines -/

/-- The words behind a command give its options and the settings file, however
they are spelled. -/
theorem readCommand_spelled (asks : Asks command asked)
    (hpaths : PathsNamed ⟨config, some command⟩)
    (order : cs.Perm (texts "config" config ++ asked)) {words : List String}
    (spells : SpellsAll cs words) :
    ∃ r, readCommand (nameOf command) words = .ok (r, command) ∧ r.get? "config" = config := by
  obtain ⟨level, hlevel⟩ := levelOf_nameOf command
  have hplain := levelOf_plain hlevel
  have hdrawn := drawn_asked asks hpaths hlevel
  have hnodup : (cs.map Choice.name).Nodup :=
    (order.map _).nodup_iff.mpr (hdrawn.names.nodup hplain.nodup)
  have hfits : ∀ c ∈ cs, c.Fits level.options := fun c hc => hdrawn.fits c (order.mem_iff.mp hc)
  obtain ⟨r, hr, hread⟩ := readLevel_choices hplain spells hfits holds_empty hnodup []
  obtain ⟨hconfig, hcommand⟩ := commandOf_eq asks order hnodup
  refine ⟨{ given := cs.map Choice.given }, ?_, hconfig⟩
  rw [List.append_nil, readLevel] at hread
  simp only [readCommand, hlevel, hread, bind, Except.bind, hr.settle, List.nil_append, hcommand]
  rfl

end Asks

/-- The words in front of a command, or of a line without one, name at most the
settings file. -/
theorem readLevel_front {config : Option String} (hpath : config ≠ some "") {words : List String}
    (spells : SpellsAll (texts "config" config) words) (rest : List String) :
    ∃ r, Holds r ((texts "config" config).map Choice.given) ∧
      readLevel rootLevel {} (words ++ rest) = readLevel rootLevel r rest := by
  have hdrawn : Drawn rootLevel.options (texts "config" config) := .ofPath hpath
  exact readLevel_choices rootLevel_plain spells hdrawn.fits holds_empty
    (hdrawn.names.nodup rootLevel_plain.nodup) rest

/-- The command ends the level in front of it, and its words are read with what
that level was given. -/
theorem parse_command {command : Command} {words rest : List String} {root inner : Reading}
    {given : List (String × String)} (hroot : Holds root given)
    (hfront : readLevel rootLevel {} words = readLevel rootLevel root (nameOf command :: rest))
    (hback : readCommand (nameOf command) rest = .ok (inner, command)) :
    parse words = .ok ⟨(inner.get? "config").or (given.lookup "config"), some command⟩ := by
  have hmem : rootLevel.commands.contains (nameOf command) = true := by
    rcases command with (_ | _ | _) | _ <;> simp [rootLevel, nameOf]
  have hhelp : nameOf command ≠ "help" := by
    rcases command with (_ | _ | _) | _ <;> simp [nameOf]
  have hend : readLevel rootLevel root (nameOf command :: rest) =
      .ok (root, some (nameOf command, rest)) := by
    rw [readLevel.eq_def]
    simp only [hroot.complete, hmem, Bool.not_false, Bool.and_self, if_true]
  simp only [parse, hfront, hend, bind, Except.bind, if_neg hhelp, hback, hroot.settle]
  rfl

/-- Every command line is spelled in some words, and whichever they are, they
are read as that command line. -/
theorem spelled_parses_back (line : CommandLine) (hpaths : PathsNamed line) :
    (∃ words, SpellsLine line words) ∧ ∀ words, SpellsLine line words → parse words = .ok line := by
  refine ⟨exists_spellsLine line, fun words hwords => ?_⟩
  cases hwords with
  | @bare config words spells =>
      obtain ⟨r, hr, hread⟩ := readLevel_front hpaths.config spells []
      rw [List.append_nil, readLevel] at hread
      simp only [parse, hread, bind, Except.bind, hr.settle]
      simp [Reading.get?, pure, Except.pure]
  | @front config command asked cs front back spells asks order spellsBack =>
      -- behind the command the settings file is not named
      obtain ⟨root, hroot, hfront⟩ := readLevel_front hpaths.config spells (nameOf command :: back)
      have hpaths' : PathsNamed ⟨none, some command⟩ := ⟨nofun, hpaths.init⟩
      obtain ⟨inner, hback, hinner⟩ := readCommand_spelled asks hpaths' order spellsBack
      rw [parse_command hroot hfront hback, hinner]
      simp
  | @behind config command asked cs back asks order spellsBack =>
      obtain ⟨inner, hback, hinner⟩ := readCommand_spelled asks hpaths order spellsBack
      rw [parse_command holds_empty rfl hback, hinner]
      simp

/-- Values may look like commands, options and names of options. -/
theorem parse_misleading :
    let line : CommandLine :=
      ⟨some "a=b.toml", some (.dialogue (.transfer ⟨some "--json", some "status", true, false⟩))⟩
    let words := ["transfer", "--dry-run", "--priority-fee", "status", "--config=a=b.toml",
      "--contract=--json"]
    PathsNamed line ∧ SpellsLine line words ∧ parse words = .ok line := by
  intro line words
  have hpaths : PathsNamed line := ⟨by simp [line], by simp [line]⟩
  have order : List.Perm
      [.flag "dry-run", .text "priority-fee" "status", .text "config" "a=b.toml",
        .text "contract" "--json"]
      (texts "config" line.config ++
        choicesOf (.dialogue (.transfer ⟨some "--json", some "status", true, false⟩))) := by
    decide
  have spells : SpellsLine line words := .behind (.all _) order <|
    .cons (.flag "dry-run") <| .cons (.apart "priority-fee" (by simp)) <|
      .cons (.joined "config" "a=b.toml") <| .cons (.joined "contract" "--json") .nil
  exact ⟨hpaths, spells, (spelled_parses_back line hpaths).2 words spells⟩

/-- Behind a space a dash would start an option. -/
example : parse ["transfer", "--contract", "--json"] = .error .invalidValue := by decide

end TwoStep.CommandLine
