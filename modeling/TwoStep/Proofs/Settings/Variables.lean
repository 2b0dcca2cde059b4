import TwoStep.Chain.Call
import TwoStep.Proofs.Settings.Layers
import TwoStep.Proofs.Text

/-!
# What the text of a variable becomes

A setting that is a text need not be the text of its variable.  The layer of
the variables takes a text for a truth value or a number where it can, and the
setting is what that value is printed as (`Retold`).  `load_sole_variable` says
so for every text, and that the other settings keep their defaults; the texts
that come through unchanged are those in `Verbatim`.

Most texts do.  A text that starts with a digit and has a character that stands
in no number is among them (`verbatim_of_foreign`): an address with `0x` in
front, or a fee with its unit.  A bare run of digits is not safe.  It is
unchanged only if it is printed the way it was written and fits in a word, and
an address of forty digits does not fit: it is rounded to a float, and loads as
another address (`digits_load_as_another_address`).
-/

namespace TwoStep.Settings

/-! ## Names in capitals -/

/-- The name of the variable that sets a setting, in capitals. -/
def Leaf.capitalName (l : Leaf) : String :=
  String.ofList (l.variableName.toList.map Char.toUpper)

theorem Leaf.lowered_capitalName (l : Leaf) : Text.lowered l.capitalName = l.variableName := by
  refine Text.lowered_capitals ?_
  cases l <;> decide +kernel

/-! ## Texts as they are read and printed -/

/-- A text is no word for a truth value, in any letter case. -/
def Wordless (v : String) : Prop := ∀ b : Bool, Text.lowered v ≠ toString b

/-- The text of a variable, and the text it becomes in a setting. -/
inductive Retold : String → String → Prop where
  | word {v : String} (b : Bool) (hword : Text.lowered v = toString b) : Retold v (toString b)
  | integer {v : String} (i : Int) (hword : Wordless v) (hinteger : readInteger v = some i) :
      Retold v (toString i)
  | float {v : String} (x : Binary64) (hword : Wordless v) (hinteger : readInteger v = none)
      (hfloat : Binary64.read v = some x) : Retold v x.display
  | text {v : String} (hword : Wordless v) (hinteger : readInteger v = none)
      (hfloat : Binary64.read v = none) : Retold v v

/-- A text that becomes itself: the printed form of a truth value, of an integer
that fits in a word or of a float, or none of these. -/
inductive Verbatim : String → Prop where
  | word (b : Bool) : Verbatim (toString b)
  | integer (i : Int) (hholds : Word.holds i = true) : Verbatim (toString i)
  | float {v : String} (x : Binary64) (hword : Wordless v) (hinteger : readInteger v = none)
      (hfloat : Binary64.read v = some x) (hshown : x.display = v) : Verbatim v
  | text {v : String} (hword : Wordless v) (hinteger : readInteger v = none)
      (hfloat : Binary64.read v = none) : Verbatim v

theorem Wordless.ne {v : String} (h : Wordless v) :
    Text.lowered v ≠ "true" ∧ Text.lowered v ≠ "false" :=
  ⟨h true, h false⟩

theorem Retold.shown {v t : String} (h : Retold v t) : (scalarOfText v).shown? = some t := by
  cases h with
  | word b hword =>
      have hscalar : scalarOfText v = .bool b := by
        cases b with
        | true => simp [scalarOfText, show Text.lowered v = "true" from hword]
        | false => simp [scalarOfText, show Text.lowered v = "false" from hword]
      rw [hscalar]
      rfl
  | integer i hword hinteger =>
      have hscalar : scalarOfText v = .integer i := by
        simp [scalarOfText, hword.ne, hinteger]
      rw [hscalar]
      rfl
  | float x hword hinteger hfloat =>
      have hscalar : scalarOfText v = .float x := by
        simp [scalarOfText, hword.ne, hinteger, hfloat]
      rw [hscalar]
      rfl
  | text hword hinteger hfloat =>
      have hscalar : scalarOfText v = .text v := by
        simp [scalarOfText, hword.ne, hinteger, hfloat]
      rw [hscalar]
      rfl

theorem exists_retold (v : String) : ∃ t, Retold v t := by
  by_cases hword : Wordless v
  · cases hinteger : readInteger v with
    | some i => exact ⟨_, .integer i hword hinteger⟩
    | none =>
        cases hfloat : Binary64.read v with
        | some x => exact ⟨_, .float x hword hinteger hfloat⟩
        | none => exact ⟨_, .text hword hinteger hfloat⟩
  · obtain ⟨b, hb⟩ := not_forall.mp hword
    exact ⟨_, .word b (not_not.mp hb)⟩

theorem Retold.unique {v t t' : String} (h : Retold v t) (h' : Retold v t') : t' = t := by
  have hshown := h'.shown
  rw [h.shown] at hshown
  exact (Option.some.inj hshown).symm

/-! ## Integers are printed as they are read -/

/-- Digits and the minus have no letter case. -/
theorem caseless_of_start {c : Char} (hc : (Text.isAsciiDigit c || c == '-') = true) :
    Text.lowerChar c = [c] ∧ c.toLower = c := by
  have hascii : c.toNat < 0x80 := by
    have hc := hc
    simp only [Text.isAsciiDigit, Bool.or_eq_true, Bool.and_eq_true, decide_eq_true_eq,
      beq_iff_eq] at hc
    rcases hc with ⟨-, hnine⟩ | rfl
    · exact Nat.lt_of_le_of_lt ((Text.le_iff_toNat_le c '9').mp hnine) (by decide)
    · decide
  have hall : ∀ c : Char, c.toNat < 128 → (Text.isAsciiDigit c || c == '-') = true →
      Text.lowerChar c = [c] ∧ c.toLower = c := Text.forall_ascii (by decide +kernel)
  exact hall c hascii hc

/-- A text that starts with a digit or a minus is no word. -/
theorem wordless_of_start {v : String} {c : Char} {cs : List Char} (hv : v.toList = c :: cs)
    (hc : (Text.isAsciiDigit c || c == '-') = true) : Wordless v := by
  intro b hb
  have hlower : Text.lowerChar c = [c] := (caseless_of_start hc).1
  have hsigma : (c == 'Σ') = false := by
    refine beq_false_of_ne ?_
    rintro rfl
    exact absurd hc (by decide)
  have hlowered : (Text.lowered v).toList = c :: Text.lowerFrom [c] cs := by
    simp [Text.lowered, Text.lower, hv, Text.lowerFrom, hsigma, hlower]
  rw [hb] at hlowered
  cases b with
  | true =>
      obtain rfl : 't' = c := (List.cons.inj hlowered).1
      exact absurd hc (by decide)
  | false =>
      obtain rfl : 'f' = c := (List.cons.inj hlowered).1
      exact absurd hc (by decide)

theorem signPart_of_digit {c : Char} {cs : List Char} (hc : Text.isAsciiDigit c = true) :
    Binary64.signPart (c :: cs) = (false, c :: cs) := by
  unfold Binary64.signPart
  split
  · rename_i heq
    cases heq
    exact absurd hc (by decide)
  · rename_i heq
    cases heq
    exact absurd hc (by decide)
  · rfl

theorem toList_toString_ofNat (n : Nat) : (toString (n : Int)).toList = Nat.toDigits 10 n :=
  String.toList_ofList

theorem toList_toString_negSucc (n : Nat) :
    (toString (Int.negSucc n)).toList = '-' :: Nat.toDigits 10 (n + 1) := by
  have h : toString (Int.negSucc n) = "-" ++ String.ofList (Nat.toDigits 10 (n + 1)) := rfl
  rw [h, String.toList_append, String.toList_ofList, String.toList_ofList, List.singleton_append]

theorem wordless_toString (i : Int) : Wordless (toString i) := by
  cases i with
  | ofNat n =>
      obtain ⟨c, cs, hdigits, hc⟩ := Json.toDigits_eq_cons n
      have hdigit : Text.isAsciiDigit c = true := hc
      refine wordless_of_start ((toList_toString_ofNat n).trans hdigits) ?_
      rw [hdigit, Bool.true_or]
  | negSucc n => exact wordless_of_start (toList_toString_negSucc n) (by decide)

/-- The integer that a sign and some digits spell. -/
def spelled (negative : Bool) (ds : List Char) : Int :=
  if negative then -(Binary64.natOfDigits ds : Int) else Binary64.natOfDigits ds

theorem readInteger_eq_some_iff {v : String} {i : Int} :
    readInteger v = some i ↔ ∃ negative ds, Binary64.signPart v.toList = (negative, ds) ∧
      ds ≠ [] ∧ (∀ c ∈ ds, Text.isAsciiDigit c = true) ∧ spelled negative ds = i ∧
        Word.holds i = true := by
  rcases hsign : Binary64.signPart v.toList with ⟨negative, ds⟩
  have hread : readInteger v =
      if ds.isEmpty || !ds.all Text.isAsciiDigit then none
      else if Word.holds (spelled negative ds) then some (spelled negative ds) else none := by
    rw [readInteger, hsign]
    rfl
  rw [hread]
  constructor
  · intro h
    by_cases hbad : (ds.isEmpty || !ds.all Text.isAsciiDigit) = true
    · rw [if_pos hbad] at h
      cases h
    · rw [if_neg hbad] at h
      by_cases hholds : Word.holds (spelled negative ds) = true
      · rw [if_pos hholds] at h
        obtain rfl := Option.some.inj h
        simp only [Bool.or_eq_true, Bool.not_eq_true', not_or, List.isEmpty_iff,
          Bool.not_eq_false, List.all_eq_true] at hbad
        exact ⟨negative, ds, rfl, hbad.1, hbad.2, rfl, hholds⟩
      · rw [if_neg hholds] at h
        cases h
  · rintro ⟨negative', ds', heq, hne, hall, rfl, hholds⟩
    obtain ⟨rfl, rfl⟩ := Prod.mk.inj heq
    have hgood : ¬ (ds.isEmpty || !ds.all Text.isAsciiDigit) = true := by
      simpa [hne] using hall
    rw [if_neg hgood, if_pos hholds]

theorem natOfDigits_toDigits (n : Nat) : Binary64.natOfDigits (Nat.toDigits 10 n) = n :=
  Nat.ofDigitChars_ten_toDigits

/-- An integer that fits in a word is read back from its digits. -/
theorem readInteger_toString {i : Int} (h : Word.holds i = true) :
    readInteger (toString i) = some i := by
  refine readInteger_eq_some_iff.mpr ?_
  cases i with
  | ofNat n =>
      obtain ⟨c, cs, hdigits, hc⟩ := Json.toDigits_eq_cons n
      have hsign : Binary64.signPart (toString (n : Int)).toList = (false, Nat.toDigits 10 n) := by
        rw [toList_toString_ofNat, hdigits, signPart_of_digit hc]
      have hvalue : spelled false (Nat.toDigits 10 n) = n :=
        congrArg Int.ofNat (natOfDigits_toDigits n)
      exact ⟨false, _, hsign, Nat.toDigits_ne_nil, Json.isDigit_toDigits n, hvalue, h⟩
  | negSucc n =>
      have hsign : Binary64.signPart (toString (Int.negSucc n)).toList =
          (true, Nat.toDigits 10 (n + 1)) := by
        rw [toList_toString_negSucc]
        rfl
      have hvalue : spelled true (Nat.toDigits 10 (n + 1)) = Int.negSucc n :=
        congrArg (fun k : Nat => -(k : Int)) (natOfDigits_toDigits (n + 1))
      exact ⟨true, _, hsign, Nat.toDigits_ne_nil, Json.isDigit_toDigits (n + 1), hvalue, h⟩

theorem Verbatim.retold {v : String} (h : Verbatim v) : Retold v v := by
  cases h with
  | word b =>
      refine .word b ?_
      cases b <;> decide +kernel
  | integer i hholds => exact .integer i (wordless_toString i) (readInteger_toString hholds)
  | float x hword hinteger hfloat hshown =>
      have h := Retold.float x hword hinteger hfloat
      rwa [hshown] at h
  | text hword hinteger hfloat => exact .text hword hinteger hfloat

/-- A text becomes itself just if it is in `Verbatim`. -/
theorem Retold.eq_iff {v t : String} (h : Retold v t) : t = v ↔ Verbatim v := by
  constructor
  · intro heq
    cases h with
    | word b hword => exact heq ▸ .word b
    | integer i hword hinteger =>
        obtain ⟨-, -, -, -, -, -, hholds⟩ := readInteger_eq_some_iff.mp hinteger
        exact heq ▸ .integer i hholds
    | float x hword hinteger hfloat => exact .float x hword hinteger hfloat heq
    | text hword hinteger hfloat => exact .text hword hinteger hfloat
  · intro hverbatim
    exact hverbatim.retold.unique h

/-! ## Texts that no number looks like -/

/-- The characters that stand in decimals. -/
def isDecimalChar (c : Char) : Bool :=
  Text.isAsciiDigit c || c == '+' || c == '-' || c == '.' || c == 'e' || c == 'E'

theorem isDecimalChar_of_signPart {cs : List Char}
    (h : ∀ c ∈ (Binary64.signPart cs).2, isDecimalChar c = true) :
    ∀ c ∈ cs, isDecimalChar c = true := by
  unfold Binary64.signPart at h
  split at h
  · exact List.forall_mem_cons.mpr ⟨by decide, h⟩
  · exact List.forall_mem_cons.mpr ⟨by decide, h⟩
  · exact h

theorem isDecimalChar_of_digit {c : Char} (h : Text.isAsciiDigit c = true) :
    isDecimalChar c = true := by
  simp [isDecimalChar, h]

theorem isDecimalChar_of_exponentPart {cs : List Char} {e : Int}
    (h : Binary64.exponentPart cs = some e) : ∀ c ∈ cs, isDecimalChar c = true := by
  cases cs with
  | nil => simp
  | cons c rest =>
      rw [Binary64.exponentPart] at h
      rcases hsign : Binary64.signPart rest with ⟨negative, ds⟩
      simp only [hsign] at h
      split at h
      case isTrue hexponent =>
        simp only [Bool.and_eq_true, Bool.or_eq_true, beq_iff_eq, List.all_eq_true] at hexponent
        obtain ⟨⟨hmark, -⟩, hdigits⟩ := hexponent
        refine List.forall_mem_cons.mpr ⟨?_, ?_⟩
        · rcases hmark with rfl | rfl <;> decide
        · refine isDecimalChar_of_signPart fun d hd => ?_
          rw [hsign] at hd
          exact isDecimalChar_of_digit (hdigits d hd)
      case isFalse => cases h

/-- Digits in front of a text add nothing foreign to it. -/
theorem isDecimalChar_of_dropWhile {cs : List Char}
    (h : ∀ c ∈ cs.dropWhile Binary64.isDigit, isDecimalChar c = true) :
    ∀ c ∈ cs, isDecimalChar c = true := by
  intro c hc
  rw [← List.takeWhile_append_dropWhile (p := Binary64.isDigit) (l := cs)] at hc
  rcases List.mem_append.mp hc with hdigit | hrest
  · exact isDecimalChar_of_digit (List.mem_takeWhile_imp hdigit)
  · exact h c hrest

theorem isDecimalChar_of_readDecimal {negative : Bool} {cs : List Char} {x : Binary64}
    (h : Binary64.readDecimal negative cs = some x) : ∀ c ∈ cs, isDecimalChar c = true := by
  refine isDecimalChar_of_dropWhile ?_
  rw [Binary64.readDecimal] at h
  generalize cs.dropWhile Binary64.isDigit = rest at h
  have hexponent {b : Bool} {tail : List Char} {f : Int → Binary64}
      (h : (if b = true then (do none; let e ← Binary64.exponentPart tail; some (f e))
        else do let e ← Binary64.exponentPart tail; some (f e)) = some x) :
      ∃ e, Binary64.exponentPart tail = some e := by
    cases b with
    | true => cases h
    | false =>
        obtain ⟨e, he, -⟩ := Option.bind_eq_some_iff.mp h
        exact ⟨e, he⟩
  dsimp only at h
  split at h
  · rename_i r
    obtain ⟨e, he⟩ := hexponent h
    have htail : ∀ c ∈ r, isDecimalChar c = true :=
      isDecimalChar_of_dropWhile (isDecimalChar_of_exponentPart he)
    exact List.forall_mem_cons.mpr ⟨by decide, htail⟩
  · obtain ⟨e, he⟩ := hexponent h
    exact isDecimalChar_of_exponentPart he

theorem read_of_digit {v : String} {c : Char} {cs : List Char} (hv : v.toList = c :: cs)
    (hc : Text.isAsciiDigit c = true) :
    Binary64.read v = Binary64.readDecimal false (c :: cs) := by
  have hletter (w : String) (hw : w.toList.head?.all (!Text.isAsciiDigit ·) = true) :
      (String.ofList ((c :: cs).map Char.toLower) == w) = false := by
    refine beq_false_of_ne fun heq => ?_
    have hhead : w.toList.head? = some c := by
      rw [← heq, String.toList_ofList, List.map_cons, (caseless_of_start (by simp [hc])).2]
      rfl
    rw [hhead, Option.all_some, hc] at hw
    cases hw
  rw [Binary64.read, hv, signPart_of_digit hc]
  simp only [hletter "inf" (by decide), hletter "infinity" (by decide), hletter "nan" (by decide)]
  rfl

/-- A text that starts with a digit and has a character that stands in no number
becomes itself. -/
theorem verbatim_of_foreign {v : String} {c : Char} {cs : List Char} (hv : v.toList = c :: cs)
    (hc : Text.isAsciiDigit c = true) {d : Char} (hd : d ∈ cs) (hforeign : isDecimalChar d = false) :
    Verbatim v := by
  have hnot : ¬ ∀ c' ∈ c :: cs, isDecimalChar c' = true := by
    intro hall
    have hdecimal := hall d (List.mem_cons_of_mem c hd)
    rw [hforeign] at hdecimal
    cases hdecimal
  have hinteger : readInteger v = none := by
    refine Option.eq_none_iff_forall_ne_some.mpr fun i hi => ?_
    obtain ⟨negative, ds, hsign, -, hall, -⟩ := readInteger_eq_some_iff.mp hi
    rw [hv, signPart_of_digit hc] at hsign
    obtain ⟨-, rfl⟩ := Prod.mk.inj hsign
    exact hnot fun c' hc' => isDecimalChar_of_digit (hall c' hc')
  have hfloat : Binary64.read v = none := by
    refine Option.eq_none_iff_forall_ne_some.mpr fun x hx => ?_
    rw [read_of_digit hv hc] at hx
    exact hnot (isDecimalChar_of_readDecimal hx)
  exact .text (wordless_of_start hv (by simp [hc])) hinteger hfloat

/-! ## One variable and no file -/

theorem Leaf.takes_text {l : Leaf} (hl : l ≠ .jsonLogs) (t : String) : l.Takes (.text t) := by
  cases l with
  | jsonLogs => exact absurd rfl hl
  | _ => exact ⟨t, rfl⟩

theorem exists_get_update (s₀ : Settings) {l : Leaf} (hl : l ≠ .jsonLogs) (t : String) :
    ∃ s : Settings, s.get = Function.update s₀.get l (.text t) := by
  refine exists_get_eq fun l' => ?_
  by_cases hl' : l' = l
  · subst hl'
    rw [Function.update_self]
    exact Leaf.takes_text hl t
  · rw [Function.update_of_ne hl']
    exact takes_get s₀ l'

/-- A single variable is a single write. -/
theorem scalarAt_sole_variable (root : Value) (l : Leaf) (v : String) :
    (root.overlay (layerOfVariables [(l.capitalName, v)])).scalarAt =
      Function.update root.scalarAt l (some (scalarOfText v)) := by
  have hlayer : layerOfVariables [(l.capitalName, v)] =
      [(l.table ++ "." ++ l.key, .scalar (scalarOfText v) (some variablesOrigin))] := by
    simp only [layerOfVariables, List.filterMap_cons, List.filterMap_nil,
      pathOfVariable?_of_leaf l.lowered_capitalName, Option.map_some]
  rw [hlayer, ← Value.scalarAt_assign_path _ _ _ (some variablesOrigin), ← l.ofText_place]
  rfl

/-- A setting that is a text, given by its variable alone. -/
theorem load_of_retold {d : Directory} (hfile : d.exists? defaultFile = false) {l : Leaf}
    (hl : l ≠ .jsonLogs) {v t : String} (h : Retold v t) :
    ∃ s, (∀ loader : Loader, loader.load d none [(l.capitalName, v)] = .ok s) ∧
      s.get l = .text t ∧ ∀ l', l' ≠ l → s.get l' = ({} : Settings).get l' := by
  obtain ⟨s, hs⟩ := exists_get_update {} hl t
  have hfileLayer (formats : Formats) : fileLayer formats d none = .ok [] := by
    rw [fileLayer, hfile]
    rfl
  -- the write is no text yet where the text is taken for a number or a truth value
  have hshows (l' : Leaf) :
      ((defaults.overlay []).overlay (layerOfVariables [(l.capitalName, v)])).Shows l'
        (s.get l') := by
    have hroot := congrFun (scalarAt_sole_variable (defaults.overlay []) l v) l'
    by_cases hl' : l' = l
    · subst hl'
      rw [Function.update_self] at hroot
      rw [hs, Function.update_self]
      exact ⟨scalarOfText v, hroot, h.shown⟩
    · rw [Function.update_of_ne hl'] at hroot
      rw [hs, Function.update_of_ne hl']
      exact Value.shows_of_scalarAt (hroot.trans (scalarAt_encode {} l'))
  refine ⟨s, fun loader => ?_, ?_, fun l' hl' => ?_⟩
  · exact bind_eq_ok_iff.mpr
      ⟨[], hfileLayer _, mapError_eq_ok_iff.mpr (decode_of_shows hshows loader.visits)⟩
  · rw [hs, Function.update_self]
  · rw [hs, Function.update_of_ne hl']

/-- Settings that differ from the defaults in one place at most are told by it. -/
theorem eq_of_get_of_others {s s' : Settings} {l : Leaf} (hset : s.get l = s'.get l)
    (hothers : ∀ l', l' ≠ l → s.get l' = ({} : Settings).get l')
    (hothers' : ∀ l', l' ≠ l → s'.get l' = ({} : Settings).get l') : s = s' := by
  refine eq_of_get fun l' => ?_
  by_cases hl : l' = l
  · rw [hl, hset]
  · rw [hothers l' hl, hothers' l' hl]

/-- Whatever the text of the variable of a text setting is: without a file and
with no other variable, settings are loaded.  The setting is what the text is
retold as, which is the text itself just if that is in `Verbatim`, and the other
settings are the defaults. -/
theorem load_sole_variable {d : Directory} (hfile : d.exists? defaultFile = false) {l : Leaf}
    (hl : l ≠ .jsonLogs) (v : String) :
    ∃ s t, (∀ loader : Loader, loader.load d none [(l.capitalName, v)] = .ok s) ∧ Retold v t ∧
      s.get l = .text t ∧ (s.get l = .text v ↔ Verbatim v) ∧
      ∀ l', l' ≠ l → s.get l' = ({} : Settings).get l' := by
  obtain ⟨t, ht⟩ := exists_retold v
  obtain ⟨s, hload, hset, hothers⟩ := load_of_retold hfile hl ht
  have hverbatim : s.get l = .text v ↔ Verbatim v := by
    rw [hset, Scalar.text.injEq]
    exact ht.eq_iff
  exact ⟨s, t, hload, ht, hset, hverbatim, hothers⟩

/-! A fee with its unit, and an address without `0x`. -/

def bareFolder : Directory := .ofFiles "/srv" []

theorem exists_bareFolder : bareFolder.exists? defaultFile = false := by
  decide +kernel

theorem load_fee_in_gwei : bareFolder.exists? defaultFile = false ∧
    Leaf.priorityFee ≠ .jsonLogs ∧
      Loader.load {} bareFolder none [("OWNERSHIP_HANDOFF__FEES__PRIORITY_FEE", "1.5 gwei")] =
        .ok { priorityFee := "1.5 gwei" } := by
  have hname : Leaf.priorityFee.capitalName = "OWNERSHIP_HANDOFF__FEES__PRIORITY_FEE" := by
    decide +kernel
  obtain ⟨s, t, hload, -, -, hverbatim, hothers⟩ :=
    load_sole_variable exists_bareFolder (l := .priorityFee) (by decide) "1.5 gwei"
  have hfee : s.get .priorityFee = .text "1.5 gwei" :=
    hverbatim.mpr (verbatim_of_foreign rfl (by decide) (d := 'g') (by decide) (by decide))
  refine ⟨exists_bareFolder, by decide, ?_⟩
  rw [← hname, hload]
  refine congrArg Except.ok (eq_of_get_of_others hfee hothers fun l hl => ?_)
  cases l <;> first | rfl | exact absurd rfl hl

def digitAddress : String := "1234567890123456789012345678901234567890"

def roundedAddress : String := "1234567890123456800000000000000000000000"

theorem retold_digitAddress : Retold digitAddress roundedAddress := by
  have hinteger : readInteger digitAddress = none := by decide +kernel
  have hfloat : Binary64.read digitAddress = some (.finite false 8169684988724960 77) := by
    decide +kernel
  have hshown : (Binary64.finite false 8169684988724960 77).display = roundedAddress := by
    decide +kernel
  rw [← hshown]
  exact .float _ (wordless_of_start rfl (by decide)) hinteger hfloat

/-- An address of digits is loaded as the address of another contract. -/
theorem digits_load_as_another_address :
    Loader.load {} bareFolder none [("OWNERSHIP_HANDOFF__CONTRACT__ADDRESS", digitAddress)] =
        .ok { contractAddress := roundedAddress } ∧
      Address.read digitAddress = .ok ⟨0x1234567890123456789012345678901234567890#160⟩ ∧
      Address.read roundedAddress = .ok ⟨0x1234567890123456800000000000000000000000#160⟩ := by
  have hname : Leaf.contractAddress.capitalName = "OWNERSHIP_HANDOFF__CONTRACT__ADDRESS" := by
    decide +kernel
  obtain ⟨s, hload, hset, hothers⟩ :=
    load_of_retold exists_bareFolder (l := .contractAddress) (by decide) retold_digitAddress
  refine ⟨?_, by decide +kernel, by decide +kernel⟩
  rw [← hname, hload]
  refine congrArg Except.ok (eq_of_get_of_others hset hothers fun l hl => ?_)
  cases l <;> first | rfl | exact absurd rfl hl

end TwoStep.Settings
