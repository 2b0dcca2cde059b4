import Mathlib.Data.List.DropRight
import Mathlib.Tactic.IntervalCases
import Mathlib.Tactic.SplitIfs
import TwoStep.Json.Parser
import TwoStep.Json.Printer

/-!
# Documents are read back from their text

The reader goes down the grammar, and so does the proof: for each production
there is one lemma that says what the reader makes of a text built by it.
`Reads j t` says that a text is read as a document whatever comes behind it, if
that cannot be taken for the rest of a number; `ReadsItems` and `ReadsMembers`
say the same of what stands between two brackets.  Between the parts blanks may
stand, so the lemmas serve the compact form and the indented one.

The bound on the recursion is paid for by the text: every call that goes one
level down has left a character behind.

`parse_compact` and `parse_pretty_line` hold of `Plain` documents, in which every
string is a text and every number a natural one.
-/

namespace TwoStep.Json

/-! ## Blanks -/

def isBlank (c : Char) : Bool := c = ' ' || c = '\n' || c = '\t' || c = '\r'

/-- A text of blanks only. -/
def Blanks (cs : List Char) : Prop := ∀ c ∈ cs, isBlank c = true

theorem Blanks.nil : Blanks [] := by simp [Blanks]

theorem Blanks.lineBreak (level : Nat) : Blanks (lineBreak level) := by
  intro c hc
  rcases List.mem_cons.mp hc with rfl | hc
  · rfl
  · rw [List.eq_of_mem_replicate hc]
    rfl

theorem skip_append {b : List Char} (hb : Blanks b) (cs : List Char) : skip (b ++ cs) = skip cs :=
  List.dropWhile_append_of_pos hb

theorem skip_cons {c : Char} (hc : isBlank c = false) (cs : List Char) :
    skip (c :: cs) = c :: cs :=
  List.dropWhile_cons_of_neg (Bool.eq_false_iff.mp hc)

/-! ## Strings -/

/-- How a character stands in a string, and the piece it is read as: by the
letter of an escape, by its number, or by itself. -/
inductive Written (c : Char) : List Char → Piece → Prop where
  | letter {l : Char} (names : escapeOf l = some c) : Written c ['\\', l] (.char c)
  | number (control : c.toNat < 0x20) :
      Written c ('\\' :: 'u' :: Hex.digits 4 c.toNat) (.unit c.toNat)
  | plain (printable : ¬c.toNat < 0x20) (noQuote : c ≠ '"') (noBackslash : c ≠ '\\') :
      Written c [c] (.char c)

theorem written_escapedChar (c : Char) : ∃ p, Written c (escapedChar c) p := by
  unfold escapedChar
  split_ifs with hquote hbackslash hn hr ht hb hf hcontrol
  all_goals try (subst_vars; exact ⟨_, .letter rfl⟩)
  · exact ⟨_, .number hcontrol⟩
  · exact ⟨_, .plain hcontrol hquote hbackslash⟩

theorem hexUnit_digits : ∀ n < 0x20, hexUnit (Hex.digits 4 n) = some n := by
  decide

section Written

variable {c : Char} {t : List Char} {p : Piece}

/-- A written character is taken in one step. -/
theorem Written.pieces (h : Written c t p) (rest : List Char) :
    Json.pieces (t ++ rest) = (Json.pieces rest).map fun (ps, r) => (p :: ps, r) := by
  cases h with
  | @letter l names =>
      have hu : l ≠ 'u' := by
        rintro rfl
        simp [escapeOf] at names
      simp [Json.pieces, names, hu]
  | number control =>
      have hunit := hexUnit_digits c.toNat control
      simp only [Hex.digits, List.nil_append, List.cons_append] at hunit
      simp [Json.pieces, Hex.digits, hunit]
  | plain printable noQuote noBackslash =>
      simp [Json.pieces, printable, noBackslash]

/-- No written character is half of a surrogate pair. -/
theorem Written.join (h : Written c t p) (ps : List Piece) :
    Json.join (p :: ps) = (Json.join ps).map (c :: ·) := by
  cases h with
  | letter names => rw [Json.join]
  | number control =>
      have hhigh : isHigh c.toNat = false := by
        simp only [isHigh, Bool.and_eq_false_iff, decide_eq_false_iff_not]
        omega
      have hlow : isLow c.toNat = false := by
        simp only [isLow, Bool.and_eq_false_iff, decide_eq_false_iff_not]
        omega
      cases ps with
      | nil => simp [Json.join, hhigh, hlow]
      | cons q ps => cases q <;> simp [Json.join, hhigh, hlow]
  | plain printable noQuote noBackslash => rw [Json.join]

end Written

/-- A written text is read up to its closing quote, and its pieces make up the
text again. -/
theorem pieces_escapedText (cs rest : List Char) :
    ∃ ps, pieces (cs.flatMap escapedChar ++ '"' :: rest) = some (ps, rest) ∧
      join ps = some cs := by
  induction cs with
  | nil => exact ⟨[], rfl, rfl⟩
  | cons c cs ih =>
      obtain ⟨ps, hpieces, hjoin⟩ := ih
      obtain ⟨p, hwritten⟩ := written_escapedChar c
      refine ⟨p :: ps, ?_, ?_⟩
      · rw [List.flatMap_cons, List.append_assoc, hwritten.pieces, hpieces, Option.map_some]
      · rw [hwritten.join, hjoin, Option.map_some]

/-! ## Numbers -/

/-- What may follow a number, so that it ends there. -/
def Stops (rest : List Char) : Prop :=
  ∀ c ∈ rest.head?, isDigit c = false ∧ c ≠ '.' ∧ c ≠ 'e' ∧ c ≠ 'E'

theorem Stops.nil : Stops [] := by simp [Stops]

theorem Stops.cons {c : Char} (h : isBlank c = true ∨ c = ',' ∨ c = ']' ∨ c = '\x7d')
    (rest : List Char) : Stops (c :: rest) := by
  intro d hd
  obtain rfl : c = d := Option.some.inj hd
  rcases h with hblank | rfl | rfl | rfl
  · simp only [isBlank, Bool.or_eq_true, decide_eq_true_eq] at hblank
    rcases hblank with ((rfl | rfl) | rfl) | rfl <;> decide
  all_goals decide

theorem Stops.append {b rest : List Char} (hb : Blanks b) (h : Stops rest) :
    Stops (b ++ rest) := by
  cases b with
  | nil => exact h
  | cons c b => exact .cons (Or.inl (hb c (by simp))) _

theorem isDigit_toDigits (n : Nat) : ∀ c ∈ Nat.toDigits 10 n, isDigit c = true :=
  fun _ hc => Nat.isDigit_of_mem_toDigits (by decide) (by decide) hc

theorem toDigits_eq_cons (n : Nat) :
    ∃ c cs, Nat.toDigits 10 n = c :: cs ∧ isDigit c = true := by
  obtain ⟨c, cs, htext⟩ : ∃ c cs, Nat.toDigits 10 n = c :: cs :=
    List.exists_cons_of_ne_nil Nat.toDigits_ne_nil
  exact ⟨c, cs, htext, isDigit_toDigits n c (by simp [htext])⟩

/-- A positive number is written without a zero in front. -/
theorem head_toDigits {n : Nat} (hn : 0 < n) :
    ∃ c cs, Nat.toDigits 10 n = c :: cs ∧ c ≠ '0' := by
  induction n using Nat.strongRecOn with
  | ind n ih =>
      by_cases hlt : n < 10
      · rw [Nat.toDigits_of_lt_base hlt]
        refine ⟨_, _, rfl, ?_⟩
        interval_cases n <;> decide
      · obtain ⟨c, cs, htext, hc⟩ := ih (n / 10) (by omega) (by omega)
        rw [Nat.toDigits_of_base_le (by decide) (by omega), htext]
        exact ⟨c, _, rfl, hc⟩

theorem ofDigits_digitValues (cs : List Char) :
    ofDigits (digitValues cs) = Nat.ofDigitChars 10 cs 0 := by
  rw [ofDigits, digitValues, List.foldl_map]
  rfl

theorem wholePart_toDigits (n : Nat) {rest : List Char} (hrest : Stops rest) :
    wholePart (Nat.toDigits 10 n ++ rest) = some (n, rest) := by
  have hstop : rest.takeWhile isDigit = [] ∧ rest.dropWhile isDigit = rest := by
    cases rest with
    | nil => simp
    | cons c rest => simp [(hrest c rfl).1]
  have htake : (Nat.toDigits 10 n ++ rest).takeWhile isDigit = Nat.toDigits 10 n := by
    rw [List.takeWhile_append_of_pos (isDigit_toDigits n), hstop.1, List.append_nil]
  have hdrop : (Nat.toDigits 10 n ++ rest).dropWhile isDigit = rest := by
    rw [List.dropWhile_append_of_pos (isDigit_toDigits n), hstop.2]
  rw [wholePart, htake, hdrop]
  by_cases hn : n = 0
  · subst hn
    rfl
  · obtain ⟨c, cs, htext, hc⟩ := head_toDigits (Nat.pos_of_ne_zero hn)
    have hvalue : ofDigits (digitValues (c :: cs)) = n := by
      rw [ofDigits_digitValues, ← htext, Nat.ofDigitChars_ten_toDigits]
    rw [htext]
    split
    · contradiction
    · simp_all
    · simp_all
    · rw [hvalue]

theorem numberPart_toDigits (n : Nat) {rest : List Char} (hrest : Stops rest) :
    numberPart (Nat.toDigits 10 n ++ rest) = some ({ whole := n }, rest) := by
  have hfraction : fractionPart rest = some (none, rest) := by
    unfold fractionPart
    split
    · exact absurd rfl (hrest _ rfl).2.1
    · rfl
  have hexponent : exponentPart rest = some (none, rest) := by
    unfold exponentPart
    split
    · rename_i c cs
      obtain ⟨-, -, he, hE⟩ := hrest c rfl
      simp [he, hE]
    · rfl
  have hwhole := wholePart_toDigits n hrest
  -- a number that starts with a digit has no sign
  obtain ⟨c, cs, htext, hdigit⟩ := toDigits_eq_cons n
  have hsign : c ≠ '-' := by
    rintro rfl
    exact absurd hdigit (by decide)
  rw [htext, List.cons_append] at hwhole ⊢
  simp [numberPart, hsign, hwhole, hfraction, hexponent]

/-! ## Productions -/

/-- A text is read as a document, whatever follows that does not go on with a
number. -/
def Reads (j : Json) (t : List Char) : Prop :=
  ∀ fuel rest, 2 * t.length ≤ fuel → Stops rest →
    valuePart (fuel + 1) (t ++ rest) = some (j, rest)

/-- A text is read as items, up to a closing bracket. -/
def ReadsItems (js : List Json) (t : List Char) : Prop :=
  ∀ fuel b rest, 2 * t.length ≤ fuel → Blanks b →
    itemsPart (fuel + 2) (t ++ (b ++ ']' :: rest)) = some (js, rest)

/-- A text is read as members, up to a closing brace. -/
def ReadsMembers (ms : List (String × Json)) (t : List Char) : Prop :=
  ∀ fuel b rest, 2 * t.length ≤ fuel → Blanks b →
    membersPart (fuel + 2) (t ++ (b ++ '\x7d' :: rest)) = some (ms.map some, rest)

theorem skip_skip (cs : List Char) : skip (skip cs) = skip cs :=
  List.dropWhile_idempotent _ cs

theorem valuePart_skip (fuel : Nat) (cs : List Char) :
    valuePart fuel (skip cs) = valuePart fuel cs := by
  cases fuel with
  | zero => rfl
  | succ fuel => rw [valuePart, skip_skip, valuePart]

theorem itemsPart_skip (fuel : Nat) (cs : List Char) :
    itemsPart fuel (skip cs) = itemsPart fuel cs := by
  cases fuel with
  | zero => rfl
  | succ fuel => rw [itemsPart, valuePart_skip, itemsPart]

theorem membersPart_skip (fuel : Nat) (cs : List Char) :
    membersPart fuel (skip cs) = membersPart fuel cs := by
  cases fuel with
  | zero => rfl
  | succ fuel => rw [membersPart, skip_skip, membersPart]

theorem Reads.after_blanks {j : Json} {t b : List Char} (hb : Blanks b) (h : Reads j t) :
    Reads j (b ++ t) := by
  intro fuel rest hfuel hrest
  rw [List.length_append] at hfuel
  rw [← valuePart_skip, List.append_assoc, skip_append hb, valuePart_skip]
  exact h fuel rest (by omega) hrest

/-! ### Leaves -/

theorem Reads.null : Reads .null "null".toList := fun _ _ _ _ => rfl

theorem Reads.bool_true : Reads (.bool true) "true".toList := fun _ _ _ _ => rfl

theorem Reads.bool_false : Reads (.bool false) "false".toList := fun _ _ _ _ => rfl

theorem Reads.string (s : String) : Reads (.string s) (quotedText s) := by
  intro fuel rest _ _
  obtain ⟨ps, hpieces, hjoin⟩ := pieces_escapedText s.toList rest
  rw [quotedText, List.append_assoc, List.cons_append, valuePart, skip_cons rfl]
  simp [hpieces, hjoin]

theorem Reads.nat (n : Nat) : Reads (.nat n) (Nat.toDigits 10 n) := by
  intro fuel rest _ hrest
  have hnumber := numberPart_toDigits n hrest
  obtain ⟨c, cs, htext, hdigit⟩ := toDigits_eq_cons n
  have hblank : isBlank c = false := by
    simp only [isBlank, Bool.or_eq_false_iff, decide_eq_false_iff_not]
    refine ⟨⟨⟨?_, ?_⟩, ?_⟩, ?_⟩ <;> (rintro rfl; exact absurd hdigit (by decide))
  rw [htext, List.cons_append] at hnumber ⊢
  rw [valuePart, skip_cons hblank]
  -- no other production starts with a digit
  split
  all_goals first
    | rw [hnumber]; rfl
    | (rename_i heq; obtain ⟨rfl, -⟩ := List.cons.inj heq; exact absurd hdigit (by decide))

/-! ### Items -/

theorem stops_closing {b : List Char} {c : Char} (hb : Blanks b) (hc : c = ']' ∨ c = '\x7d')
    (rest : List Char) : Stops (b ++ c :: rest) :=
  .append hb (.cons (by tauto) rest)

theorem ReadsItems.single {j : Json} {t : List Char} (h : Reads j t) : ReadsItems [j] t := by
  intro fuel b rest hfuel hb
  rw [itemsPart, h fuel _ hfuel (stops_closing hb (.inl rfl) rest)]
  simp [skip_append hb, skip_cons (c := ']') rfl]

theorem ReadsItems.cons {j : Json} {js : List Json} {t u : List Char} (h : Reads j t)
    (hjs : ReadsItems js u) : ReadsItems (j :: js) (t ++ ',' :: u) := by
  intro fuel b rest hfuel hb
  simp only [List.length_append, List.length_cons] at hfuel
  obtain ⟨fuel, rfl⟩ : ∃ f, fuel = f + 1 := ⟨fuel - 1, by omega⟩
  rw [List.append_assoc, List.cons_append, itemsPart,
    h (fuel + 1) _ (by omega) (.cons (by simp) _)]
  simp [skip_cons (c := ',') rfl, hjs fuel b rest (by omega) hb]

/-- No item starts with the closing bracket, so that what follows an opening one
is told apart by its first character. -/
theorem itemsPart_closing (fuel : Nat) (rest : List Char) :
    itemsPart fuel (']' :: rest) = none := by
  match fuel with
  | 0 => rfl
  | 1 => rfl
  | fuel + 2 => rfl

theorem valuePart_bracket (fuel : Nat) (cs : List Char) :
    valuePart (fuel + 1) ('[' :: cs) =
      match skip cs with
      | ']' :: r => some (.array [], r)
      | rest => (itemsPart fuel rest).map fun (js, r) => (.array js, r) := rfl

theorem Reads.array_nil : Reads (.array []) ['[', ']'] := fun _ _ _ _ => rfl

theorem ReadsItems.array {js : List Json} {t b : List Char} (h : ReadsItems js t) (hb : Blanks b) :
    Reads (.array js) ('[' :: t ++ b ++ [']']) := by
  intro fuel rest hfuel _
  simp only [List.length_append, List.length_cons] at hfuel
  obtain ⟨fuel, rfl⟩ : ∃ f, fuel = f + 2 := ⟨fuel - 2, by omega⟩
  have hitems := h fuel b rest (by omega) hb
  have htext : '[' :: t ++ b ++ [']'] ++ rest = '[' :: (t ++ (b ++ ']' :: rest)) := by simp
  rw [← itemsPart_skip] at hitems
  rw [htext, valuePart_bracket]
  split
  · rename_i r heq
    rw [heq, itemsPart_closing] at hitems
    contradiction
  · rw [hitems]
    rfl

/-! ### Members -/

section Members

variable {name : String} {j : Json} {ms : List (String × Json)} {a b t u : List Char}

/-- What is made of a member and the text behind it. -/
def afterMember (fuel : Nat) (member : Option (String × Json)) (cs : List Char) :
    Option (List (Option (String × Json)) × List Char) :=
  match skip cs with
  | '\x7d' :: r => some ([member], r)
  | ',' :: r => (membersPart fuel r).map fun (ms, r) => (member :: ms, r)
  | _ => none

theorem membersPart_name (fuel : Nat) (ha : Blanks a) (rest : List Char) :
    membersPart (fuel + 1) (a ++ quotedText name ++ ':' :: rest) =
      (valuePart fuel rest).bind fun p => afterMember fuel (some (name, p.1)) p.2 := by
  obtain ⟨ps, hpieces, hjoin⟩ := pieces_escapedText name.toList (':' :: rest)
  rw [← membersPart_skip, List.append_assoc, skip_append ha, membersPart_skip, quotedText,
    List.append_assoc, List.cons_append, membersPart, skip_cons rfl]
  simp only [List.cons_append, List.nil_append, hpieces, Option.bind_eq_bind, Option.bind_some,
    skip_cons (c := ':') rfl, hjoin, Option.map_some, String.ofList_toList]
  rfl

theorem ReadsMembers.single (ha : Blanks a) (h : Reads j t) :
    ReadsMembers [(name, j)] (a ++ quotedText name ++ ':' :: t) := by
  intro fuel b rest hfuel hb
  simp only [List.length_append, List.length_cons] at hfuel
  rw [List.append_assoc, List.cons_append, membersPart_name (fuel + 1) ha,
    h fuel _ (by omega) (stops_closing hb (.inr rfl) rest)]
  simp [afterMember, skip_append hb, skip_cons (c := '\x7d') rfl]

theorem ReadsMembers.cons (ha : Blanks a) (h : Reads j t) (hms : ReadsMembers ms u) :
    ReadsMembers ((name, j) :: ms) (a ++ quotedText name ++ ':' :: t ++ ',' :: u) := by
  intro fuel b rest hfuel hb
  simp only [List.length_append, List.length_cons] at hfuel
  obtain ⟨fuel, rfl⟩ : ∃ f, fuel = f + 1 := ⟨fuel - 1, by omega⟩
  have htext : a ++ quotedText name ++ ':' :: t ++ ',' :: u ++ (b ++ '\x7d' :: rest) =
      a ++ quotedText name ++ ':' :: (t ++ ',' :: (u ++ (b ++ '\x7d' :: rest))) := by simp
  rw [htext, membersPart_name (fuel + 2) ha, h (fuel + 1) _ (by omega) (.cons (by simp) _)]
  simp [afterMember, skip_cons (c := ',') rfl, hms fuel b rest (by omega) hb]

theorem membersPart_closing (fuel : Nat) (rest : List Char) :
    membersPart fuel ('\x7d' :: rest) = none := by
  cases fuel <;> rfl

theorem objectOf_map_some (ms : List (String × Json)) : objectOf (ms.map some) = .object ms := by
  have hnames : (ms.map some).mapM id = some ms := by
    induction ms with
    | nil => rfl
    | cons m ms ih => simp [ih]
  rw [objectOf, hnames]

theorem valuePart_brace (fuel : Nat) (cs : List Char) :
    valuePart (fuel + 1) ('\x7b' :: cs) =
      match skip cs with
      | '\x7d' :: r => some (.object [], r)
      | rest => (membersPart fuel rest).map fun (ms, r) => (objectOf ms, r) := rfl

theorem Reads.object_nil : Reads (.object []) ['\x7b', '\x7d'] := fun _ _ _ _ => rfl

theorem ReadsMembers.object (h : ReadsMembers ms t) (hb : Blanks b) :
    Reads (.object ms) ('\x7b' :: t ++ b ++ ['\x7d']) := by
  intro fuel rest hfuel _
  simp only [List.length_append, List.length_cons] at hfuel
  obtain ⟨fuel, rfl⟩ : ∃ f, fuel = f + 2 := ⟨fuel - 2, by omega⟩
  have hmembers := h fuel b rest (by omega) hb
  have htext : '\x7b' :: t ++ b ++ ['\x7d'] ++ rest = '\x7b' :: (t ++ (b ++ '\x7d' :: rest)) := by
    simp
  rw [← membersPart_skip] at hmembers
  rw [htext, valuePart_brace]
  split
  · rename_i r heq
    rw [heq, membersPart_closing] at hmembers
    contradiction
  · simp only [hmembers, Option.map_some, objectOf_map_some]

end Members

/-- Blanks may stand behind a document. -/
theorem Reads.parse_append {j : Json} {t b : List Char} (h : Reads j t) (hb : Blanks b) :
    Json.parse (String.ofList (t ++ b)) = some j := by
  have hstops : Stops (b ++ []) := .append hb .nil
  have hskip : skip (b ++ []) = [] := skip_append hb []
  rw [List.append_nil] at hstops hskip
  have hread := h (2 * (t ++ b).length + 1) b (by simp; omega) hstops
  rw [Json.parse, String.toList_ofList, parseChars, hread]
  simp [hskip]

theorem Reads.parse {j : Json} {t : List Char} (h : Reads j t) :
    Json.parse (String.ofList t) = some j := by
  simpa using h.parse_append .nil

/-! ## Whole documents -/

/-- A document in which every string is a text and every number a natural
one. -/
inductive Plain : Json → Prop where
  | null : Plain .null
  | bool (b : Bool) : Plain (.bool b)
  | nat (n : Nat) : Plain (.nat n)
  | string (s : String) : Plain (.string s)
  | array {items : List Json} (h : ∀ j ∈ items, Plain j) : Plain (.array items)
  | object {members : List (String × Json)} (h : ∀ m ∈ members, Plain m.2) :
      Plain (.object members)

theorem numberText_nat (n : Nat) : numberText { whole := n } = Nat.toDigits 10 n := by
  simp [numberText]

theorem readsItems_compactItems {j : Json} {js : List Json}
    (h : ∀ i ∈ j :: js, Reads i (compactText i)) :
    ReadsItems (j :: js) (compactItems (j :: js)) := by
  induction js generalizing j with
  | nil =>
      rw [compactItems]
      exact .single (h j (by simp))
  | cons k js ih =>
      rw [compactItems]
      · exact .cons (h j (by simp)) (ih fun i hi => h i (by simp_all))
      · simp

theorem readsMembers_compactMembers {m : String × Json} {ms : List (String × Json)}
    (h : ∀ n ∈ m :: ms, Reads n.2 (compactText n.2)) :
    ReadsMembers (m :: ms) (compactMembers (m :: ms)) := by
  induction ms generalizing m with
  | nil =>
      rw [compactMembers]
      exact .single .nil (h m (by simp))
  | cons n ms ih =>
      rw [compactMembers]
      · exact .cons .nil (h m (by simp)) (ih fun i hi => h i (by simp_all))
      · simp

theorem compactText_array (items : List Json) :
    compactText (.array items) = '[' :: compactItems items ++ [']'] := rfl

theorem compactText_object (members : List (String × Json)) :
    compactText (.object members) = '\x7b' :: compactMembers members ++ ['\x7d'] := rfl

theorem Plain.reads_compactText {j : Json} (h : Plain j) : Reads j (compactText j) := by
  induction h with
  | null => exact .null
  | bool b =>
      cases b with
      | false => exact .bool_false
      | true => exact .bool_true
  | nat n =>
      have htext : compactText (.nat n) = Nat.toDigits 10 n := numberText_nat n
      rw [htext]
      exact .nat n
  | string s => exact .string s
  | @array items _ ih =>
      rw [compactText_array]
      cases items with
      | nil => exact .array_nil
      | cons j js => simpa using (readsItems_compactItems ih).array .nil
  | @object members _ ih =>
      rw [compactText_object]
      cases members with
      | nil => exact .object_nil
      | cons m ms => simpa using (readsMembers_compactMembers ih).object .nil

/-- A plain document is read back from its compact text. -/
theorem parse_compact {j : Json} (h : Plain j) : parse j.compact = some j :=
  h.reads_compactText.parse

/-! ## Indented documents -/

theorem readsItems_prettyItems {level : Nat} {j : Json} {js : List Json}
    (h : ∀ i ∈ j :: js, Reads i (prettyText level i)) :
    ReadsItems (j :: js) (prettyItems level (j :: js)) := by
  induction js generalizing j with
  | nil =>
      rw [prettyItems]
      exact .single (.after_blanks (.lineBreak level) (h j (by simp)))
  | cons k js ih =>
      rw [prettyItems]
      · exact .cons (.after_blanks (.lineBreak level) (h j (by simp)))
          (ih fun i hi => h i (List.mem_cons_of_mem j hi))
      · simp

theorem readsMembers_prettyMembers {level : Nat} {m : String × Json} {ms : List (String × Json)}
    (h : ∀ n ∈ m :: ms, Reads n.2 (prettyText level n.2)) :
    ReadsMembers (m :: ms) (prettyMembers level (m :: ms)) := by
  have hvalue : ∀ n ∈ m :: ms, Reads n.2 (' ' :: prettyText level n.2) := fun n hn =>
    .after_blanks (b := [' ']) (by simp [Blanks, isBlank]) (h n hn)
  induction ms generalizing m with
  | nil =>
      rw [prettyMembers]
      exact .single (.lineBreak level) (hvalue m (by simp))
  | cons n ms ih =>
      rw [prettyMembers]
      · exact .cons (.lineBreak level) (hvalue m (by simp))
          (ih (fun i hi => h i (List.mem_cons_of_mem m hi))
            fun i hi => hvalue i (List.mem_cons_of_mem m hi))
      · simp

theorem Plain.reads_prettyText {j : Json} (h : Plain j) (level : Nat) :
    Reads j (prettyText level j) := by
  induction h generalizing level with
  | null => exact Plain.null.reads_compactText
  | bool b => exact (Plain.bool b).reads_compactText
  | nat n => exact (Plain.nat n).reads_compactText
  | string s => exact (Plain.string s).reads_compactText
  | @array items _ ih =>
      cases items with
      | nil => exact .array_nil
      | cons j js =>
          rw [prettyText]
          exact (readsItems_prettyItems fun i hi => ih i hi (level + 1)).array (.lineBreak level)
  | @object members _ ih =>
      cases members with
      | nil => exact .object_nil
      | cons m ms =>
          rw [prettyText]
          exact (readsMembers_prettyMembers fun n hn => ih n hn (level + 1)).object
            (.lineBreak level)

/-- It is also read back from the line that it is printed as. -/
theorem parse_pretty_line {j : Json} (h : Plain j) : parse (j.pretty ++ "\n") = some j := by
  have hread := (h.reads_prettyText 0).parse_append (b := ['\n']) (by simp [Blanks, isBlank])
  rw [String.ofList_append] at hread
  exact hread

end TwoStep.Json
