import Mathlib.Tactic.SplitIfs
import TwoStep.Toml.Scalar

/-!
# Strings are read back as they were written

The reader has four functions for the four styles of a string, and the writer
picks a style by what stands in the text.

* `Spelling` lists the ways in which a character stands in a basic string, and
  the readers of both basic styles take each of them in one step
  (`Spelling.basicBody`, `Spelling.longBasicBody`).
* The short styles end at the first quote that stands for itself, and none is
  written inside (`basicBody_escapedText`, `literalBody_append`).
* The triple styles keep up to two quotes in a row, and there the reader looks
  ahead: quotes at the very end of a text make up one run with the closing ones.
  `Spelled` says what both triple styles write, and `LongForm.reads` that every
  reader that closes at three quotes gets the text back from it.

The main statement is `stringPart_quoted`: whatever the text, the reader gets it
back, and stops right behind it if what follows is no quote.
-/

namespace TwoStep.Toml

@[simp] theorem push_some (c : Char) (cs rest : List Char) :
    push c (some (cs, rest)) = some (c :: cs, rest) := rfl

/-! ## One character of a basic string -/

/-- How a character stands in a basic string: by the letter or the code point of
an escape, or by itself. -/
inductive Spelling (long : Bool) (c : Char) : List Char → Prop
  | letter {l : Char} (names : escapeOf? l = some c) : Spelling long c ['\\', l]
  | codePoint {a b d e : Char} (names : ofCodePoint? [a, b, d, e] = some c) :
      Spelling long c ['\\', 'u', a, b, d, e]
  | plain (line : isLineChar c = true ∨ long = true ∧ c = '\n') (noQuote : c ≠ '"')
      (noBackslash : c ≠ '\\') : Spelling long c [c]

/-- The code point of an ASCII character is written with four digits and read
from them. -/
theorem unicodeEscape_ofNat : ∀ n < 0x80,
    unicodeEscape (Char.ofNat n) = ['\\', 'u', '0', '0', (Nat.digitChar (n / 16)).toUpper,
      (Nat.digitChar (n % 16)).toUpper] ∧
    ofCodePoint? ['0', '0', (Nat.digitChar (n / 16)).toUpper, (Nat.digitChar (n % 16)).toUpper] =
      some (Char.ofNat n) := by
  decide +kernel

theorem spelling_of_escape? {long : Bool} {c : Char} {e : List Char}
    (h : escape? long c = some e) : Spelling long c e := by
  simp only [escape?, beq_iff_eq] at h
  split_ifs at h <;> cases h <;> subst_vars <;> try exact .letter rfl
  rename_i hcontrol
  have hlt : c.toNat < 0x80 := by
    simp only [Bool.or_eq_true, decide_eq_true_eq, beq_iff_eq] at hcontrol
    omega
  obtain ⟨hwritten, hread⟩ := unicodeEscape_ofNat c.toNat hlt
  rw [Char.ofNat_toNat] at hwritten hread
  rw [hwritten]
  exact .codePoint hread

theorem spelling_of_escape?_eq_none {long : Bool} {c : Char} (hq : c ≠ '"')
    (h : escape? long c = none) : Spelling long c [c] := by
  simp only [escape?, beq_iff_eq] at h
  split_ifs at h with h₁ h₂ h₃ h₄
  · exact .plain (.inr ⟨h₄, h₃⟩) hq (by simp [h₃])
  · rename_i hb hcontrol
    exact .plain (.inl (by simp_all [isLineChar])) hq hb

/-- One step of the writer: a quote that stands for itself, or the spelling of a
character, behind which the count of quotes starts again. -/
theorem escapedText_cons (allowed : Nat) (long : Bool) (n : Nat) (c : Char) (cs : List Char) :
    (c = '"' ∧ n < allowed ∧ escapedText allowed long n (c :: cs) =
      '"' :: escapedText allowed long (n + 1) cs) ∨
    ∃ e, Spelling long c e ∧
      escapedText allowed long n (c :: cs) = e ++ escapedText allowed long 0 cs := by
  by_cases hq : c = '"'
  · subst hq
    by_cases hn : n < allowed
    · exact .inl ⟨rfl, hn, by simp [escapedText, hn]⟩
    · exact .inr ⟨['\\', '"'], .letter rfl, by simp [escapedText, hn]⟩
  · right
    cases he : escape? long c with
    | none => exact ⟨[c], spelling_of_escape?_eq_none hq he, by simp [escapedText, hq, he]⟩
    | some e => exact ⟨e, spelling_of_escape? he, by simp [escapedText, hq, he]⟩

/-- A backslash in front of the letter of an escape neither starts a code point
nor joins lines. -/
theorem letter_of_escapeOf? {l c : Char} (h : escapeOf? l = some c) :
    l ≠ 'u' ∧ l ≠ 'U' ∧ ∀ rest, joinsLines (l :: rest) = false := by
  have hne : ∀ x, escapeOf? x = none → l ≠ x := by
    rintro x hx rfl
    rw [hx] at h
    contradiction
  refine ⟨hne _ rfl, hne _ rfl, fun rest => ?_⟩
  have hspace : isSpace l = false := by
    simp [isSpace, hne ' ' rfl, hne '\t' rfl]
  have hn := hne '\n' rfl
  have hr := hne '\r' rfl
  simp only [joinsLines, skipSpaces, List.dropWhile_cons, hspace]
  simp [lineEnd?, hn, hr]

namespace Spelling

variable {long : Bool} {c : Char} {e : List Char}

/-- No spelling starts with a quote, nor with a line end unless it is one. -/
theorem head (h : Spelling long c e) :
    ∃ x t, e = x :: t ∧ x ≠ '"' ∧ x ≠ '\r' ∧ (x = '\n' → c = '\n') := by
  cases h with
  | letter => exact ⟨_, _, rfl, by simp, by simp, by simp⟩
  | codePoint => exact ⟨_, _, rfl, by simp, by simp, by simp⟩
  | plain line noQuote =>
      refine ⟨_, _, rfl, noQuote, ?_, id⟩
      rintro rfl
      simp [isLineChar] at line

theorem basicBody (h : Spelling false c e) (rest : List Char) :
    basicBody (e ++ rest) = push c (basicBody rest) := by
  cases h with
  | letter names =>
      obtain ⟨hu, hU, -⟩ := letter_of_escapeOf? names
      simp [Toml.basicBody, hu, hU, names, push?]
  | codePoint names => simp [Toml.basicBody, names, push?]
  | plain line noQuote noBackslash =>
      have hline : isLineChar c = true := by simpa using line
      simp [Toml.basicBody, noBackslash, hline]

theorem longBasicBody (h : Spelling true c e) (rest : List Char) :
    longBasicBody false (e ++ rest) = push c (longBasicBody false rest) := by
  cases h with
  | letter names =>
      obtain ⟨hu, hU, hjoins⟩ := letter_of_escapeOf? names
      simp [Toml.longBasicBody, hu, hU, hjoins, names, push?]
  | codePoint names => simp [Toml.longBasicBody, names, push?]
  | plain line noQuote noBackslash =>
      have hr : c ≠ '\r' := by
        rintro rfl
        exact absurd line (by decide)
      have hline : isLineChar c = true ∨ c = '\n' := by simpa using line
      simp [Toml.longBasicBody, noQuote, noBackslash, hr, hline]

end Spelling

/-! ## The short styles -/

theorem basicBody_escapedText (n : Nat) (cs rest : List Char) :
    basicBody (escapedText 0 false n cs ++ '"' :: rest) = some (cs, rest) := by
  induction cs generalizing n with
  | nil => simp [escapedText, basicBody]
  | cons c cs ih =>
      obtain ⟨-, hn, -⟩ | ⟨e, he, hwritten⟩ := escapedText_cons 0 false n c cs
      · exact absurd hn (Nat.not_lt_zero n)
      · rw [hwritten, List.append_assoc, he.basicBody, ih, push_some]

theorem literalBody_append {cs : List Char} (hline : ∀ c ∈ cs, isLineChar c = true)
    (hquote : '\'' ∉ cs) (rest : List Char) :
    literalBody (cs ++ '\'' :: rest) = some (cs, rest) := by
  induction cs with
  | nil => simp [literalBody]
  | cons c cs ih =>
      obtain ⟨hc, hcs⟩ := List.forall_mem_cons.mp hline
      have hne : c ≠ '\'' := (List.ne_of_not_mem_cons hquote).symm
      rw [List.cons_append, literalBody.eq_3 c _ hne, if_pos hc,
        ih hcs (List.not_mem_of_not_mem_cons hquote), push_some]

/-! ## Runs of quotes -/

theorem le_longestRun (c : Char) (current longest : Nat) (cs : List Char) :
    longest ≤ longestRun c current longest cs := by
  induction cs generalizing current longest with
  | nil => exact Nat.le_refl longest
  | cons d cs ih =>
      rw [longestRun]
      split
      · exact Nat.le_trans (Nat.le_max_left _ _) (ih _ _)
      · exact ih _ _

theorem succ_le_longestRun_cons (c : Char) (current longest : Nat) (cs : List Char) :
    current + 1 ≤ longestRun c current longest (c :: cs) := by
  rw [longestRun, if_pos (beq_self_eq_true c)]
  exact Nat.le_trans (Nat.le_max_right _ _) (le_longestRun c _ _ cs)

theorem not_mem_of_longestRun_eq_zero {c : Char} {cs : List Char} {current longest : Nat}
    (h : longestRun c current longest cs = 0) : c ∉ cs := by
  induction cs generalizing current longest with
  | nil => exact List.not_mem_nil
  | cons d cs ih =>
      by_cases hd : d = c
      · subst hd
        have := succ_le_longestRun_cons d current longest cs
        omega
      · rw [longestRun, if_neg (by simpa using hd)] at h
        simp [Ne.symm hd, ih h]

/-! ## The triple styles -/

/-- A reader of a triple style: it closes at three quotes, and keeps a quote that
is not followed by two more. -/
structure LongForm (quote : Char) (body : List Char → Option (List Char × List Char)) : Prop where
  closes (rest : List Char) : body (quote :: quote :: quote :: rest) = some (closing quote rest)
  keeps (rest : List Char) (h : ¬[quote, quote] <+: rest) :
    body (quote :: rest) = push quote (body rest)

/-- A text and what stands for it inside triple quotes, behind `n` quotes that
stand for themselves: there are at most two of them in a row, and the reader takes
every other character in one step. -/
inductive Spelled (quote : Char) (body : List Char → Option (List Char × List Char)) :
    Nat → List Char → List Char → Prop
  | nil {n : Nat} : Spelled quote body n [] []
  | quote {n : Nat} {cs w : List Char} (few : n < 2) (more : Spelled quote body (n + 1) cs w) :
      Spelled quote body n (quote :: cs) (quote :: w)
  | other {n : Nat} {c x : Char} {t cs w : List Char} (noQuote : x ≠ quote)
      (reads : ∀ rest, body (x :: t ++ rest) = push c (body rest))
      (more : Spelled quote body 0 cs w) : Spelled quote body n (c :: cs) (x :: t ++ w)

section LongForm

variable {quote : Char} {body : List Char → Option (List Char × List Char)} {n : Nat}
  {cs w rest : List Char}

theorem closing_of_head? (h : rest.head? ≠ some quote) : closing quote rest = ([], rest) := by
  match rest with
  | [] => rfl
  | [a] => simp_all [closing]
  | a :: b :: rest => simp_all [closing]

theorem closing_quote (h : rest.head? ≠ some quote) :
    closing quote (quote :: rest) = ([quote], rest) := by
  cases rest with
  | nil => simp [closing]
  | cons a rest => simp_all [closing]

/-- Behind a quote, two more quotes come up only where the text ends: the quotes
left of it and the closing ones make up one run. -/
theorem Spelled.at_end (h : Spelled quote body (n + 1) cs w)
    (hquotes : [quote, quote] <+: w ++ quote :: quote :: quote :: rest) :
    cs = [] ∧ w = [] ∨ cs = [quote] ∧ w = [quote] := by
  cases h with
  | nil => exact .inl ⟨rfl, rfl⟩
  | other noQuote =>
      rw [List.append_assoc, List.cons_append, List.cons_prefix_cons] at hquotes
      exact absurd hquotes.1.symm noQuote
  | quote few more =>
      cases more with
      | nil => exact .inr ⟨rfl, rfl⟩
      | quote few' => omega
      | other noQuote =>
          simp only [List.cons_append, List.cons_prefix_cons] at hquotes
          exact absurd hquotes.2.1.symm noQuote

/-- A text is read back from between triple quotes. -/
theorem LongForm.reads (hbody : LongForm quote body) (h : Spelled quote body n cs w)
    (hrest : rest.head? ≠ some quote) :
    body (w ++ quote :: quote :: quote :: rest) = some (cs, rest) := by
  induction h with
  | nil => rw [List.nil_append, hbody.closes, closing_of_head? hrest]
  | other noQuote reads more ih => rw [List.append_assoc, reads, ih, push_some]
  | @quote n cs w few more ih =>
      rw [List.cons_append]
      by_cases hquotes : [quote, quote] <+: w ++ quote :: quote :: quote :: rest
      · -- The reader closes here, and finds the last quotes of the text behind the closing ones.
        obtain ⟨rfl, rfl⟩ | ⟨rfl, rfl⟩ := more.at_end hquotes
        · rw [List.nil_append, hbody.closes, closing_quote hrest]
        · rw [List.singleton_append, hbody.closes]
          simp [closing]
      · rw [hbody.keeps _ hquotes, ih, push_some]

end LongForm

theorem ne_cons_cons {quote : Char} {rest : List Char} (h : ¬[quote, quote] <+: rest)
    (t : List Char) : rest ≠ quote :: quote :: t := by
  rintro rfl
  exact h ⟨t, rfl⟩

theorem longForm_longBasicBody : LongForm '"' (longBasicBody false) where
  closes rest := by simp [longBasicBody]
  keeps rest h := by simp [longBasicBody, ne_cons_cons h, isLineChar]

theorem longForm_longLiteralBody : LongForm '\'' longLiteralBody where
  closes rest := by simp [longLiteralBody]
  keeps rest h := by simp [longLiteralBody, ne_cons_cons h, isLineChar]

theorem spelled_escapedText (n : Nat) (cs : List Char) :
    Spelled '"' (longBasicBody false) n cs (escapedText 2 true n cs) := by
  induction cs generalizing n with
  | nil => exact .nil
  | cons c cs ih =>
      obtain ⟨rfl, hn, hwritten⟩ | ⟨e, he, hwritten⟩ := escapedText_cons 2 true n c cs
      · rw [hwritten]
        exact .quote hn (ih _)
      · obtain ⟨x, t, rfl, hx, -⟩ := he.head
        rw [hwritten]
        exact .other hx he.longBasicBody (ih 0)

theorem spelled_literal {cs : List Char} (hline : ∀ c ∈ cs, isLineChar c = true ∨ c = '\n')
    {n longest : Nat} (hruns : longestRun '\'' n longest cs ≤ 2) :
    Spelled '\'' longLiteralBody n cs cs := by
  induction cs generalizing n longest with
  | nil => exact .nil
  | cons c cs ih =>
      obtain ⟨hc, hcs⟩ := List.forall_mem_cons.mp hline
      by_cases hq : c = '\''
      · subst hq
        have hn : n < 2 := Nat.lt_of_lt_of_le (succ_le_longestRun_cons _ _ _ _) hruns
        exact .quote hn (ih hcs hruns)
      · have hreads : ∀ rest, longLiteralBody ([c] ++ rest) = push c (longLiteralBody rest) := by
          intro rest
          have hr : c ≠ '\r' := by
            rintro rfl
            exact absurd hc (by decide)
          simp [longLiteralBody, hq, hr, hc]
        rw [longestRun, if_neg (by simpa using hq)] at hruns
        exact .other hq hreads (ih hcs hruns)

/-! ## Every style -/

theorem lineEnd?_eq_none {cs : List Char} (hn : cs.head? ≠ some '\n') (hr : cs.head? ≠ some '\r') :
    lineEnd? cs = none := by
  cases cs with
  | nil => rfl
  | cons c cs =>
      have hn : c ≠ '\n' := by simpa using hn
      have hr : c ≠ '\r' := by simpa using hr
      simp [lineEnd?, hn, hr]

/-- Behind an opening, a line end is dropped if the text has line ends; otherwise
none is there. -/
theorem skipFirstLineEnd_start {lines : Bool} {w : List Char}
    (h : lines = false → w.head? ≠ some '\n' ∧ w.head? ≠ some '\r') :
    skipFirstLineEnd ((if lines then ['\n'] else []) ++ w) = w := by
  cases lines with
  | true => rfl
  | false =>
      obtain ⟨hn, hr⟩ := h rfl
      simp [skipFirstLineEnd, lineEnd?_eq_none hn hr]

theorem head?_escapedText {allowed n : Nat} {long : Bool} {cs : List Char} (rest : List Char)
    (hn : '\n' ∉ cs) : (escapedText allowed long n cs ++ '"' :: rest).head? ≠ some '\n' ∧
      (escapedText allowed long n cs ++ '"' :: rest).head? ≠ some '\r' := by
  cases cs with
  | nil => simp [escapedText]
  | cons c cs =>
      obtain ⟨-, -, hwritten⟩ | ⟨e, he, hwritten⟩ := escapedText_cons allowed long n c cs
      · simp [hwritten]
      · obtain ⟨x, t, rfl, -, hxr, hxn⟩ := he.head
        have hc : c ≠ '\n' := (List.ne_of_not_mem_cons hn).symm
        rw [hwritten]
        simpa [hxr] using mt hxn hc

section StringPart

variable {cs rest : List Char}

theorem stringPart_basic (cs : List Char) (hrest : rest.head? ≠ some '"') :
    stringPart ('"' :: escapedText 0 false 0 cs ++ '"' :: rest) =
      some (String.ofList cs, rest) := by
  have hshort : ∀ t, escapedText 0 false 0 cs ++ '"' :: rest ≠ '"' :: '"' :: t := by
    intro t ht
    cases cs with
    | nil =>
        obtain rfl : rest = '"' :: t := by simpa [escapedText] using ht
        exact hrest rfl
    | cons c cs =>
        obtain ⟨-, hn, -⟩ | ⟨e, he, hwritten⟩ := escapedText_cons 0 false 0 c cs
        · exact absurd hn (Nat.lt_irrefl 0)
        · obtain ⟨x, t', rfl, hx, -⟩ := he.head
          simp [hwritten, hx] at ht
  simp [stringPart, basicBody_escapedText]

theorem stringPart_literal (hline : ∀ c ∈ cs, isLineChar c = true) (hquote : '\'' ∉ cs)
    (hrest : rest.head? ≠ some '\'') :
    stringPart ('\'' :: cs ++ '\'' :: rest) = some (String.ofList cs, rest) := by
  have hshort : ∀ t, cs ++ '\'' :: rest ≠ '\'' :: '\'' :: t := by
    intro t ht
    cases cs with
    | nil =>
        obtain rfl : rest = '\'' :: t := by simpa using ht
        exact hrest rfl
    | cons c cs =>
        exact List.ne_of_not_mem_cons hquote (List.cons.inj ht).1.symm
  simp [stringPart, literalBody_append hline hquote]

theorem stringPart_longBasic (cs : List Char) (hrest : rest.head? ≠ some '"') :
    stringPart (['"', '"', '"'] ++ (if cs.contains '\n' then ['\n'] else []) ++
      escapedText 2 true 0 cs ++ '"' :: '"' :: '"' :: rest) = some (String.ofList cs, rest) := by
  have hstart : skipFirstLineEnd ((if cs.contains '\n' then ['\n'] else []) ++
      (escapedText 2 true 0 cs ++ '"' :: '"' :: '"' :: rest)) =
      escapedText 2 true 0 cs ++ '"' :: '"' :: '"' :: rest :=
    skipFirstLineEnd_start fun h => head?_escapedText _ (by simpa using h)
  have hread := longForm_longBasicBody.reads (spelled_escapedText 0 cs) hrest
  simp only [List.append_assoc, List.cons_append, List.nil_append, stringPart]
  rw [hstart, hread]
  rfl

theorem stringPart_longLiteral (hline : ∀ c ∈ cs, isLineChar c = true ∨ c = '\n')
    (hruns : longestRun '\'' 0 0 cs ≤ 2) (hrest : rest.head? ≠ some '\'') :
    stringPart (['\'', '\'', '\''] ++ (if cs.contains '\n' then ['\n'] else []) ++
      cs ++ '\'' :: '\'' :: '\'' :: rest) = some (String.ofList cs, rest) := by
  have hstart : skipFirstLineEnd ((if cs.contains '\n' then ['\n'] else []) ++
      (cs ++ '\'' :: '\'' :: '\'' :: rest)) = cs ++ '\'' :: '\'' :: '\'' :: rest := by
    refine skipFirstLineEnd_start fun h => ?_
    cases cs with
    | nil => simp
    | cons c cs =>
        have hn : c ≠ '\n' := by
          rintro rfl
          simp at h
        have hr : c ≠ '\r' := by
          rintro rfl
          exact absurd (hline _ List.mem_cons_self) (by decide)
        simp [hn, hr]
  have hread := longForm_longLiteralBody.reads (spelled_literal hline hruns) hrest
  simp only [List.append_assoc, List.cons_append, List.nil_append, stringPart]
  rw [hstart, hread]
  rfl

end StringPart

theorem isLineChar_of_needsEscape {c : Char} (h : needsEscape c = false) :
    isLineChar c = true ∨ c = '\n' := by
  by_cases hn : c = '\n'
  · exact .inr hn
  · by_cases ht : c = '\t'
    · exact .inl (by simp [isLineChar, ht])
    · simp_all [needsEscape, isLineChar]

/-- Without escapes a literal style is taken only for a text that has no character
it cannot hold. -/
theorem literal_of_styleOf {cs : List Char} (h : styleOf cs = .literal) :
    (∀ c ∈ cs, isLineChar c = true) ∧ '\'' ∉ cs := by
  simp only [styleOf] at h
  split_ifs at h with _ hliteral
  simp only [Bool.and_eq_true, Bool.not_eq_true', List.any_eq_false, beq_iff_eq] at hliteral
  obtain ⟨⟨hescapes, hsingles⟩, hlines⟩ := hliteral
  refine ⟨fun c hc => ?_, not_mem_of_longestRun_eq_zero hsingles⟩
  obtain hline | rfl := isLineChar_of_needsEscape (by simpa using hescapes c hc)
  · exact hline
  · exact absurd hc (by simpa using hlines)

theorem longLiteral_of_styleOf {cs : List Char} (h : styleOf cs = .longLiteral) :
    (∀ c ∈ cs, isLineChar c = true ∨ c = '\n') ∧ longestRun '\'' 0 0 cs ≤ 2 := by
  simp only [styleOf] at h
  split_ifs at h with _ _ _ hliteral
  simp only [Bool.and_eq_true, Bool.not_eq_true', List.any_eq_false, decide_eq_true_eq] at hliteral
  exact ⟨fun c hc => isLineChar_of_needsEscape (by simpa using hliteral.1 c hc), hliteral.2⟩

/-- A text is read back from its written form, whatever stands behind it but a
quote. -/
theorem stringPart_quoted (s : String) {rest : List Char} (hdouble : rest.head? ≠ some '"')
    (hsingle : rest.head? ≠ some '\'') :
    stringPart ((quoted s).toList ++ rest) = some (s, rest) := by
  have hs : String.ofList s.toList = s := String.ofList_toList
  simp only [quoted, String.toList_ofList]
  cases hstyle : styleOf s.toList with
  | basic => simpa [hs] using stringPart_basic s.toList hdouble
  | literal =>
      obtain ⟨hline, hquote⟩ := literal_of_styleOf hstyle
      simpa [hs] using stringPart_literal hline hquote hsingle
  | longBasic => simpa [hs] using stringPart_longBasic s.toList hdouble
  | longLiteral =>
      obtain ⟨hline, hruns⟩ := longLiteral_of_styleOf hstyle
      simpa [hs] using stringPart_longLiteral hline hruns hsingle

end TwoStep.Toml
