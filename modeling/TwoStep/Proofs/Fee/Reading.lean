import Mathlib.Algebra.Group.Nat.Defs
import Mathlib.Data.List.DropRight
import TwoStep.Proofs.Fee.RoundTrip

/-!
# What a fee text is read as

Reading cuts a text into an amount and a unit, checks how fine the amount is,
and then works on bytes: it drops the point, cuts what is behind the last
decimal place, skips separators and scales what is left.  This module says what
that comes to on characters, for every text, whatever it holds.

An amount has a `wholePart` and a `fractionPart`, and `numberOf` reads all its
digits as one number.  Without the zeros at its end the fraction is no longer
than the unit allows, so only zeros are cut (`kept_eq`), and the number that
comes out is the one with which the cut and the scaling cancel
(`scale_eq_ok_iff`).  Both count the bytes of the fraction, its separators
included.

`readAmount_eq_ok_iff` puts this together with the unit: an amount is read iff
the text is `Written` as the grammar wants it, and the result is fixed by one
equation.  `read_eq_ok_iff` and the lemmas beside it say the same of fees and of
each error.
-/

namespace TwoStep.Fee

/-! ## Digits and separators -/

/-- A text without its separators. -/
def unseparated (cs : List Char) : List Char :=
  cs.filter (· ≠ '_')

/-- The number that the digits of a text spell, separators left out. -/
def numberOf (cs : List Char) : Nat :=
  Nat.ofDigitChars 10 (unseparated cs) 0

theorem unseparated_eq_self {cs : List Char} (h : '_' ∉ cs) : unseparated cs = cs :=
  List.filter_eq_self.mpr fun _ hc => decide_eq_true fun heq => h (heq ▸ hc)

/-- The characters of an amount, the point apart. -/
def IsFigure (c : Char) : Prop :=
  c.isDigit ∨ c = '_'

theorem IsFigure.ascii {c : Char} (h : IsFigure c) : c.toNat < 128 := by
  obtain h | rfl := h
  · have := Text.toNat_of_isDigit h
    omega
  · decide

theorem readDigits_separator (acc : Nat) (cs : List Char) :
    readDigits acc (Text.bytes ('_' :: cs)) = readDigits acc (Text.bytes cs) := rfl

/-- Any other character stops the reading at its first byte. -/
theorem readDigits_other (acc : Nat) {c : Char} (hc : ¬IsFigure c) (cs : List Char) :
    ∃ b, readDigits acc (Text.bytes (c :: cs)) = .error (.badDigit (Text.ofByte b)) := by
  obtain ⟨hdigit, hseparator⟩ := not_or.mp hc
  rw [Text.isDigit_iff] at hdigit
  have hcode : c.toNat ≠ 95 := fun h => hseparator (Char.toNat_inj.mp h)
  have hstop {b : UInt8} {rest : List UInt8} (h95 : b.toNat ≠ 95)
      (hb : ¬(48 ≤ b.toNat ∧ b.toNat ≤ 57)) :
      readDigits acc (b :: rest) = .error (.badDigit (Text.ofByte b)) := by
    have hskip : b ≠ 95 := fun h => h95 (congrArg UInt8.toNat h)
    rw [readDigits, if_neg hskip, if_neg]
    rwa [UInt8.le_iff_toNat_le, UInt8.le_iff_toNat_le]
  obtain ⟨hc, hbytes⟩ | ⟨-, b, rest, hbytes, hb⟩ := Text.bytes_cons_cases c cs
  · have hbyte : (UInt8.ofNat c.toNat).toNat = c.toNat := by
      rw [UInt8.toNat_ofNat']
      omega
    rw [hbytes]
    exact ⟨_, hstop (by rwa [hbyte]) (by rwa [hbyte])⟩
  · rw [hbytes]
    exact ⟨_, hstop (by omega) (by omega)⟩

/-- Figures are read as the number their digits spell, if it is within the
bound, and nothing else is read. -/
theorem readDigits_eq_ok_iff (cs : List Char) {acc n : Nat} (hacc : acc < readingBound) :
    readDigits acc (Text.bytes cs) = .ok n ↔
      (∀ c ∈ cs, IsFigure c) ∧ n = Nat.ofDigitChars 10 (unseparated cs) acc ∧ n < readingBound := by
  induction cs generalizing acc with
  | nil =>
      simp only [Text.bytes, List.flatMap_nil, readDigits, Except.ok.injEq, unseparated,
        List.filter_nil, Nat.ofDigitChars_nil, List.not_mem_nil, false_implies, implies_true,
        true_and]
      exact ⟨fun h => ⟨h.symm, h ▸ hacc⟩, fun h => h.1.symm⟩
  | cons c cs ih =>
      rw [List.forall_mem_cons]
      by_cases hfigure : IsFigure c
      case neg =>
        obtain ⟨b, hb⟩ := readDigits_other acc hfigure cs
        simp [hb, hfigure]
      simp only [hfigure, true_and]
      obtain hdigit | rfl := hfigure
      case inr =>
        rw [readDigits_separator, ih hacc]
        rfl
      have hkept : unseparated (c :: cs) = c :: unseparated cs := by
        refine List.filter_cons_of_pos (decide_eq_true ?_)
        rintro rfl
        exact absurd hdigit (by decide)
      rw [readDigits_digit acc hdigit, hkept, Nat.ofDigitChars_cons]
      change _ ↔ _ ∧ n = Nat.ofDigitChars 10 _ (10 * acc + (c.toNat - 48)) ∧ _
      split
      case isTrue hnext => exact ih hnext
      case isFalse hnext =>
        have hgrows := le_ofDigitChars (unseparated cs) (10 * acc + (c.toNat - 48))
        refine iff_of_false (by simp) ?_
        rintro ⟨-, hn, hbound⟩
        omega

theorem readDigits_zero_eq_ok_iff (cs : List Char) {n : Nat} :
    readDigits 0 (Text.bytes cs) = .ok n ↔
      (∀ c ∈ cs, IsFigure c) ∧ n = numberOf cs ∧ n < readingBound :=
  readDigits_eq_ok_iff cs (by decide)

theorem numberOf_append_zeros (cs : List Char) (k : Nat) :
    numberOf (cs ++ List.replicate k '0') = numberOf cs * 10 ^ k := by
  have hzeros : unseparated (List.replicate k '0') = List.replicate k '0' := by
    simp [unseparated]
  rw [numberOf, unseparated, List.filter_append, Nat.ofDigitChars_append]
  change Nat.ofDigitChars 10 (unseparated (List.replicate k '0')) (numberOf cs) = _
  rw [hzeros, Nat.ofDigitChars_replicate_zero, Nat.mul_comm]

/-! ## The two parts of an amount -/

/-- What stands in front of the first point. -/
def wholePart (amount : List Char) : List Char :=
  amount.takeWhile (· ≠ '.')

/-- What stands behind the first point. -/
def fractionPart (amount : List Char) : List Char :=
  (amount.dropWhile (· ≠ '.')).tail

theorem withoutPoint_eq (amount : List Char) :
    withoutPoint amount = (Text.bytes (wholePart amount ++ fractionPart amount),
      Text.byteLength (fractionPart amount)) := by
  rw [withoutPoint, splitPoint, wholePart, fractionPart]
  cases hdrop : amount.dropWhile (· ≠ '.') with
  | nil =>
      have hwhole := List.takeWhile_append_dropWhile (p := (· ≠ '.')) (l := amount)
      rw [hdrop, List.append_nil] at hwhole
      simp only [hwhole, List.tail_nil, List.append_nil]
      rfl
  | cons p fraction => simp only [List.tail_cons, Text.bytes_append, Text.length_bytes]

theorem isTooFine_eq_false_iff (decimals : Nat) (amount : List Char) :
    isTooFine decimals amount = false ↔
      Text.byteLength ((fractionPart amount).rdropWhile (· = '0')) ≤ decimals := by
  rw [isTooFine, splitPoint, fractionPart]
  cases hdrop : amount.dropWhile (· ≠ '.') with
  | nil => simp [Text.byteLength]
  | cons p fraction =>
      simp only [decide_eq_false_iff_not, Nat.not_lt, List.tail_cons]
      rfl

/-- Figures are ASCII, so of a fraction made of them the characters count. -/
theorem isTooFine_eq_false_iff_length {decimals : Nat} {amount : List Char}
    (h : ∀ c ∈ wholePart amount ++ fractionPart amount, IsFigure c) :
    isTooFine decimals amount = false ↔
      ((fractionPart amount).rdropWhile (· = '0')).length ≤ decimals := by
  rw [isTooFine_eq_false_iff, Text.byteLength_of_ascii]
  intro c hc
  have hfraction : c ∈ fractionPart amount := (List.rdropWhile_prefix _ _).mem hc
  exact (h c (List.mem_append_right _ hfraction)).ascii

/-- A point is written once, between the two parts. -/
theorem eq_parts (amount : List Char) :
    amount = wholePart amount ++ fractionPart amount ∧ '.' ∉ amount ∨
      amount = wholePart amount ++ '.' :: fractionPart amount := by
  have happend := List.takeWhile_append_dropWhile (p := (· ≠ '.')) (l := amount)
  rw [wholePart, fractionPart]
  cases hdrop : amount.dropWhile (· ≠ '.') with
  | nil =>
      rw [hdrop] at happend
      refine .inl ⟨happend.symm, fun hmem => ?_⟩
      simpa using List.dropWhile_eq_nil_iff.mp hdrop '.' hmem
  | cons p fraction =>
      have hpoint := List.head?_dropWhile_not (fun c : Char => decide (c ≠ '.')) amount
      rw [hdrop] at hpoint
      obtain rfl : p = '.' := by simpa using hpoint
      rw [hdrop] at happend
      exact .inr happend.symm

theorem unfigured_point : ¬IsFigure '.' := by
  rintro (h | h)
  · exact absurd h (by decide)
  · exact absurd h (by decide)

/-- The two parts hold figures only iff the amount is made of figures and at
most one point. -/
theorem forall_figure_parts_iff (amount : List Char) :
    (∀ c ∈ wholePart amount ++ fractionPart amount, IsFigure c) ↔
      (∀ c ∈ amount, IsFigure c ∨ c = '.') ∧ amount.count '.' ≤ 1 := by
  constructor
  · intro h
    have hnone : (wholePart amount ++ fractionPart amount).count '.' = 0 :=
      List.count_eq_zero.mpr fun hmem => unfigured_point (h '.' hmem)
    rw [List.count_append] at hnone
    obtain ⟨heq, hpoint⟩ | heq := eq_parts amount
    · refine ⟨fun c hc => .inl (h c (heq ▸ hc)), ?_⟩
      rw [List.count_eq_zero.mpr hpoint]
      exact Nat.zero_le 1
    · rw [heq, List.count_append, List.count_cons_self]
      refine ⟨fun c hc => ?_, by omega⟩
      simp only [List.mem_append, List.mem_cons] at hc h
      obtain hc | rfl | hc := hc
      · exact .inl (h c (.inl hc))
      · exact .inr rfl
      · exact .inl (h c (.inr hc))
  · rintro ⟨hchars, hcount⟩ c hc
    obtain ⟨heq, hpoint⟩ | heq := eq_parts amount
    · obtain hfigure | rfl := hchars c (heq ▸ hc)
      · exact hfigure
      · exact absurd (heq ▸ hc) hpoint
    · have hmem : c ∈ amount := by
        rw [heq]
        simp only [List.mem_append, List.mem_cons] at hc ⊢
        tauto
      obtain hfigure | rfl := hchars c hmem
      · exact hfigure
      · have hsecond : 0 < (wholePart amount ++ fractionPart amount).count '.' :=
          List.count_pos_iff.mpr hc
        rw [heq, List.count_append, List.count_cons_self] at hcount
        rw [List.count_append] at hsecond
        omega

/-! ## Cutting and scaling -/

/-- The zeros at the end of a fraction. -/
theorem exists_append_zeros (cs : List Char) :
    ∃ k, cs = cs.rdropWhile (· = '0') ++ List.replicate k '0' := by
  have hzeros : cs.rtakeWhile (· = '0') =
      List.replicate (cs.rtakeWhile (· = '0')).length '0' :=
    List.eq_replicate_iff.mpr ⟨rfl, fun c hc => by simpa using List.mem_rtakeWhile_imp hc⟩
  refine ⟨(cs.rtakeWhile (· = '0')).length, ?_⟩
  rw [← hzeros, List.rdropWhile_append_rtakeWhile]

theorem bytes_zeros (k : Nat) : Text.bytes (List.replicate k '0') = List.replicate k 48 := by
  induction k with
  | zero => rfl
  | succ k ih => rw [List.replicate_succ, List.replicate_succ, ← ih]; rfl

/-- A text with zeros at its end is cut within the zeros. -/
theorem bytes_append_zeros (cs : List Char) {k n : Nat} (hn : n ≤ k) :
    let bs := Text.bytes (cs ++ List.replicate k '0')
    bs.take (bs.length - n) = Text.bytes (cs ++ List.replicate (k - n) '0') ∧
      bs.drop (bs.length - n) = List.replicate n 48 := by
  intro bs
  have hsplit : bs = Text.bytes (cs ++ List.replicate (k - n) '0') ++ List.replicate n 48 := by
    have hzeros : List.replicate k '0' = List.replicate (k - n) '0' ++ List.replicate n '0' := by
      rw [List.replicate_append_replicate, Nat.sub_add_cancel hn]
    rw [← bytes_zeros, ← Text.bytes_append, List.append_assoc, ← hzeros]
  have hlength : bs.length - n = (Text.bytes (cs ++ List.replicate (k - n) '0')).length := by
    rw [hsplit, List.length_append, List.length_replicate, Nat.add_sub_cancel]
  rw [hlength, hsplit]
  exact ⟨List.take_left, List.drop_left⟩

section Scaling

variable {decimals : Nat} {amount : List Char}

/-- Of an amount that is not too fine only zeros are cut. -/
theorem kept_eq (hfine : isTooFine decimals amount = false) :
    ∃ k, fractionPart amount = (fractionPart amount).rdropWhile (· = '0') ++
        List.replicate k '0' ∧
      kept decimals amount = Text.bytes (wholePart amount ++
        (fractionPart amount).rdropWhile (· = '0') ++
        List.replicate (k - (Text.byteLength (fractionPart amount) - decimals)) '0') ∧
      cut decimals amount =
        List.replicate (Text.byteLength (fractionPart amount) - decimals) 48 := by
  rw [isTooFine_eq_false_iff] at hfine
  obtain ⟨k, hk⟩ := exists_append_zeros (fractionPart amount)
  refine ⟨k, hk, ?_⟩
  have hplaces : Text.byteLength (fractionPart amount) =
      Text.byteLength ((fractionPart amount).rdropWhile (· = '0')) + k := by
    conv_lhs => rw [hk]
    rw [← Text.length_bytes, Text.bytes_append, List.length_append, Text.length_bytes,
      bytes_zeros, List.length_replicate]
  have hcut : Text.byteLength (fractionPart amount) - decimals ≤ k := by omega
  have hsplit := bytes_append_zeros
    (wholePart amount ++ (fractionPart amount).rdropWhile (· = '0')) hcut
  rw [List.append_assoc, ← hk] at hsplit
  simp only [kept, cut, withoutPoint_eq, cutLength]
  exact hsplit

theorem scale_eq_ok_iff_readDigits {n : Nat} :
    scale decimals amount = .ok n ↔ ∃ m, readDigits 0 (kept decimals amount) = .ok m ∧
      n = m * 10 ^ (decimals - Text.byteLength (fractionPart amount)) ∧ n < readingBound := by
  simp only [scale, withoutPoint_eq]
  cases readDigits 0 (kept decimals amount) with
  | error fault => simp [bind, Except.bind]
  | ok m =>
      simp only [bind, Except.bind, Except.ok.injEq, exists_eq_left']
      change (if m * 10 ^ _ < _ then Except.ok (m * 10 ^ _) else _) = _ ↔ _
      split
      · rename_i hbound
        rw [Except.ok.injEq]
        exact ⟨fun h => ⟨h.symm, h ▸ hbound⟩, fun h => h.1.symm⟩
      · rename_i hbound
        refine iff_of_false (by simp) ?_
        rintro ⟨rfl, h⟩
        exact hbound h

/-- Zeros at the end of a number cancel against places behind the point. -/
theorem mul_pow_eq_iff {n N places k : Nat} (h : places ≤ decimals) :
    n * 10 ^ (places + k) = N * 10 ^ k * 10 ^ decimals ↔ n = N * 10 ^ (decimals - places) := by
  have hpower : N * 10 ^ k * 10 ^ decimals = N * 10 ^ (decimals - places) * 10 ^ (places + k) := by
    rw [Nat.mul_assoc, Nat.mul_assoc, ← Nat.pow_add, ← Nat.pow_add]
    congr 2
    omega
  rw [hpower, Nat.mul_left_inj (Nat.pow_pos (by decide)).ne']

theorem forall_figure_append_zeros (cs : List Char) (k : Nat) :
    (∀ c ∈ cs ++ List.replicate k '0', IsFigure c) ↔ ∀ c ∈ cs, IsFigure c := by
  rw [List.forall_mem_append, and_iff_left]
  intro c hc
  rw [(List.mem_replicate.mp hc).2]
  exact .inl rfl

/-- The number of an amount, read off with the exponent that is left, is the
one with which the places behind the point cancel. -/
theorem scale_eq_ok_iff (hfine : isTooFine decimals amount = false) {n : Nat} :
    scale decimals amount = .ok n ↔
      (∀ c ∈ wholePart amount ++ fractionPart amount, IsFigure c) ∧
        n * 10 ^ (fractionPart amount).length =
          numberOf (wholePart amount ++ fractionPart amount) * 10 ^ decimals ∧
        n < readingBound := by
  obtain ⟨k, hk, hkept, -⟩ := kept_eq hfine
  rw [isTooFine_eq_false_iff] at hfine
  rw [scale_eq_ok_iff_readDigits, hkept]
  simp only [readDigits_zero_eq_ok_iff]
  generalize (fractionPart amount).rdropWhile (· = '0') = significant at *
  generalize fractionPart amount = fraction at *
  subst hk
  simp only [← List.append_assoc, forall_figure_append_zeros, numberOf_append_zeros,
    List.length_append, List.length_replicate]
  generalize wholePart amount = whole
  by_cases hfigures : ∀ c ∈ whole ++ significant, IsFigure c
  case neg => simp only [hfigures, false_and, exists_false]
  -- figures are ASCII, so the bytes of the fraction are its characters
  have hlength (j : Nat) : Text.byteLength (significant ++ List.replicate j '0') =
      significant.length + j := by
    rw [Text.byteLength_of_ascii, List.length_append, List.length_replicate]
    exact fun c hc => ((forall_figure_append_zeros significant j).mpr
      (List.forall_mem_append.mp hfigures).2 c hc).ascii
  have hplaces : significant.length ≤ decimals := by
    have hnone := hlength 0
    simp only [List.replicate_zero, List.append_nil, Nat.add_zero] at hnone
    omega
  rw [hlength k]
  generalize numberOf (whole ++ significant) = N
  have hscaled : N * 10 ^ (k - (significant.length + k - decimals)) *
      10 ^ (decimals - (significant.length + k)) = N * 10 ^ (decimals - significant.length) := by
    rw [Nat.mul_assoc, ← Nat.pow_add]
    congr 2
    omega
  rw [mul_pow_eq_iff hplaces, and_iff_right hfigures]
  constructor
  · rintro ⟨m, ⟨-, rfl, -⟩, hn, hbound⟩
    exact ⟨hn.trans hscaled, hbound⟩
  · rintro ⟨hn, hbound⟩
    rw [← hscaled] at hn
    refine ⟨_, ⟨hfigures, rfl, ?_⟩, hn, hbound⟩
    calc _ ≤ n := hn ▸ Nat.le_mul_of_pos_right _ (Nat.pow_pos (by decide))
      _ < readingBound := hbound

end Scaling

/-! ## Amount, blanks and unit -/

/-- A unit is left out, which means wei, or it is the name of one, in small or
capital letters. -/
def IsUnit (unit : List Char) (decimals : Nat) : Prop :=
  unit = [] ∧ decimals = 0 ∨
    unitDecimals.lookup (String.ofList (Text.asciiLower unit)) = some decimals

/-- A text is written as an amount with a unit: figures with at most one point,
blanks, and a unit with so many decimal places that the amount is not finer. -/
structure Written (cs amount : List Char) (decimals : Nat) : Prop where
  parts : ∃ blanks unit, cs = amount ++ blanks ++ unit ∧ (∀ c ∈ blanks, Text.isBlank c) ∧
    IsUnit unit decimals
  ne_nil : amount ≠ []
  figures : ∀ c ∈ amount, IsFigure c ∨ c = '.'
  point : amount.count '.' ≤ 1
  fine : ((fractionPart amount).rdropWhile (· = '0')).length ≤ decimals

theorem lookup_unitName_iff (unit : List Char) (decimals : Nat) :
    unitDecimals.lookup (unitName unit) = some decimals ↔ IsUnit (Text.trim unit) decimals := by
  rw [unitName, IsUnit]
  cases Text.trim unit with
  | nil =>
      have hwei : unitDecimals.lookup "wei" = some 0 := rfl
      have hnone : unitDecimals.lookup (String.ofList (Text.asciiLower [])) = none := by decide
      simp only [hwei, hnone, Option.some.injEq, true_and, reduceCtorEq, or_false]
      exact eq_comm
  | cons c unit => simp

theorem isAsciiLetter_of_toLower {c : Char} (h : Text.isAsciiLetter c.toLower) :
    Text.isAsciiLetter c := by
  delta Char.toLower at h
  split at h
  · rename_i hcapital
    obtain ⟨hlow, hhigh⟩ := hcapital
    simp only [Text.isAsciiLetter, Bool.or_eq_true, Bool.and_eq_true, decide_eq_true_eq]
    exact .inr ⟨hlow, hhigh⟩
  · exact h

theorem IsUnit.letters {unit : List Char} {decimals : Nat} (h : IsUnit unit decimals) :
    ∀ c ∈ unit, Text.isAsciiLetter c := by
  obtain ⟨rfl, -⟩ | h := h
  · simp
  · intro c hc
    refine isAsciiLetter_of_toLower ((letters_of_lookup h).2 c.toLower ?_).1
    rw [String.toList_ofList]
    exact List.mem_map_of_mem hc

/-- The characters of an amount are neither letters nor blanks. -/
theorem class_of_amount {c : Char} (h : IsFigure c ∨ c = '.') :
    Text.isAsciiLetter c = false ∧ Text.isBlank c = false := by
  obtain (h | rfl) | rfl := h
  · exact ⟨Text.isAsciiLetter_of_isDigit h, Text.isBlank_of_isDigit h⟩
  · decide
  · decide

theorem isAsciiLetter_of_isBlank {c : Char} (h : Text.isBlank c) :
    Text.isAsciiLetter c = false := by
  cases hletter : Text.isAsciiLetter c with
  | false => rfl
  | true => exact absurd h (by simp [Text.isBlank_of_isAsciiLetter hletter])

section Splitting

variable {amount blanks unit : List Char}

theorem splitUnit_append (hamount : ∀ c ∈ amount, IsFigure c ∨ c = '.')
    (hblanks : ∀ c ∈ blanks, Text.isBlank c) (hunit : ∀ c ∈ unit, Text.isAsciiLetter c) :
    splitUnit (amount ++ blanks ++ unit) = (amount ++ blanks, unit) := by
  have hfront : ∀ c ∈ amount ++ blanks, (!Text.isAsciiLetter c) = true := by
    intro c hc
    obtain hc | hc := List.mem_append.mp hc
    · simp [(class_of_amount (hamount c hc)).1]
    · simp [isAsciiLetter_of_isBlank (hblanks c hc)]
  rw [splitUnit, List.takeWhile_append_of_pos hfront, List.dropWhile_append_of_pos hfront]
  cases unit with
  | nil => simp
  | cons c unit => simp [hunit c (by simp)]

/-- A trimmed text is its amount, blanks and its unit. -/
theorem splitUnit_trimmed {cs : List Char} (hhead : ∀ c ∈ cs.head?, Text.isBlank c = false)
    (hlast : ∀ c ∈ cs.getLast?, Text.isBlank c = false) :
    ∃ blanks, (∀ c ∈ blanks, Text.isBlank c) ∧
      cs = Text.trim (splitUnit cs).1 ++ blanks ++ Text.trim (splitUnit cs).2 := by
  have happend : (splitUnit cs).1 ++ (splitUnit cs).2 = cs := List.takeWhile_append_dropWhile
  have hletter : ∀ c ∈ (splitUnit cs).2.head?, Text.isAsciiLetter c := by
    intro c hc
    have hnot := List.head?_dropWhile_not (!Text.isAsciiLetter ·) cs
    rw [show (cs.dropWhile _).head? = some c from hc] at hnot
    simpa using hnot
  generalize splitUnit cs = parts at *
  obtain ⟨front, unit⟩ := parts
  dsimp only at *
  have hstart : Text.trimStart front = front := by
    refine Text.trimStart_eq_self fun c hc => hhead c ?_
    rw [← happend, List.head?_append, Option.mem_def.mp hc]
    rfl
  have hunit : Text.trim unit = unit := by
    have hunitStart : Text.trimStart unit = unit :=
      Text.trimStart_eq_self fun c hc => Text.isBlank_of_isAsciiLetter (hletter c hc)
    rw [Text.trim, hunitStart]
    refine Text.trimEnd_eq_self fun c hc => hlast c ?_
    rw [← happend, List.getLast?_append, Option.mem_def.mp hc]
    rfl
  obtain ⟨blanks, hblanks, hfront⟩ := Text.exists_append_blanks front
  refine ⟨blanks, hblanks, ?_⟩
  rw [hunit, Text.trim, hstart, ← hfront, happend]

end Splitting

/-! ## Reading an amount with its unit -/

theorem readAmount_eq_ok_iff_scale {front unit : List Char} {n : Nat} :
    readAmount front unit = .ok n ↔ Text.trim front ≠ [] ∧ ∃ decimals,
      IsUnit (Text.trim unit) decimals ∧ isTooFine decimals (Text.trim front) = false ∧
        scale decimals (Text.trim front) = .ok n := by
  simp only [readAmount, ← lookup_unitName_iff]
  cases Text.trim front with
  | nil => simp
  | cons c amount =>
      cases unitDecimals.lookup (unitName unit) with
      | none => simp
      | some decimals => cases hfine : isTooFine decimals (c :: amount) <;> simp [hfine]

namespace Written

variable {cs amount : List Char} {decimals : Nat}

theorem figures_parts (h : Written cs amount decimals) :
    ∀ c ∈ wholePart amount ++ fractionPart amount, IsFigure c :=
  (forall_figure_parts_iff amount).mpr ⟨h.figures, h.point⟩

/-- A text can be written in one way only: its amount and its unit are those
that reading finds. -/
theorem split (h : Written cs amount decimals) :
    Text.trim (splitUnit cs).1 = amount ∧ IsUnit (Text.trim (splitUnit cs).2) decimals := by
  obtain ⟨blanks, unit, rfl, hblanks, hunit⟩ := h.parts
  rw [splitUnit_append h.figures hblanks hunit.letters]
  dsimp only
  have hamount : ∀ c ∈ amount, Text.isBlank c = false :=
    fun c hc => (class_of_amount (h.figures c hc)).2
  have hletters : ∀ c ∈ unit, Text.isBlank c = false :=
    fun c hc => Text.isBlank_of_isAsciiLetter (hunit.letters c hc)
  rw [Text.trim_append_blanks hblanks hamount, Text.trim_eq_self hletters]
  exact ⟨rfl, hunit⟩

theorem unique {amount' : List Char} {decimals' : Nat} (h : Written cs amount decimals)
    (h' : Written cs amount' decimals') : amount = amount' ∧ decimals = decimals' := by
  obtain ⟨hamount, hunit⟩ := h.split
  obtain ⟨hamount', hunit'⟩ := h'.split
  rw [← lookup_unitName_iff] at hunit hunit'
  exact ⟨hamount.symm.trans hamount', Option.some.inj (hunit.symm.trans hunit')⟩

/-- The amount comes first and has something in it. -/
theorem head?_eq (h : Written cs amount decimals) :
    ∃ c, cs.head? = some c ∧ (IsFigure c ∨ c = '.') := by
  obtain ⟨blanks, unit, rfl, -, -⟩ := h.parts
  obtain ⟨c, rest, rfl⟩ := List.exists_cons_of_ne_nil h.ne_nil
  exact ⟨c, rfl, h.figures c (by simp)⟩

end Written

/-- A text is written as an amount of a unit, and the amount stands for a number
of wei: that number without the places behind the point is all its digits, with
as many zeros as the unit has decimal places. -/
def StandsFor (s : String) (n : Nat) : Prop :=
  ∃ amount decimals, Written (Text.trim s.toList) amount decimals ∧
    n * 10 ^ (fractionPart amount).length =
      numberOf (wholePart amount ++ fractionPart amount) * 10 ^ decimals

theorem StandsFor.unique {s : String} {n m : Nat} (hn : StandsFor s n) (hm : StandsFor s m) :
    n = m := by
  obtain ⟨amount, decimals, hwritten, hn⟩ := hn
  obtain ⟨amount', decimals', hwritten', hm⟩ := hm
  obtain ⟨rfl, rfl⟩ := hwritten.unique hwritten'
  exact Nat.eq_of_mul_eq_mul_right (Nat.pow_pos (by decide)) (hn.trans hm.symm)

/-- What is written is a whole number of wei. -/
theorem Written.exists_eq {cs amount : List Char} {decimals : Nat}
    (h : Written cs amount decimals) : ∃ n, n * 10 ^ (fractionPart amount).length =
      numberOf (wholePart amount ++ fractionPart amount) * 10 ^ decimals := by
  obtain ⟨k, hk⟩ := exists_append_zeros (fractionPart amount)
  have hfine := h.fine
  generalize (fractionPart amount).rdropWhile (· = '0') = significant at hk hfine
  rw [hk, ← List.append_assoc, numberOf_append_zeros, List.length_append, List.length_replicate]
  exact ⟨_, (mul_pow_eq_iff hfine).mpr rfl⟩

/-- An amount with its unit is read iff it is written as the grammar wants it
and is not too large, and then as the number of wei that it stands for. -/
theorem readAmount_eq_ok_iff (s : String) {n : Nat} :
    let cs := Text.trim s.toList
    readAmount (splitUnit cs).1 (splitUnit cs).2 = .ok n ↔ StandsFor s n ∧ n < readingBound := by
  intro cs
  rw [readAmount_eq_ok_iff_scale]
  constructor
  · rintro ⟨hne, decimals, hunit, hfine, hscale⟩
    obtain ⟨blanks, hblanks, hcs⟩ :=
      splitUnit_trimmed (fun c => Text.head?_trim) (fun c => Text.getLast?_trim)
    obtain ⟨hfigures, hn, hbound⟩ := (scale_eq_ok_iff hfine).mp hscale
    obtain ⟨hchars, hpoint⟩ := (forall_figure_parts_iff _).mp hfigures
    rw [isTooFine_eq_false_iff_length hfigures] at hfine
    have hwritten : Written cs (Text.trim (splitUnit cs).1) decimals :=
      ⟨⟨blanks, _, hcs, hblanks, hunit⟩, hne, hchars, hpoint, hfine⟩
    exact ⟨⟨_, decimals, hwritten, hn⟩, hbound⟩
  · rintro ⟨⟨amount, decimals, hwritten, hn⟩, hbound⟩
    obtain ⟨hamount, hunit⟩ := hwritten.split
    have hfine : isTooFine decimals amount = false :=
      (isTooFine_eq_false_iff_length hwritten.figures_parts).mpr hwritten.fine
    rw [hamount]
    exact ⟨hwritten.ne_nil, decimals, hunit, hfine,
      (scale_eq_ok_iff hfine).mpr ⟨hwritten.figures_parts, hn, hbound⟩⟩

/-! ## Reading a fee -/

section Read

variable {s : String}

theorem read_of_nil (h : Text.trim s.toList = []) : read s = .error .empty := by
  simp only [read, h]

theorem read_of_minus (h : (Text.trim s.toList).head? = some '-') :
    read s = .error (.negative (Text.trimmed s)) := by
  obtain ⟨rest, hrest⟩ := List.head?_eq_some_iff.mp h
  simp only [read, Text.trimmed, hrest]

theorem read_of_amount (hne : Text.trim s.toList ≠ [])
    (hminus : (Text.trim s.toList).head? ≠ some '-') :
    let cs := Text.trim s.toList
    read s =
      match readAmount (splitUnit cs).1 (splitUnit cs).2 with
      | .error fault => .error (.invalid (Text.trimmed s) fault)
      | .ok wei =>
        match ofWei? wei with
        | some fee => .ok fee
        | none => .error (.overflow (Text.trimmed s)) := by
  intro cs
  simp only [read]
  split
  · contradiction
  · rename_i rest heq
    rw [heq] at hminus
    exact absurd rfl hminus
  · rfl

/-- What stands for a number is neither empty nor negative. -/
theorem StandsFor.head? {n : Nat} (h : StandsFor s n) :
    Text.trim s.toList ≠ [] ∧ (Text.trim s.toList).head? ≠ some '-' := by
  obtain ⟨amount, decimals, hwritten, -⟩ := h
  obtain ⟨c, hc, hclass⟩ := hwritten.head?_eq
  refine ⟨fun hnil => ?_, fun hminus => ?_⟩
  · rw [hnil] at hc
    cases hc
  · obtain rfl := Option.some.inj (hc.symm.trans hminus)
    obtain (h | h) | h := hclass <;> exact absurd h (by decide)

/-- The ways reading can go, each with its condition on the text. -/
inductive ReadOutcome (s : String) : Except ReadError Fee → Prop where
  | empty (h : Text.trim s.toList = []) : ReadOutcome s (.error .empty)
  | negative (h : (Text.trim s.toList).head? = some '-') :
      ReadOutcome s (.error (.negative (Text.trimmed s)))
  | fee (f : Fee) (h : StandsFor s f.wei) : ReadOutcome s (.ok f)
  | overflow (n : Nat) (h : StandsFor s n) (hlow : bound ≤ n) (hhigh : n < readingBound) :
      ReadOutcome s (.error (.overflow (Text.trimmed s)))
  | invalid (fault : Fault) (hne : Text.trim s.toList ≠ [])
      (hminus : (Text.trim s.toList).head? ≠ some '-')
      (h : ∀ n, StandsFor s n → readingBound ≤ n) :
      ReadOutcome s (.error (.invalid (Text.trimmed s) fault))

theorem read_outcome (s : String) : ReadOutcome s (read s) := by
  by_cases hne : Text.trim s.toList = []
  · rw [read_of_nil hne]
    exact .empty hne
  by_cases hminus : (Text.trim s.toList).head? = some '-'
  · rw [read_of_minus hminus]
    exact .negative hminus
  rw [read_of_amount hne hminus]
  have hiff := fun n => readAmount_eq_ok_iff s (n := n)
  dsimp only at hiff
  generalize readAmount _ _ = result at hiff
  cases result with
  | error fault =>
      refine .invalid fault hne hminus fun n hn => Nat.le_of_not_lt fun hbound => ?_
      cases (hiff n).mpr ⟨hn, hbound⟩
  | ok n =>
      obtain ⟨hstands, hbound⟩ := (hiff n).mp rfl
      by_cases hfits : n < bound
      · simp only [ofWei?, dif_pos hfits]
        exact .fee ⟨n, hfits⟩ hstands
      · simp only [ofWei?, dif_neg hfits]
        exact .overflow n hstands (Nat.le_of_not_lt hfits) hbound

/-- What a text that stands for a number is read as depends on its size only. -/
theorem read_of_standsFor {n : Nat} (h : StandsFor s n) :
    (∃ hfits : n < bound, read s = .ok ⟨n, hfits⟩) ∨
      (bound ≤ n ∧ n < readingBound ∧ read s = .error (.overflow (Text.trimmed s))) ∨
        (readingBound ≤ n ∧ ∃ fault, read s = .error (.invalid (Text.trimmed s) fault)) := by
  have houtcome := read_outcome s
  generalize read s = result at houtcome ⊢
  cases houtcome with
  | empty hnil => exact absurd hnil h.head?.1
  | negative hminus => exact absurd hminus h.head?.2
  | fee f hf =>
      obtain rfl := h.unique hf
      exact .inl ⟨f.fits, rfl⟩
  | overflow m hm hlow hhigh =>
      obtain rfl := h.unique hm
      exact .inr (.inl ⟨hlow, hhigh, rfl⟩)
  | invalid fault hne hminus hlarge => exact .inr (.inr ⟨hlarge n h, fault, rfl⟩)

theorem read_eq_ok_iff {f : Fee} : read s = .ok f ↔ StandsFor s f.wei := by
  have hbound : bound ≤ readingBound := by decide
  constructor
  · intro h
    have houtcome := read_outcome s
    rw [h] at houtcome
    cases houtcome with
    | fee f hstands => exact hstands
  · intro h
    have hfits := f.fits
    obtain ⟨_, hread⟩ | ⟨hlow, -⟩ | ⟨hlow, -⟩ := read_of_standsFor h
    · exact hread
    · omega
    · omega

theorem read_eq_empty_iff : read s = .error .empty ↔ Text.trim s.toList = [] := by
  refine ⟨fun h => ?_, read_of_nil⟩
  have houtcome := read_outcome s
  rw [h] at houtcome
  cases houtcome with
  | empty hnil => exact hnil

theorem read_eq_negative_iff : read s = .error (.negative (Text.trimmed s)) ↔
    (Text.trim s.toList).head? = some '-' := by
  refine ⟨fun h => ?_, read_of_minus⟩
  have houtcome := read_outcome s
  rw [h] at houtcome
  cases houtcome with
  | negative hminus => exact hminus

theorem read_eq_overflow_iff : read s = .error (.overflow (Text.trimmed s)) ↔
    ∃ n, StandsFor s n ∧ bound ≤ n ∧ n < readingBound := by
  constructor
  · intro h
    have houtcome := read_outcome s
    rw [h] at houtcome
    cases houtcome with
    | overflow n hstands hlow hhigh => exact ⟨n, hstands, hlow, hhigh⟩
  · rintro ⟨n, hstands, hlow, hhigh⟩
    obtain ⟨hfits, -⟩ | ⟨-, -, hread⟩ | ⟨hlarge, -⟩ := read_of_standsFor hstands
    · omega
    · exact hread
    · omega

theorem read_eq_invalid_iff : (∃ fault, read s = .error (.invalid (Text.trimmed s) fault)) ↔
    Text.trim s.toList ≠ [] ∧ (Text.trim s.toList).head? ≠ some '-' ∧
      ¬∃ n, StandsFor s n ∧ n < readingBound := by
  have houtcome := read_outcome s
  have hbound : bound ≤ readingBound := by decide
  constructor
  · rintro ⟨fault, h⟩
    rw [h] at houtcome
    cases houtcome with
    | invalid fault hne hminus hlarge =>
        exact ⟨hne, hminus, fun ⟨n, hn, hsmall⟩ => Nat.not_le_of_lt hsmall (hlarge n hn)⟩
  · rintro ⟨hne, hminus, hnone⟩
    generalize read s = result at houtcome ⊢
    cases houtcome with
    | empty hnil => exact absurd hnil hne
    | negative h => exact absurd h hminus
    | fee f hf => exact absurd ⟨f.wei, hf, Nat.lt_of_lt_of_le f.fits hbound⟩ hnone
    | overflow n hn hlow hhigh => exact absurd ⟨n, hn, hhigh⟩ hnone
    | invalid fault hne hminus hlarge => exact ⟨fault, rfl⟩

end Read

end TwoStep.Fee
