import Mathlib.Algebra.Field.Rat
import Mathlib.Algebra.Order.Field.Rat
import Mathlib.Data.Rat.Cast.Order
import Mathlib.Tactic.FieldSimp
import TwoStep.Proofs.Fee.Reading

/-!
# The grammar of fees

A fee without separators is an amount, blanks and a unit.  The amount is a
decimal number in the usual sense, and the fee is that number times ten to the
decimal places of the unit, as an exact product of rational numbers: nothing
is rounded or cut off.  `reads_exactly_the_grammar` says of every text without
separators whether it is read, as what, and with which error it is refused
otherwise.

Here an amount is any nonempty text of digits with at most one point, so that
`.5` and `5.` are amounts, and a point alone spells zero.
-/

namespace TwoStep.Fee

/-- Digits with at most one point. -/
structure IsAmount (cs : List Char) : Prop where
  ne_nil : cs ≠ []
  digits : ∀ c ∈ cs, c.isDigit ∨ c = '.'
  point : cs.count '.' ≤ 1

/-- The number an amount spells: its whole part, and its fraction moved behind
the point. -/
def decimal (amount : List Char) : ℚ :=
  Nat.ofDigitChars 10 (wholePart amount) 0 +
    Nat.ofDigitChars 10 (fractionPart amount) 0 / 10 ^ (fractionPart amount).length

/-- A text is in the grammar of fees and spells a number of wei: an amount,
blanks and a unit, and the fraction of the amount, without the zeros at its
end, has no more digits than the unit has decimal places. -/
inductive Spells (s : String) : ℚ → Prop where
  | intro (amount blanks unit : List Char) (decimals : Nat)
      (htext : Text.trim s.toList = amount ++ blanks ++ unit) (hamount : IsAmount amount)
      (hblanks : ∀ c ∈ blanks, Text.isBlank c) (hunit : IsUnit unit decimals)
      (hfine : ((fractionPart amount).rdropWhile (· = '0')).length ≤ decimals) :
      Spells s (decimal amount * 10 ^ decimals)

/-! ## Spelled numbers are what reading finds -/

section Spelled

variable {s : String} {amount : List Char}

theorem not_mem_parts {c : Char} (h : c ∉ amount) :
    c ∉ wholePart amount ∧ c ∉ fractionPart amount := by
  refine ⟨fun hc => h ((List.takeWhile_prefix _).mem hc), fun hc => h ?_⟩
  exact (List.dropWhile_suffix _).mem (List.mem_of_mem_tail hc)

/-- Without separators the digits of both parts are a number of the usual kind. -/
theorem numberOf_parts (h : '_' ∉ amount) :
    numberOf (wholePart amount ++ fractionPart amount) =
      Nat.ofDigitChars 10 (wholePart amount) 0 * 10 ^ (fractionPart amount).length +
        Nat.ofDigitChars 10 (fractionPart amount) 0 := by
  obtain ⟨hwhole, hfraction⟩ := not_mem_parts h
  have hparts : '_' ∉ wholePart amount ++ fractionPart amount := by simp [hwhole, hfraction]
  rw [numberOf, unseparated_eq_self hparts, Nat.ofDigitChars_append,
    Nat.ofDigitChars_eq_ofDigitChars_zero, Nat.mul_comm]

theorem eq_decimal_mul_iff (h : '_' ∉ amount) (n decimals : Nat) :
    (n : ℚ) = decimal amount * 10 ^ decimals ↔
      n * 10 ^ (fractionPart amount).length =
        numberOf (wholePart amount ++ fractionPart amount) * 10 ^ decimals := by
  have hpower : (10 : ℚ) ^ (fractionPart amount).length ≠ 0 := pow_ne_zero _ (by norm_num)
  have hdecimal : decimal amount =
      (numberOf (wholePart amount ++ fractionPart amount) : ℚ) /
        10 ^ (fractionPart amount).length := by
    rw [numberOf_parts h, decimal]
    push_cast
    field_simp
  rw [hdecimal, div_mul_eq_mul_div, eq_div_iff hpower]
  norm_cast

/-- In a text without separators, the number that is spelled and the one that
is read are the same. -/
theorem spells_iff (hs : '_' ∉ s.toList) (v : ℚ) :
    Spells s v ↔ ∃ n : Nat, StandsFor s n ∧ v = n := by
  have htrim : '_' ∉ Text.trim s.toList := fun h => hs (Text.mem_of_mem_trim h)
  constructor
  · rintro ⟨amount, blanks, unit, decimals, htext, hamount, hblanks, hunit, hfine⟩
    have hwritten : Written (Text.trim s.toList) amount decimals :=
      ⟨⟨blanks, unit, htext, hblanks, hunit⟩, hamount.ne_nil,
        fun c hc => (hamount.digits c hc).imp_left .inl, hamount.point, hfine⟩
    have hnone : '_' ∉ amount := fun hmem => htrim (by simp [htext, hmem])
    obtain ⟨n, hn⟩ := hwritten.exists_eq
    exact ⟨n, ⟨amount, decimals, hwritten, hn⟩, ((eq_decimal_mul_iff hnone n decimals).mpr hn).symm⟩
  · rintro ⟨n, ⟨amount, decimals, hwritten, hn⟩, rfl⟩
    obtain ⟨blanks, unit, htext, hblanks, hunit⟩ := hwritten.parts
    have hnone : '_' ∉ amount := fun hmem => htrim (by simp [htext, hmem])
    have hdigits : ∀ c ∈ amount, c.isDigit ∨ c = '.' := by
      intro c hc
      obtain (hdigit | rfl) | hpoint := hwritten.figures c hc
      · exact .inl hdigit
      · exact absurd hc hnone
      · exact .inr hpoint
    rw [(eq_decimal_mul_iff hnone n decimals).mpr hn]
    exact .intro amount blanks unit decimals htext ⟨hwritten.ne_nil, hdigits, hwritten.point⟩
      hblanks hunit hwritten.fine

theorem exists_spells_iff (hs : '_' ∉ s.toList) (P : ℚ → Prop) :
    (∃ v, Spells s v ∧ P v) ↔ ∃ n : Nat, StandsFor s n ∧ P n := by
  simp only [spells_iff hs]
  constructor
  · rintro ⟨v, ⟨n, hn, rfl⟩, hP⟩
    exact ⟨n, hn, hP⟩
  · rintro ⟨n, hn, hP⟩
    exact ⟨n, ⟨n, hn, rfl⟩, hP⟩

end Spelled

/-! ## Every text without separators -/

/-- How a text is read, by the number it spells. -/
structure ReadsGrammar (s : String) (result : Except ReadError Fee) : Prop where
  /-- A fee is read exactly from the texts that spell its number. -/
  fee_iff : ∀ f : Fee, result = .ok f ↔ Spells s f.wei
  accepted_iff : (∃ f, result = .ok f) ↔ ∃ v, Spells s v ∧ v < 2 ^ 128
  empty_iff : result = .error .empty ↔ Text.trim s.toList = []
  negative_iff : result = .error (.negative (Text.trimmed s)) ↔
    (Text.trim s.toList).head? = some '-'
  overflow_iff : result = .error (.overflow (Text.trimmed s)) ↔
    ∃ v, Spells s v ∧ 2 ^ 128 ≤ v ∧ v < 2 ^ 256
  /-- Everything else is refused as invalid. -/
  invalid_iff : (∃ fault, result = .error (.invalid (Text.trimmed s) fault)) ↔
    Text.trim s.toList ≠ [] ∧ (Text.trim s.toList).head? ≠ some '-' ∧
      ¬∃ v, Spells s v ∧ v < 2 ^ 256

theorem cast_lt_bound_iff (n : Nat) : (n : ℚ) < 2 ^ 128 ↔ n < bound := by
  rw [show bound = 2 ^ 128 from rfl]
  exact_mod_cast Iff.rfl

theorem cast_lt_readingBound_iff (n : Nat) : (n : ℚ) < 2 ^ 256 ↔ n < readingBound := by
  rw [show readingBound = 2 ^ 256 from rfl]
  exact_mod_cast Iff.rfl

theorem accepted_iff_standsFor (s : String) :
    (∃ f, read s = .ok f) ↔ ∃ n, StandsFor s n ∧ n < bound := by
  simp only [read_eq_ok_iff]
  exact ⟨fun ⟨f, hf⟩ => ⟨f.wei, hf, f.fits⟩, fun ⟨n, hn, hfits⟩ => ⟨⟨n, hfits⟩, hn⟩⟩

/-- A text without separators is read as a fee iff it is in the grammar and its
number of wei fits, then as exactly that number, and every other text is refused
with the error that describes it. -/
theorem reads_exactly_the_grammar (s : String) (hs : '_' ∉ s.toList) :
    ReadsGrammar s (read s) where
  fee_iff f := by
    rw [read_eq_ok_iff, spells_iff hs]
    simp only [Nat.cast_inj, exists_eq_right']
  accepted_iff := by
    rw [accepted_iff_standsFor, exists_spells_iff hs]
    simp only [cast_lt_bound_iff]
  empty_iff := read_eq_empty_iff
  negative_iff := read_eq_negative_iff
  overflow_iff := by
    rw [read_eq_overflow_iff, exists_spells_iff hs (fun v => 2 ^ 128 ≤ v ∧ v < 2 ^ 256)]
    simp only [← not_lt (b := (2 : ℚ) ^ 128), cast_lt_bound_iff, cast_lt_readingBound_iff,
      Nat.not_lt]
  invalid_iff := by
    rw [read_eq_invalid_iff, exists_spells_iff hs]
    simp only [cast_lt_readingBound_iff]

/-- Half a gwei, with zeros at its end and the unit in capital letters. -/
theorem half_gwei_is_read : '_' ∉ " 0.5000 GWEI".toList ∧
    Spells " 0.5000 GWEI" 500000000 ∧ read " 0.5000 GWEI" = .ok ⟨500000000, by decide⟩ := by
  have hs : '_' ∉ " 0.5000 GWEI".toList := by decide
  have hread : read " 0.5000 GWEI" = .ok ⟨500000000, by decide⟩ := by decide
  refine ⟨hs, ?_, hread⟩
  exact_mod_cast ((reads_exactly_the_grammar " 0.5000 GWEI" hs).fee_iff _).mp hread

end TwoStep.Fee
