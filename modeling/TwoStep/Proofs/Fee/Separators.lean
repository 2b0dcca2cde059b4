import TwoStep.Proofs.Fee.Reading

/-!
# Digit separators

Underscores in an amount are skipped when its digits are read.  In front of the
point that is all that happens to them, and a fee is the same with and without
them.  Behind the point they are still counted as decimal places: when the
amount is checked for digits below one wei, and when it is scaled to its unit.
So every separator behind the point makes the fee that is read ten times
smaller, and no error is reported.

`read_withoutSeparators` says by how much a fee changes when the separators are
taken out of its text.
-/

namespace TwoStep.Fee

/-- A text without its separators. -/
def withoutSeparators (s : String) : String :=
  String.ofList (unseparated s.toList)

/-- How many separators stand behind the first point. -/
def separatorsBehindPoint (s : String) : Nat :=
  (fractionPart s.toList).count '_'

/-! ## Taking separators out of an amount -/

theorem unseparated_append (cs ds : List Char) :
    unseparated (cs ++ ds) = unseparated cs ++ unseparated ds :=
  List.filter_append cs ds

theorem numberOf_unseparated (cs : List Char) : numberOf (unseparated cs) = numberOf cs := by
  simp only [numberOf, unseparated, List.filter_filter, Bool.and_self]

theorem length_eq_add_count (cs : List Char) :
    cs.length = (unseparated cs).length + cs.count '_' := by
  rw [List.length_eq_length_filter_add (fun c : Char => decide (c ≠ '_')), unseparated,
    List.count_eq_length_filter]
  congr 3
  funext c
  simp [Bool.beq_eq_decide_eq]

/-- A separator is no point, so both parts lose theirs and nothing else. -/
theorem parts_unseparated (amount : List Char) :
    wholePart (unseparated amount) = unseparated (wholePart amount) ∧
      fractionPart (unseparated amount) = unseparated (fractionPart amount) := by
  have hpass : (fun c : Char => !decide (c ≠ '_') || decide (c ≠ '.')) =
      fun c => decide (c ≠ '.') := by
    funext c
    by_cases hc : c = '_'
    · subst hc
      rfl
    · simp [hc]
  simp only [wholePart, fractionPart, unseparated, List.takeWhile_filter, List.dropWhile_filter,
    hpass, true_and]
  cases hdrop : amount.dropWhile (fun c => decide (c ≠ '.')) with
  | nil => rfl
  | cons p fraction =>
      have hpoint := List.head?_dropWhile_not (fun c : Char => decide (c ≠ '.')) amount
      rw [hdrop] at hpoint
      obtain rfl : p = '.' := by simpa using hpoint
      rfl

theorem rdropWhile_append_zeros (cs : List Char) (k : Nat) :
    (cs ++ List.replicate k '0').rdropWhile (· = '0') = cs.rdropWhile (· = '0') := by
  induction k with
  | zero => rw [List.replicate_zero, List.append_nil]
  | succ k ih =>
      rw [List.replicate_succ', ← List.append_assoc, List.rdropWhile_concat_pos _ _ _ rfl, ih]

/-- A fraction does not get finer. -/
theorem length_rdropWhile_unseparated_le (fraction : List Char) :
    ((unseparated fraction).rdropWhile (· = '0')).length ≤
      (fraction.rdropWhile (· = '0')).length := by
  obtain ⟨k, hk⟩ := exists_append_zeros fraction
  generalize fraction.rdropWhile (· = '0') = significant at hk ⊢
  have hzeros : unseparated (List.replicate k '0') = List.replicate k '0' := by
    simp [unseparated]
  rw [hk, unseparated_append, hzeros, rdropWhile_append_zeros]
  calc _ ≤ (unseparated significant).length := (List.rdropWhile_prefix _ _).length_le
    _ ≤ significant.length := List.length_filter_le _ _

/-! ## Taking separators out of a text -/

section Written

variable {cs amount : List Char} {decimals : Nat}

theorem IsUnit.unseparated_eq_self {unit : List Char} (h : IsUnit unit decimals) :
    unseparated unit = unit :=
  TwoStep.Fee.unseparated_eq_self fun hc => absurd (h.letters _ hc) (by decide)

theorem unseparated_blanks {blanks : List Char} (h : ∀ c ∈ blanks, Text.isBlank c) :
    unseparated blanks = blanks :=
  unseparated_eq_self fun hc => absurd (h _ hc) (by decide)

theorem Written.unseparated (h : Written cs amount decimals) (hne : unseparated amount ≠ []) :
    Written (unseparated cs) (unseparated amount) decimals := by
  obtain ⟨blanks, unit, rfl, hblanks, hunit⟩ := h.parts
  refine ⟨⟨blanks, unit, ?_, hblanks, hunit⟩, hne, fun c hc => ?_, ?_, ?_⟩
  · rw [unseparated_append, unseparated_append, unseparated_blanks hblanks,
      hunit.unseparated_eq_self]
  · exact h.figures c (List.mem_of_mem_filter hc)
  · rw [TwoStep.Fee.unseparated, List.count_filter (by decide)]
    exact h.point
  · rw [(parts_unseparated amount).2]
    exact (length_rdropWhile_unseparated_le _).trans h.fine

/-- Blanks around a text do not change how it is written. -/
theorem Written.padded {front back : List Char} (h : Written cs amount decimals)
    (hfront : ∀ c ∈ front, Text.isBlank c) (hback : ∀ c ∈ back, Text.isBlank c) :
    Written (Text.trim (front ++ cs ++ back)) amount decimals := by
  have hstart : Text.trim (front ++ cs ++ back) = Text.trimEnd cs := by
    obtain ⟨c, hhead, hclass⟩ := h.head?_eq
    rw [Text.trim, Text.trimStart, List.append_assoc, List.dropWhile_append_of_pos hfront,
      ← Text.trimStart, Text.trimStart_eq_self, Text.trimEnd_append_blanks hback]
    intro d hd
    rw [List.head?_append, hhead] at hd
    obtain rfl := Option.some.inj hd
    exact (class_of_amount hclass).2
  obtain ⟨blanks, unit, rfl, hblanks, hunit⟩ := h.parts
  -- without a unit the blanks behind the amount are trimmed off as well
  suffices ∃ between, (∀ c ∈ between, Text.isBlank c) ∧
      Text.trimEnd (amount ++ blanks ++ unit) = amount ++ between ++ unit by
    obtain ⟨between, hbetween, heq⟩ := this
    rw [hstart, heq]
    exact ⟨⟨between, unit, rfl, hbetween, hunit⟩, h.ne_nil, h.figures, h.point, h.fine⟩
  obtain rfl | ⟨letters, c, rfl⟩ := unit.eq_nil_or_concat'
  · refine ⟨[], by simp, ?_⟩
    rw [List.append_nil, Text.trimEnd_append_blanks hblanks, Text.trimEnd_eq_self]
    · simp
    · exact fun c hc => (class_of_amount (h.figures c (List.mem_of_getLast? hc))).2
  · refine ⟨blanks, hblanks, Text.trimEnd_eq_self fun d hd => ?_⟩
    rw [List.getLast?_append, List.getLast?_concat] at hd
    obtain rfl := Option.some.inj hd
    exact Text.isBlank_of_isAsciiLetter (hunit.letters c (by simp))

end Written

/-! ## Reading a text without its separators -/

section Read

variable {s : String}

theorem fractionPart_append_of_forall_ne {front : List Char} (h : ∀ c ∈ front, c ≠ '.')
    (cs : List Char) : fractionPart (front ++ cs) = fractionPart cs := by
  rw [fractionPart, List.dropWhile_append_of_pos fun c hc => decide_eq_true (h c hc), fractionPart]

/-- What follows an amount comes behind its point, if there is one. -/
theorem fractionPart_append {rest : List Char} (h : '.' ∉ rest) (amount : List Char) :
    fractionPart (amount ++ rest) = fractionPart amount ++ rest ∨
      fractionPart (amount ++ rest) = fractionPart amount := by
  have hrest : rest.dropWhile (· ≠ '.') = [] :=
    List.dropWhile_eq_nil_iff.mpr fun c hc => decide_eq_true fun heq => h (heq ▸ hc)
  rw [fractionPart, List.dropWhile_append, hrest, fractionPart]
  cases amount.dropWhile (· ≠ '.') with
  | nil => exact .inr rfl
  | cons p fraction => exact .inl rfl

/-- Around its amount a text has neither digits nor points nor separators. -/
theorem exists_amount_between {amount : List Char} {decimals : Nat}
    (h : Written (Text.trim s.toList) amount decimals) :
    ∃ front rest, s.toList = front ++ (amount ++ rest) ∧
      ∀ c ∈ front ++ rest, ¬(IsFigure c ∨ c = '.') := by
  obtain ⟨front, back, hfront, hback, htext⟩ := Text.exists_blanks_append_trim s.toList
  obtain ⟨blanks, unit, htrim, hblanks, hunit⟩ := h.parts
  refine ⟨front, blanks ++ unit ++ back, ?_, fun c hc hclass => ?_⟩
  · rw [htext, htrim]
    simp only [List.append_assoc]
  · obtain ⟨hletter, hblank⟩ := class_of_amount hclass
    simp only [List.mem_append] at hc
    obtain hc | (hc | hc) | hc := hc
    · simp [hfront c hc] at hblank
    · simp [hblanks c hc] at hblank
    · simp [hunit.letters c hc] at hletter
    · simp [hback c hc] at hblank

/-- The first point of a text is the one of its amount. -/
theorem separatorsBehindPoint_eq {amount : List Char} {decimals : Nat}
    (h : Written (Text.trim s.toList) amount decimals) :
    separatorsBehindPoint s = (fractionPart amount).count '_' := by
  obtain ⟨front, rest, htext, hother⟩ := exists_amount_between h
  obtain ⟨hfront, hrest⟩ := List.forall_mem_append.mp hother
  have hskip : ∀ c ∈ front, c ≠ '.' := fun c hc heq => hfront c hc (.inr heq)
  have hpoint : '.' ∉ rest := fun hc => hrest _ hc (.inr rfl)
  have hnone : rest.count '_' = 0 := List.count_eq_zero.mpr fun hc => hrest _ hc (.inl (.inr rfl))
  rw [separatorsBehindPoint, htext, fractionPart_append_of_forall_ne hskip]
  obtain heq | heq := fractionPart_append hpoint amount
  · rw [heq, List.count_append, hnone, Nat.add_zero]
  · rw [heq]

theorem Written.unseparated_ne_nil {amount : List Char} {decimals : Nat}
    (h : Written (Text.trim s.toList) amount decimals) (hdigit : ∃ c ∈ s.toList, c.isDigit) :
    TwoStep.Fee.unseparated amount ≠ [] := by
  obtain ⟨front, rest, htext, hother⟩ := exists_amount_between h
  obtain ⟨hfront, hrest⟩ := List.forall_mem_append.mp hother
  obtain ⟨c, hc, hdigit⟩ := hdigit
  rw [htext, List.mem_append, List.mem_append] at hc
  obtain hc | hc | hc := hc
  · exact absurd (.inl (.inl hdigit)) (hfront c hc)
  · refine List.ne_nil_of_mem (a := c) (List.mem_filter.mpr ⟨hc, decide_eq_true ?_⟩)
    rintro rfl
    exact absurd hdigit (by decide)
  · exact absurd (.inl (.inl hdigit)) (hrest c hc)

/-- Every separator behind the point is one power of ten. -/
theorem StandsFor.withoutSeparators {n : Nat} (h : StandsFor s n)
    (hdigit : ∃ c ∈ s.toList, c.isDigit) :
    StandsFor (withoutSeparators s) (n * 10 ^ separatorsBehindPoint s) := by
  obtain ⟨amount, decimals, hwritten, hn⟩ := h
  refine ⟨unseparated amount, decimals, ?_, ?_⟩
  · obtain ⟨front, back, hfront, hback, htext⟩ := Text.exists_blanks_append_trim s.toList
    have hpadded := (hwritten.unseparated (hwritten.unseparated_ne_nil hdigit)).padded hfront hback
    rwa [TwoStep.Fee.withoutSeparators, String.toList_ofList, htext, unseparated_append,
      unseparated_append, unseparated_blanks hfront, unseparated_blanks hback]
  · obtain ⟨hwhole, hfraction⟩ := parts_unseparated amount
    -- the number read stays, and the separators are missing among the places behind the point
    rw [length_eq_add_count (fractionPart amount), Nat.add_comm] at hn
    rw [separatorsBehindPoint_eq hwritten, hwhole, hfraction, ← unseparated_append,
      numberOf_unseparated, ← hn, Nat.mul_assoc, ← Nat.pow_add]

variable {f : Fee}

/-- Without its separators a text stands for the fee that is read from it, times
ten for each separator behind the point.  It is refused if that does not fit,
and read as the same fee only if there is no such separator or the fee is zero. -/
theorem read_withoutSeparators (hread : read s = .ok f) (hdigit : ∃ c ∈ s.toList, c.isDigit) :
    (∀ f', read (withoutSeparators s) = .ok f' ↔
        f'.wei = f.wei * 10 ^ separatorsBehindPoint s) ∧
      (read (withoutSeparators s) = .ok f ↔ separatorsBehindPoint s = 0 ∨ f.wei = 0) := by
  have hstands := (read_eq_ok_iff.mp hread).withoutSeparators hdigit
  have hiff (f' : Fee) : read (withoutSeparators s) = .ok f' ↔
      f'.wei = f.wei * 10 ^ separatorsBehindPoint s := by
    rw [read_eq_ok_iff]
    exact ⟨fun h => h.unique hstands, fun h => h ▸ hstands⟩
  refine ⟨hiff, ?_⟩
  rw [hiff, eq_comm]
  by_cases hzero : f.wei = 0
  · simp only [hzero, Nat.zero_mul, or_true]
  · rw [Nat.mul_eq_left hzero, Nat.pow_eq_one, or_iff_left hzero]
    simp only [Nat.reduceEqDiff, false_or]

/-- Two separators, one of them behind the point. -/
theorem ten_and_a_half_gwei_separated : read "1_0._5 gwei" = .ok ⟨1050000000, by decide⟩ ∧
    read (withoutSeparators "1_0._5 gwei") = .ok ⟨10500000000, by decide⟩ := by
  have hread : read "1_0._5 gwei" = .ok ⟨1050000000, by decide⟩ := by decide
  exact ⟨hread, ((read_withoutSeparators hread ⟨'1', by decide, rfl⟩).1 _).mpr (by decide)⟩

/-- Taking out a separator behind the point changes the fee. -/
theorem separator_behind_point_changes_fee :
    ¬∀ s f, read s = .ok f → (∃ c ∈ s.toList, c.isDigit) → read (withoutSeparators s) = .ok f := by
  intro h
  have hread : read "1._5 gwei" = .ok ⟨150000000, by decide⟩ := by decide
  have hsame := h "1._5 gwei" _ hread ⟨'1', by decide, rfl⟩
  have hother : read (withoutSeparators "1._5 gwei") = .ok ⟨1500000000, by decide⟩ := by decide
  exact absurd (hsame.symm.trans hother) (by decide)

end Read

end TwoStep.Fee
