import TwoStep.Proofs.Fee.Reading

/-!
# What is cut from an amount

An amount with more places behind its point than the unit has is cut at the end
before its digits are read.  How much is cut is counted in bytes, on a text from
which the point is gone, and what is allowed is checked earlier, on the fraction
without the zeros at its end.  The two agree on every text: if the check passes,
what is cut are zeros.  So no character is cut in two, and no digit that counts
is lost, whatever else stands in the amount: characters of several bytes,
separators or further points.

A text is either refused before its digits are looked at, with one of the errors
in `beforeDigits`, or its digits are read as `CutsZeros` says
(`refused_or_cuts_zeros`).
-/

namespace TwoStep.Fee

/-- The errors that are found before digits are read. -/
def ReadError.beforeDigits : ReadError → Bool
  | .empty => true
  | .negative _ => true
  | .invalid _ .missingAmount => true
  | .invalid _ (.unknownUnit _) => true
  | .invalid _ (.tooFine _ _) => true
  | .invalid _ (.badDigit _) => false
  | .invalid _ .tooLarge => false
  | .overflow _ => false

/-- The digits of a text's amount are read, and only zeros are cut from it. -/
structure CutsZeros (s : String) (amount : List Char) (decimals : Nat) : Prop where
  /-- The text has this amount, of a unit with so many decimal places. -/
  amount_eq : amount = Text.trim (splitUnit (Text.trim s.toList)).1
  unit : IsUnit (Text.trim (splitUnit (Text.trim s.toList)).2) decimals
  /-- What the text is read as depends on the bytes that are kept. -/
  read_eq : read s =
    match scale decimals amount with
    | .error fault => .error (.invalid (Text.trimmed s) fault)
    | .ok wei =>
      match ofWei? wei with
      | some fee => .ok fee
      | none => .error (.overflow (Text.trimmed s))
  notEarly : ∀ e, read s = .error e → e.beforeDigits = false
  /-- The amount without its point is what is kept and what is cut. -/
  split : kept decimals amount ++ cut decimals amount =
    Text.bytes (wholePart amount ++ fractionPart amount)
  /-- Every place that the unit does not have is cut, and is a zero. -/
  zeros : cut decimals amount =
    List.replicate (Text.byteLength (fractionPart amount) - decimals) 48
  /-- What is kept ends where a character ends. -/
  boundary : ∃ front, kept decimals amount = Text.bytes front ∧
    wholePart amount ++ fractionPart amount =
      front ++ List.replicate (Text.byteLength (fractionPart amount) - decimals) '0'
  /-- A fraction that is not longer than the unit allows is kept. -/
  short : Text.byteLength (fractionPart amount) ≤ decimals →
    cut decimals amount = [] ∧
      kept decimals amount = Text.bytes (wholePart amount ++ fractionPart amount)

theorem kept_append_cut (decimals : Nat) (amount : List Char) :
    kept decimals amount ++ cut decimals amount =
      Text.bytes (wholePart amount ++ fractionPart amount) := by
  simp only [kept, cut, withoutPoint_eq, List.take_append_drop]

section Cutting

variable {decimals : Nat} {amount : List Char}

theorem kept_eq_bytes (hfine : isTooFine decimals amount = false) :
    ∃ front, kept decimals amount = Text.bytes front ∧
      wholePart amount ++ fractionPart amount =
        front ++ List.replicate (Text.byteLength (fractionPart amount) - decimals) '0' := by
  obtain ⟨k, hfraction, hkept, -⟩ := kept_eq hfine
  rw [isTooFine_eq_false_iff] at hfine
  refine ⟨_, hkept, ?_⟩
  -- the check counts the bytes of `significant`, the cut those of the whole fraction
  generalize (fractionPart amount).rdropWhile (· = '0') = significant at *
  have hplaces : Text.byteLength (fractionPart amount) = Text.byteLength significant + k := by
    rw [hfraction, ← Text.length_bytes, Text.bytes_append, List.length_append, Text.length_bytes,
      bytes_zeros, List.length_replicate]
  have hzeros : k - (Text.byteLength (fractionPart amount) - decimals) +
      (Text.byteLength (fractionPart amount) - decimals) = k := by omega
  rw [List.append_assoc _ _ (List.replicate _ '0'), List.replicate_append_replicate, hzeros,
    List.append_assoc, ← hfraction]

theorem readDigits_fault {bs : List UInt8} {acc : Nat} {fault : Fault}
    (h : readDigits acc bs = .error fault) : (∃ c, fault = .badDigit c) ∨ fault = .tooLarge := by
  induction bs generalizing acc with
  | nil => cases h
  | cons b bs ih =>
      rw [readDigits] at h
      split at h
      · exact ih h
      · split at h
        · dsimp only at h
          split at h
          · exact ih h
          · exact .inr (Except.error.inj h).symm
        · exact .inl ⟨_, (Except.error.inj h).symm⟩

theorem beforeDigits_of_scale {fault : Fault} (h : scale decimals amount = .error fault)
    (input : String) : (ReadError.invalid input fault).beforeDigits = false := by
  suffices (∃ c, fault = .badDigit c) ∨ fault = .tooLarge by
    obtain ⟨c, rfl⟩ | rfl := this <;> rfl
  rw [scale] at h
  cases hdigits : readDigits 0 (kept decimals amount) with
  | error found =>
      rw [hdigits] at h
      obtain rfl := Except.error.inj h
      exact readDigits_fault hdigits
  | ok n =>
      rw [hdigits] at h
      change (if _ then _ else _) = _ at h
      split at h
      · cases h
      · exact .inr (Except.error.inj h).symm

theorem cut_of_short (hshort : Text.byteLength (fractionPart amount) ≤ decimals)
    (hcut : cut decimals amount =
      List.replicate (Text.byteLength (fractionPart amount) - decimals) 48) :
    cut decimals amount = [] ∧
      kept decimals amount = Text.bytes (wholePart amount ++ fractionPart amount) := by
  have hnone : cut decimals amount = [] := by
    rw [hcut, Nat.sub_eq_zero_of_le hshort, List.replicate_zero]
  refine ⟨hnone, ?_⟩
  rw [← kept_append_cut decimals amount, hnone, List.append_nil]

end Cutting

/-- The ways an amount and its unit can be refused before the digits are read;
otherwise they are scaled. -/
theorem readAmount_cases (front unit : List Char) :
    (∃ fault, readAmount front unit = .error fault ∧
      ∀ input, (ReadError.invalid input fault).beforeDigits = true) ∨
    ∃ decimals, IsUnit (Text.trim unit) decimals ∧ isTooFine decimals (Text.trim front) = false ∧
      readAmount front unit = scale decimals (Text.trim front) := by
  simp only [readAmount, ← lookup_unitName_iff]
  cases hempty : (Text.trim front).isEmpty with
  | true => exact .inl ⟨_, rfl, fun _ => rfl⟩
  | false =>
      cases hunit : unitDecimals.lookup (unitName unit) with
      | none => exact .inl ⟨_, rfl, fun _ => rfl⟩
      | some decimals =>
          cases hfine : isTooFine decimals (Text.trim front) with
          | true => exact .inl ⟨.tooFine decimals (unitName unit), by simp [hfine], fun _ => rfl⟩
          | false => exact .inr ⟨decimals, rfl, hfine, by simp [hfine]⟩

/-- Whatever a text holds, it is refused before its digits are read, or nothing
but zeros is cut from the end of its amount. -/
theorem refused_or_cuts_zeros (s : String) :
    (∃ e : ReadError, e.beforeDigits = true ∧ read s = .error e) ∨
      ∃ amount decimals, CutsZeros s amount decimals := by
  by_cases hne : Text.trim s.toList = []
  · exact .inl ⟨.empty, rfl, read_of_nil hne⟩
  by_cases hminus : (Text.trim s.toList).head? = some '-'
  · exact .inl ⟨_, rfl, read_of_minus hminus⟩
  have hread := read_of_amount hne hminus
  dsimp only at hread
  obtain ⟨fault, hfault, hearly⟩ | ⟨decimals, hunit, hfine, hscale⟩ :=
    readAmount_cases (splitUnit (Text.trim s.toList)).1 (splitUnit (Text.trim s.toList)).2
  · rw [hfault] at hread
    exact .inl ⟨_, hearly _, hread⟩
  · rw [hscale] at hread
    obtain ⟨-, -, -, hcut⟩ := kept_eq hfine
    refine .inr ⟨_, decimals, rfl, hunit, ?_, fun e he => ?_, kept_append_cut _ _, hcut,
      kept_eq_bytes hfine, fun hshort => cut_of_short hshort hcut⟩
    · -- otherwise the digits would be computed to compare the two
      generalize scale decimals _ = scaled at hread ⊢
      exact hread
    rw [hread] at he
    split at he
    case h_1 fault hfault =>
      obtain rfl := Except.error.inj he
      exact beforeDigits_of_scale hfault _
    case h_2 wei _ =>
      cases hfee : ofWei? wei with
      | some fee =>
          rw [hfee] at he
          cases he
      | none =>
          rw [hfee] at he
          obtain rfl := Except.error.inj he
          rfl

/-- A fraction with a character of two bytes and a zero more than the unit has
places: the zero is cut, and the character is what is refused. -/
example : cut 3 "1.é00".toList = [48] ∧
    read "1.é00 kwei" = .error (.invalid "1.é00 kwei" (.badDigit 'Ã')) := by decide +kernel

end TwoStep.Fee
