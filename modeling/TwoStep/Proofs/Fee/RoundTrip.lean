import Mathlib.Data.List.TakeWhile
import TwoStep.Fee
import TwoStep.Proofs.Text

/-!
# Fees that are written can be read

A fee is shown as decimal digits, a blank and a unit.  Reading such a text goes
through every step that reading has, and each step does nothing but its part:
there is nothing to trim, the unit starts at its first letter, there is no
point in the amount, and the digits are read as the number they were written
from.

`readDigits_bytes` is the one about the digits.  It says exactly when digits
are refused, so the only arithmetic left is that a fee, which fits in 128 bits,
is far from the 256 bits that bound the reading.
-/

namespace TwoStep

namespace Fee

/-! ## Amounts without a point -/

theorem le_ofDigitChars (ds : List Char) (acc : Nat) : acc ≤ Nat.ofDigitChars 10 ds acc := by
  induction ds generalizing acc with
  | nil => exact Nat.le_refl acc
  | cons d ds ih =>
      rw [Nat.ofDigitChars_cons]
      have := ih (10 * acc + (d.toNat - '0'.toNat))
      omega

/-- A digit is read as one more place, if the number stays within the bound. -/
theorem readDigits_digit (acc : Nat) {d : Char} (hd : d.isDigit) (ds : List Char) :
    readDigits acc (Text.bytes (d :: ds)) =
      if 10 * acc + (d.toNat - 48) < readingBound then
        readDigits (10 * acc + (d.toNat - 48)) (Text.bytes ds)
      else .error .tooLarge := by
  obtain ⟨hlow, hhigh⟩ := Text.toNat_of_isDigit hd
  have hbyte : (UInt8.ofNat d.toNat).toNat = d.toNat := by
    rw [UInt8.toNat_ofNat']
    omega
  have hskip : UInt8.ofNat d.toNat ≠ 95 := by
    rw [ne_eq, ← UInt8.toNat_inj, hbyte]
    change d.toNat ≠ 95
    omega
  have hdigit : 48 ≤ UInt8.ofNat d.toNat ∧ UInt8.ofNat d.toNat ≤ 57 := by
    rw [UInt8.le_iff_toNat_le, UInt8.le_iff_toNat_le, hbyte]
    exact ⟨hlow, hhigh⟩
  rw [Text.bytes_cons_digit hd, readDigits, if_neg hskip, if_pos hdigit, hbyte]

/-- Digits are read as the number they spell, if it is within the bound. -/
theorem readDigits_bytes {ds : List Char} (hds : ∀ d ∈ ds, d.isDigit) {acc : Nat}
    (hacc : acc < readingBound) :
    readDigits acc (Text.bytes ds) =
      if Nat.ofDigitChars 10 ds acc < readingBound then .ok (Nat.ofDigitChars 10 ds acc)
      else .error .tooLarge := by
  induction ds generalizing acc with
  | nil => simp [Text.bytes, readDigits, hacc]
  | cons d ds ih =>
      obtain ⟨hd, hds⟩ := List.forall_mem_cons.mp hds
      have hnext : 10 * acc + (d.toNat - 48) ≤ Nat.ofDigitChars 10 (d :: ds) acc :=
        le_ofDigitChars ds _
      rw [readDigits_digit acc hd]
      by_cases hbound : 10 * acc + (d.toNat - 48) < readingBound
      · rw [if_pos hbound, ih hds hbound, Nat.ofDigitChars_cons]
        rfl
      · rw [if_neg hbound, if_neg (fun h => hbound (Nat.lt_of_le_of_lt hnext h))]

theorem splitPoint_digits {ds : List Char} (hds : ∀ d ∈ ds, d.isDigit) : splitPoint ds = none := by
  have hdrop : ds.dropWhile (· ≠ '.') = [] := by
    refine List.dropWhile_eq_nil_iff.mpr fun d hd => ?_
    have hne : d ≠ '.' := by
      rintro rfl
      exact absurd (hds _ hd) (by decide)
    simpa using hne
  rw [splitPoint, hdrop]

/-- A whole amount stands for its number, scaled to the unit. -/
theorem scale_digits {ds : List Char} (hds : ∀ d ∈ ds, d.isDigit) (decimals : Nat)
    (hbound : Nat.ofDigitChars 10 ds 0 * Nat.pow 10 decimals < readingBound) :
    scale decimals ds = .ok (Nat.ofDigitChars 10 ds 0 * Nat.pow 10 decimals) := by
  have hpoint : withoutPoint ds = (Text.bytes ds, 0) := by
    rw [withoutPoint, splitPoint_digits hds]
  have hkept : kept decimals ds = Text.bytes ds := by
    simp [kept, hpoint, cutLength]
  have hdigits : Nat.ofDigitChars 10 ds 0 < readingBound :=
    Nat.lt_of_le_of_lt (Nat.le_mul_of_pos_right _ (Nat.pow_pos (by decide))) hbound
  have hread : readDigits 0 (kept decimals ds) = .ok (Nat.ofDigitChars 10 ds 0) := by
    rw [hkept, readDigits_bytes hds (by decide), if_pos hdigits]
  simp only [scale, hread, hpoint]
  exact if_pos hbound

/-! ## Amounts with a unit -/

section Unit

variable {ds unit : List Char} {decimals : Nat}

/-- The blank between an amount and its unit goes with the amount. -/
theorem splitUnit_digits (hds : ∀ d ∈ ds, d.isDigit)
    (hunit : ∀ c ∈ unit.head?, Text.isAsciiLetter c) :
    splitUnit (ds ++ ' ' :: unit) = (ds ++ [' '], unit) := by
  have hamount : ∀ c ∈ ds ++ [' '], (!Text.isAsciiLetter c) = true := by
    intro c hc
    obtain hc | hc := List.mem_append.mp hc
    · simp [Text.isAsciiLetter_of_isDigit (hds c hc)]
    · obtain rfl := List.mem_singleton.mp hc
      decide
  have happend : ds ++ ' ' :: unit = (ds ++ [' ']) ++ unit := by simp
  rw [splitUnit, happend, List.takeWhile_append_of_pos hamount,
    List.dropWhile_append_of_pos hamount]
  cases unit with
  | nil => simp
  | cons c unit => simp [hunit c rfl]

theorem trim_digits (hds : ∀ d ∈ ds, d.isDigit) : Text.trim (ds ++ [' ']) = ds :=
  Text.trim_append_blanks (by simp [Text.isBlank]) fun d hd => Text.isBlank_of_isDigit (hds d hd)

/-- The name of every unit is a word in small letters. -/
theorem unit_letters : unitDecimals.all (fun p => !p.1.toList.isEmpty &&
    p.1.toList.all fun c => Text.isAsciiLetter c && c.toLower == c) = true := by
  decide

variable {name : String}

theorem letters_of_lookup (h : unitDecimals.lookup name = some decimals) :
    name.toList ≠ [] ∧ ∀ c ∈ name.toList, Text.isAsciiLetter c = true ∧ c.toLower = c := by
  obtain ⟨before, after, htable, -⟩ := List.lookup_eq_some_iff.mp h
  have hname := List.all_eq_true.mp unit_letters (name, decimals) (by rw [htable]; simp)
  simpa using hname

theorem unitName_of_lookup (h : unitDecimals.lookup name = some decimals) :
    unitName name.toList = name := by
  obtain ⟨hne, hletters⟩ := letters_of_lookup h
  have hblank : ∀ c ∈ name.toList, Text.isBlank c = false :=
    fun c hc => Text.isBlank_of_isAsciiLetter (hletters c hc).1
  have htrim : Text.trim name.toList = name.toList := by
    rw [Text.trim, Text.trimStart_eq_self fun c hc => hblank c (List.mem_of_head? hc),
      Text.trimEnd_eq_self fun c hc => hblank c (List.mem_of_getLast? hc)]
  have hlower : Text.asciiLower name.toList = name.toList :=
    (List.map_congr_left fun c hc => (hletters c hc).2).trans (List.map_id _)
  rw [unitName, htrim]
  split
  · contradiction
  · rw [hlower, String.ofList_toList]

/-- A whole amount of a unit is read as the fee it stands for. -/
theorem read_digits (hds : ∀ d ∈ ds, d.isDigit) (hne : ds ≠ [])
    (hunit : unitDecimals.lookup name = some decimals)
    (hfits : Nat.ofDigitChars 10 ds 0 * Nat.pow 10 decimals < bound) :
    read (String.ofList (ds ++ ' ' :: name.toList)) =
      .ok ⟨Nat.ofDigitChars 10 ds 0 * Nat.pow 10 decimals, hfits⟩ := by
  obtain ⟨hname, hletters⟩ := letters_of_lookup hunit
  obtain ⟨d, ds', rfl⟩ := List.exists_cons_of_ne_nil hne
  have hd : d.isDigit := hds d (by simp)
  have htrim : Text.trim (d :: ds' ++ ' ' :: name.toList) = d :: ds' ++ ' ' :: name.toList := by
    rw [Text.trim, Text.trimStart_eq_self fun c hc => ?_, Text.trimEnd_eq_self fun c hc => ?_]
    · have happend : d :: ds' ++ ' ' :: name.toList = (d :: ds' ++ [' ']) ++ name.toList := by simp
      rw [happend, List.getLast?_append, List.getLast?_eq_some_getLast hname] at hc
      obtain rfl : name.toList.getLast hname = c := by simpa using hc
      exact Text.isBlank_of_isAsciiLetter (hletters _ (List.getLast_mem hname)).1
    · obtain rfl : d = c := by simpa using hc
      exact Text.isBlank_of_isDigit hd
  have hamount : readAmount (d :: ds' ++ [' ']) name.toList =
      .ok (Nat.ofDigitChars 10 (d :: ds') 0 * Nat.pow 10 decimals) := by
    have hscale := scale_digits hds decimals (hfits.trans (by decide))
    have hfine : isTooFine decimals (d :: ds') = false := by
      rw [isTooFine, splitPoint_digits hds]
    simp only [readAmount, trim_digits hds, unitName_of_lookup hunit, hunit, hfine, hscale]
    rfl
  have hsplit := splitUnit_digits hds fun c hc => (hletters c (List.mem_of_head? hc)).1
  have hminus : d ≠ '-' := by
    rintro rfl
    exact absurd hd (by decide)
  simp only [read, String.toList_ofList, htrim]
  split
  · contradiction
  · rename_i heq
    exact absurd (List.cons.inj heq).1 hminus
  · simp only [hsplit, hamount, ofWei?, hfits]
    rfl

end Unit

/-! ## The round trip -/

theorem digits_toDigits (n : Nat) : ∀ d ∈ Nat.toDigits 10 n, d.isDigit :=
  fun _ hd => Nat.isDigit_of_mem_toDigits (by decide) (by decide) hd

/-- A number of a unit is read as the fee it stands for. -/
theorem read_number (n : Nat) (name : String) {decimals : Nat}
    (hunit : unitDecimals.lookup name = some decimals) (hfits : n * Nat.pow 10 decimals < bound) :
    read (toString n ++ (" " ++ name)) = .ok ⟨n * Nat.pow 10 decimals, hfits⟩ := by
  have htext : toString n ++ (" " ++ name) =
      String.ofList (Nat.toDigits 10 n ++ ' ' :: name.toList) := by
    apply String.toList_inj.mp
    simp
  have hvalue : Nat.ofDigitChars 10 (Nat.toDigits 10 n) 0 = n := Nat.ofDigitChars_ten_toDigits
  rw [htext, read_digits (digits_toDigits n) Nat.toDigits_ne_nil hunit (by rwa [hvalue])]
  simp only [hvalue]

theorem read_display (f : Fee) : read f.display = .ok f := by
  rw [display]
  split
  case isTrue h =>
    have hwhole : f.wei / weiPerGwei * Nat.pow 10 9 = f.wei :=
      Nat.div_mul_cancel (Nat.dvd_of_mod_eq_zero h.2)
    have hread := read_number (f.wei / weiPerGwei) "gwei" rfl (hwhole.symm ▸ f.fits)
    simp only [hwhole] at hread
    exact hread
  case isFalse h =>
    have hwei : f.wei * Nat.pow 10 0 = f.wei := Nat.mul_one _
    have hread := read_number f.wei "wei" rfl (hwei.symm ▸ f.fits)
    simp only [hwei] at hread
    exact hread

theorem read_gwei (g : UInt64) : read s!"{g} gwei" = .ok (ofGwei g) :=
  read_number g.toNat "gwei" rfl (ofGwei g).fits

/-- Every fee is read back from the way it is shown, so two fees that are shown
alike are equal; and a 64-bit number of gwei is a fee, the one that is read
from the number and its unit. -/
theorem display_reads_back :
    (∀ w, w < bound → ∃ f, ofWei? w = some f ∧ f.wei = w ∧ read f.display = .ok f) ∧
    (∀ g : UInt64, g.toNat * weiPerGwei < bound ∧ (ofGwei g).wei = g.toNat * weiPerGwei ∧
      read s!"{g} gwei" = .ok (ofGwei g)) ∧
    ∀ f f' : Fee, f.display = f'.display ↔ f = f' := by
  refine ⟨fun w hw => ⟨⟨w, hw⟩, dif_pos hw, rfl, read_display _⟩,
    fun g => ⟨(ofGwei g).fits, rfl, read_gwei g⟩, fun f f' => ⟨fun h => ?_, fun h => h ▸ rfl⟩⟩
  have hread := read_display f
  rw [h, read_display f'] at hread
  exact (Except.ok.inj hread).symm

end Fee

end TwoStep
