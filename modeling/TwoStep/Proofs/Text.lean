import Mathlib.Data.List.Induction
import Mathlib.Data.List.TakeWhile
import TwoStep.Text.Basic
import TwoStep.Text.LowerCase

/-!
# Digits, letters and blanks

Which classes of characters have nothing in common, and what trimming leaves as
it is.
-/

namespace TwoStep.Text

theorem le_iff_toNat_le (c d : Char) : c ≤ d ↔ c.toNat ≤ d.toNat := Iff.rfl

theorem isDigit_iff {c : Char} : c.isDigit ↔ 48 ≤ c.toNat ∧ c.toNat ≤ 57 := by
  simp [Char.isDigit, UInt32.le_iff_toNat_le]

theorem toNat_of_isDigit {c : Char} (h : c.isDigit) : 48 ≤ c.toNat ∧ c.toNat ≤ 57 :=
  isDigit_iff.mp h

@[simp] theorem bytes_append (cs ds : List Char) : bytes (cs ++ ds) = bytes cs ++ bytes ds :=
  List.flatMap_append

theorem length_bytes (cs : List Char) : (bytes cs).length = byteLength cs := by
  induction cs with
  | nil => rfl
  | cons c cs ih =>
      rw [bytes, List.flatMap_cons, List.length_append, String.length_utf8EncodeChar]
      exact congrArg (c.utf8Size + ·) ih

/-- A character is one byte if it is ASCII; otherwise its first byte is not. -/
theorem bytes_cons_cases (c : Char) (cs : List Char) :
    (c.toNat < 128 ∧ bytes (c :: cs) = UInt8.ofNat c.toNat :: bytes cs) ∨
      128 ≤ c.toNat ∧ ∃ b rest, bytes (c :: cs) = b :: rest ∧ 128 ≤ b.toNat := by
  have hcons : bytes (c :: cs) = String.utf8EncodeChar c ++ bytes cs := List.flatMap_cons
  have hhead {n m : Nat} (h : m = 192 ∨ m = 224 ∨ m = 240) (hn : n < 256 - m) :
      128 ≤ (UInt8.ofNat (n + m)).toNat := by
    rw [UInt8.toNat_ofNat']
    omega
  rw [hcons, String.utf8EncodeChar]
  split
  · exact .inl ⟨by change c.toNat ≤ 127 at *; omega, rfl⟩
  · refine .inr ⟨by change ¬c.toNat ≤ 127 at *; omega, ?_⟩
    split
    · exact ⟨_, _, rfl, hhead (by omega) (by omega)⟩
    · split
      · exact ⟨_, _, rfl, hhead (by omega) (by omega)⟩
      · exact ⟨_, _, rfl, hhead (by omega) (by omega)⟩

/-- What holds of the first 128 characters holds of every ASCII character. -/
theorem forall_ascii {p : Char → Prop} (h : ∀ n < 128, p (Char.ofNat n)) :
    ∀ c : Char, c.toNat < 128 → p c := by
  intro c hc
  have hp := h c.toNat hc
  rwa [Char.ofNat_toNat] at hp

theorem byteLength_of_ascii {cs : List Char} (h : ∀ c ∈ cs, c.toNat < 128) :
    byteLength cs = cs.length := by
  induction cs with
  | nil => rfl
  | cons c cs ih =>
      obtain ⟨hc, hcs⟩ := List.forall_mem_cons.mp h
      obtain ⟨-, hbytes⟩ | ⟨hbig, -⟩ := bytes_cons_cases c cs
      · rw [← length_bytes, hbytes, List.length_cons, length_bytes, ih hcs, List.length_cons]
      · omega

theorem bytes_cons_digit {c : Char} (h : c.isDigit) (cs : List Char) :
    bytes (c :: cs) = UInt8.ofNat c.toNat :: bytes cs := by
  have hle : c.val.toNat ≤ 127 := Nat.le_trans (toNat_of_isDigit h).2 (by decide)
  have hone : String.utf8EncodeChar c = [UInt8.ofNat c.toNat] := if_pos hle
  rw [bytes, List.flatMap_cons, hone]
  rfl

theorem isBlank_of_isDigit {c : Char} (h : c.isDigit) : isBlank c = false := by
  obtain ⟨hlow, hhigh⟩ := toNat_of_isDigit h
  simp only [isBlank, Bool.or_eq_false_iff, Bool.and_eq_false_iff, decide_eq_false_iff_not,
    beq_eq_false_iff_ne]
  omega

theorem isAsciiLetter_of_isDigit {c : Char} (h : c.isDigit) : isAsciiLetter c = false := by
  obtain ⟨hlow, hhigh⟩ := toNat_of_isDigit h
  simp only [isAsciiLetter, le_iff_toNat_le, Char.reduceToNat, Bool.or_eq_false_iff,
    Bool.and_eq_false_iff, decide_eq_false_iff_not]
  omega

theorem isBlank_of_isAsciiLetter {c : Char} (h : isAsciiLetter c) : isBlank c = false := by
  simp only [isAsciiLetter, le_iff_toNat_le, Char.reduceToNat, Bool.or_eq_true, Bool.and_eq_true,
    decide_eq_true_eq] at h
  simp only [isBlank, Bool.or_eq_false_iff, Bool.and_eq_false_iff, decide_eq_false_iff_not,
    beq_eq_false_iff_ne]
  omega

theorem trimStart_eq_self {cs : List Char} (h : ∀ c ∈ cs.head?, isBlank c = false) :
    trimStart cs = cs := by
  cases cs with
  | nil => rfl
  | cons c cs => simp [trimStart, h c rfl]

theorem trimEnd_eq_self {cs : List Char} (h : ∀ c ∈ cs.getLast?, isBlank c = false) :
    trimEnd cs = cs := by
  obtain rfl | ⟨cs, c, rfl⟩ := cs.eq_nil_or_concat
  · rfl
  · simp [trimEnd, h c (by simp)]

theorem trimEnd_concat {c : Char} (h : isBlank c) (cs : List Char) :
    trimEnd (cs ++ [c]) = trimEnd cs := by
  simp [trimEnd, h]

/-! ## What trimming leaves -/

theorem head?_trim {cs : List Char} {c : Char} (h : (trim cs).head? = some c) :
    isBlank c = false := by
  have hprefix : trim cs <+: trimStart cs := List.reverse_suffix.mp
    (by rw [trim, trimEnd, List.reverse_reverse]; exact List.dropWhile_suffix _)
  obtain ⟨tail, htail⟩ := hprefix
  have hhead : (trimStart cs).head? = some c := by
    rw [← htail, List.head?_append, h]
    rfl
  have hnot := List.head?_dropWhile_not isBlank cs
  rw [← trimStart, hhead] at hnot
  exact hnot

theorem getLast?_trim {cs : List Char} {c : Char} (h : (trim cs).getLast? = some c) :
    isBlank c = false := by
  rw [trim, trimEnd, List.getLast?_reverse] at h
  have hnot := List.head?_dropWhile_not isBlank (trimStart cs).reverse
  rw [h] at hnot
  exact hnot

theorem trimEnd_append_blanks {cs blanks : List Char} (h : ∀ c ∈ blanks, isBlank c) :
    trimEnd (cs ++ blanks) = trimEnd cs := by
  induction blanks using List.reverseRecOn with
  | nil => rw [List.append_nil]
  | append_singleton blanks c ih =>
      obtain ⟨hblanks, hc⟩ := List.forall_mem_append.mp h
      rw [← List.append_assoc, trimEnd_concat (hc c (by simp)), ih hblanks]

/-- Trimming at the end takes off blanks only. -/
theorem exists_append_blanks (cs : List Char) :
    ∃ blanks, (∀ c ∈ blanks, isBlank c) ∧ cs = trimEnd cs ++ blanks := by
  refine ⟨(cs.reverse.takeWhile isBlank).reverse, fun c hc => ?_, ?_⟩
  · exact List.mem_takeWhile_imp (List.mem_reverse.mp hc)
  · rw [trimEnd, ← List.reverse_append, List.takeWhile_append_dropWhile, List.reverse_reverse]

/-- Trimming takes off blanks only. -/
theorem exists_blanks_append_trim (cs : List Char) :
    ∃ front back, (∀ c ∈ front, isBlank c) ∧ (∀ c ∈ back, isBlank c) ∧
      cs = front ++ trim cs ++ back := by
  obtain ⟨back, hback, heq⟩ := exists_append_blanks (trimStart cs)
  refine ⟨cs.takeWhile isBlank, back, fun c hc => List.mem_takeWhile_imp hc, hback, ?_⟩
  rw [trim, List.append_assoc, ← heq, trimStart, List.takeWhile_append_dropWhile]

theorem trimStart_append_blanks {front : List Char} (h : ∀ c ∈ front, isBlank c)
    (cs : List Char) : trimStart (front ++ cs) = trimStart cs := by
  induction front with
  | nil => rfl
  | cons c front ih =>
      obtain ⟨hc, hfront⟩ := List.forall_mem_cons.mp h
      rw [List.cons_append, trimStart, List.dropWhile_cons_of_pos hc]
      exact ih hfront

theorem trim_append_blanks {back cs : List Char} (hback : ∀ c ∈ back, isBlank c)
    (hcs : ∀ c ∈ cs, isBlank c = false) : trim (cs ++ back) = cs := by
  rw [trim]
  cases cs with
  | nil =>
      have hnone := trimStart_append_blanks hback []
      rw [List.append_nil] at hnone
      rw [List.nil_append, hnone]
      rfl
  | cons c cs =>
      have hstart : trimStart (c :: cs ++ back) = c :: cs ++ back :=
        trimStart_eq_self fun d hd => hcs d (List.mem_of_head? hd)
      rw [hstart, trimEnd_append_blanks hback]
      exact trimEnd_eq_self fun d hd => hcs d (List.mem_of_getLast? hd)

/-- Trimming takes off all blanks around a text without blanks. -/
theorem trim_between_blanks {front back cs : List Char} (hfront : ∀ c ∈ front, isBlank c)
    (hback : ∀ c ∈ back, isBlank c) (hcs : ∀ c ∈ cs, isBlank c = false) :
    trim (front ++ cs ++ back) = cs := by
  rw [List.append_assoc, trim, trimStart_append_blanks hfront]
  exact trim_append_blanks hback hcs

theorem trim_eq_self {cs : List Char} (h : ∀ c ∈ cs, isBlank c = false) : trim cs = cs := by
  have hnone : ∀ c ∈ ([] : List Char), isBlank c := fun c hc => nomatch hc
  have htrim := trim_append_blanks hnone h
  rwa [List.append_nil] at htrim

theorem mem_of_mem_trim {c : Char} {cs : List Char} (h : c ∈ trim cs) : c ∈ cs := by
  obtain ⟨front, back, -, -, heq⟩ := exists_blanks_append_trim cs
  rw [heq]
  exact List.mem_append_left back (List.mem_append_right front h)

end TwoStep.Text
