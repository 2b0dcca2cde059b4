import Mathlib.Data.List.TakeWhile
import TwoStep.Proofs.LowerCase
import TwoStep.Settings.Merge

/-!
# The names of settings as paths

Sections and settings are named by words of small letters and underscores.
Such a word is its own lower case (`lowered_of_isName`), and that of its capitals
(`lowered_capitals`).  Read as a path it is one key (`ofText_of_isName`); two of
them with a point between are a path of two keys (`ofText_of_isName_of_isName`).
-/

namespace TwoStep

namespace Text

/-- Characters of the names of sections and fields. -/
def isNameChar (c : Char) : Bool := ('a' ≤ c && c ≤ 'z') || c == '_'

/-- Whether a text is such a name. -/
def isName (s : String) : Bool := !s.toList.isEmpty && s.toList.all isNameChar

theorem isName_iff {s : String} :
    isName s = true ↔ s.toList ≠ [] ∧ ∀ c ∈ s.toList, isNameChar c = true := by
  simp [isName]

theorem toNat_lt_of_isNameChar {c : Char} (h : isNameChar c = true) : c.toNat < 0x80 := by
  simp only [isNameChar, Bool.or_eq_true, Bool.and_eq_true, decide_eq_true_eq, beq_iff_eq] at h
  obtain ⟨-, hz⟩ | rfl := h
  · exact Nat.lt_of_le_of_lt (UInt32.le_iff_toNat_le.mp (Char.le_def.mp hz)) (by decide)
  · decide

/-- The characters of names, small and in capitals, in lower case. -/
theorem lowerChar_of_isNameChar {c : Char} (h : isNameChar c = true) :
    (lowerChar c = [c] ∧ c ≠ 'Σ') ∧ lowerChar c.toUpper = [c] ∧ c.toUpper ≠ 'Σ' := by
  have hall : ∀ c : Char, c.toNat < 128 → isNameChar c = true →
      (lowerChar c = [c] ∧ c ≠ 'Σ') ∧ lowerChar c.toUpper = [c] ∧ c.toUpper ≠ 'Σ' :=
    forall_ascii (by decide +kernel)
  exact hall c (toNat_lt_of_isNameChar h) h

/-- A name is its own lower case. -/
theorem lowered_of_isName {name : String} (h : isName name = true) : lowered name = name := by
  rw [lowered, lower_eq_self fun c hc => (lowerChar_of_isNameChar ((isName_iff.mp h).2 c hc)).1,
    String.ofList_toList]

/-- A name in capitals is the name in lower case. -/
theorem lowered_capitals {name : String} (h : isName name = true) :
    lowered (String.ofList (name.toList.map Char.toUpper)) = name := by
  have hmap := lowerFrom_map (f := Char.toUpper)
    (fun c hc => (lowerChar_of_isNameChar ((isName_iff.mp h).2 c hc)).2) []
  rw [lowered, lower, String.toList_ofList, hmap, String.ofList_toList]

end Text

namespace Settings.Path

theorem isKeyChar_of_isNameChar {c : Char} (h : Text.isNameChar c = true) :
    isKeyChar c = true := by
  simp only [Text.isNameChar, Bool.or_eq_true, Bool.and_eq_true, decide_eq_true_eq] at h
  simp only [isKeyChar, Text.isAsciiLetter, Bool.or_eq_true, Bool.and_eq_true, decide_eq_true_eq]
  rcases h with h | h
  · exact Or.inl (Or.inl (Or.inl (Or.inl (Or.inl h))))
  · exact Or.inl (Or.inr h)

variable {name : String}

/-- A name in front of a text that goes on with something else is a key. -/
theorem keyPart_of_isName (h : Text.isName name = true) (rest : List Char)
    (hrest : ∀ c ∈ rest.head?, isKeyChar c = false) :
    keyPart (name.toList ++ rest) = some (name, rest) := by
  obtain ⟨hne, hchars⟩ := Text.isName_iff.mp h
  have hkey : ∀ c ∈ name.toList, isKeyChar c = true :=
    fun c hc => isKeyChar_of_isNameChar (hchars c hc)
  have hstop : rest.takeWhile isKeyChar = [] ∧ rest.dropWhile isKeyChar = rest := by
    cases rest with
    | nil => simp
    | cons c rest => simp [hrest c rfl]
  have htake : (name.toList ++ rest).takeWhile isKeyChar = name.toList := by
    rw [List.takeWhile_append_of_pos hkey, hstop.1, List.append_nil]
  have hdrop : (name.toList ++ rest).dropWhile isKeyChar = rest := by
    rw [List.dropWhile_append_of_pos hkey, hstop.2]
  rw [keyPart, htake, hdrop]
  split
  · contradiction
  · exact congrArg (fun k => some (k, rest)) (Text.lowered_of_isName h)

theorem ofText_of_isName (h : Text.isName name = true) : Path.ofText name = ⟨name, []⟩ := by
  have hpart := keyPart_of_isName h [] (by simp)
  rw [List.append_nil] at hpart
  simp [ofText, parse?, hpart, stepsPart]

theorem ofText_of_isName_of_isName (h : Text.isName name = true) {key : String}
    (hkey : Text.isName key = true) :
    Path.ofText (name ++ "." ++ key) = ⟨name, [.key key]⟩ := by
  have hpoint : ∀ c ∈ ('.' :: key.toList).head?, isKeyChar c = false := by
    rintro c hc
    obtain rfl := Option.mem_some_iff.mp hc
    decide
  have hhead := keyPart_of_isName h ('.' :: key.toList) hpoint
  have hstep := keyPart_of_isName hkey [] (by simp)
  rw [List.append_nil] at hstep
  simp [ofText, parse?, hhead, stepsPart, hstep]

end Settings.Path

end TwoStep
