import TwoStep.Proofs.Text

/-!
# Texts in lower case stay as they are

The images of the runs of capitals miss all these runs: either they lie apart
or, where capitals and small letters take turns, between the capitals
(`misses_capitalRuns`).  So what the lower-case mapping gives has no capital
left in it (`isLower_of_mem_lower`), and a text without capitals is its own lower
case (`lower_eq_self`).
-/

namespace TwoStep.Text

/-! ## Runs and their images -/

namespace Shift

def image (r : Shift) (n : Nat) : Nat := Int.toNat (n + r.offset)

/-- Images from `low` to `high` are not in a run: one lies behind the other, or
both take every second code point and they take turns. -/
def missedBy (low high step : Nat) (s : Shift) : Bool :=
  Nat.blt high s.first || Nat.blt s.last low ||
    (Nat.beq step 2 || Nat.beq low high) && (Nat.beq s.step 2 && Nat.beq ((low + s.first) % 2) 1)

/-- The images of a run are in none of some runs. -/
def misses (r : Shift) (runs : List Shift) : Bool :=
  decide (0 ≤ r.first + r.offset) &&
    runs.all (missedBy (r.image r.first) (r.image r.last) r.step)

theorem holds_iff {r : Shift} {n : Nat} :
    r.holds n ↔ r.first ≤ n ∧ n ≤ r.last ∧ (n - r.first) % r.step = 0 := by
  simp [holds, and_assoc]

theorem not_holds_image {r s : Shift} {runs : List Shift} (hmisses : r.misses runs) (hs : s ∈ runs)
    {n : Nat} (hn : r.holds n) : ¬s.holds (r.image n) := by
  obtain ⟨hlow, hhigh, hturn⟩ := holds_iff.mp hn
  simp only [misses, Bool.and_eq_true, decide_eq_true_eq, List.all_eq_true] at hmisses
  obtain ⟨hfirst, hall⟩ := hmisses
  have hmissed := hall s hs
  simp only [missedBy, image, Bool.or_eq_true, Bool.and_eq_true, Nat.blt_eq, Nat.beq_eq]
    at hmissed
  rw [holds_iff, image]
  rintro ⟨hlow', hhigh', hturn'⟩
  obtain (hbehind | hbefore) | ⟨hstep, hstep', hparity⟩ := hmissed
  · omega
  · omega
  · rw [hstep'] at hturn'
    obtain hstep | hsingle := hstep
    · rw [hstep] at hturn
      omega
    · omega

theorem image?_eq_some {runs : List Shift} {n m : Nat} (h : image? runs n = some m) :
    ∃ r ∈ runs, r.holds n ∧ m = r.image n := by
  obtain ⟨r, hr, rfl⟩ := Option.map_eq_some_iff.mp h
  have hholds : r.holds n := by simpa using List.find?_some hr
  exact ⟨r, List.mem_of_find?_eq_some hr, hholds, rfl⟩

theorem image?_eq_none_iff {runs : List Shift} {n : Nat} :
    image? runs n = none ↔ ∀ r ∈ runs, ¬r.holds n := by
  rw [image?, Option.map_eq_none_iff, List.find?_eq_none]

end Shift

/-- All code points that have a small letter: the runs and the dotted capital I. -/
def capitals : List Shift := ⟨0x130, 0x130, 1, 0⟩ :: capitalRuns

theorem misses_capitalRuns : capitalRuns.all (·.misses capitals) = true := by
  decide +kernel

/-! ## Characters -/

/-- A character that is its own lower case wherever it stands in a text. -/
def IsLower (c : Char) : Prop := lowerChar c = [c] ∧ c ≠ 'Σ'

theorem isLower_of_not_holds {c : Char} (h : ∀ r ∈ capitals, ¬r.holds c.toNat) : IsLower c := by
  obtain ⟨hdotted, hruns⟩ := List.forall_mem_cons.mp h
  have hne : c.toNat ≠ 0x130 := fun heq => hdotted (by rw [heq]; decide)
  constructor
  · rw [lowerChar, if_neg (by simpa using hne), Shift.image?_eq_none_iff.mpr hruns]
  · rintro rfl
    have hsigma : Shift.image? capitalRuns 'Σ'.toNat = some 'σ'.toNat := by decide +kernel
    rw [Shift.image?_eq_none_iff.mpr hruns] at hsigma
    cases hsigma

/-- A character that is no capital, or none at all. -/
theorem isLower_ofNat {n : Nat} (h : ∀ r ∈ capitals, ¬r.holds n) : IsLower (Char.ofNat n) := by
  by_cases hvalid : n.isValidChar
  · have hcode : (Char.ofNat n).toNat = n := by
      rw [Char.ofNat, dif_pos hvalid]
      rfl
    exact isLower_of_not_holds (by rwa [hcode])
  · have hzero : Char.ofNat n = '\x00' := by
      rw [Char.ofNat, dif_neg hvalid]
      rfl
    rw [hzero]
    exact ⟨by decide +kernel, by decide⟩

theorem isLower_of_mem_lowerChar {c d : Char} (h : d ∈ lowerChar c) : IsLower d := by
  rw [lowerChar] at h
  split at h
  case isTrue =>
    obtain rfl | rfl : d = 'i' ∨ d = Char.ofNat 0x307 := by simpa using h
    · exact ⟨by decide +kernel, by decide⟩
    · exact ⟨by decide +kernel, by decide⟩
  case isFalse hdotted =>
    split at h
    case h_1 n himage =>
      obtain rfl := List.mem_singleton.mp h
      obtain ⟨r, hr, hholds, rfl⟩ := Shift.image?_eq_some himage
      have hmisses := List.all_eq_true.mp misses_capitalRuns r hr
      exact isLower_ofNat fun s hs => Shift.not_holds_image hmisses hs hholds
    case h_2 himage =>
      obtain rfl := List.mem_singleton.mp h
      refine isLower_of_not_holds (List.forall_mem_cons.mpr ⟨fun hholds => ?_, ?_⟩)
      · obtain ⟨hlow, hhigh, -⟩ := Shift.holds_iff.mp hholds
        exact hdotted (beq_iff_eq.mpr (Nat.le_antisymm hhigh hlow))
      · exact Shift.image?_eq_none_iff.mp himage

/-! ## Texts -/

theorem isLower_of_mem_lowerFrom {c : Char} {before cs : List Char}
    (h : c ∈ lowerFrom before cs) : IsLower c := by
  induction cs generalizing before with
  | nil => cases h
  | cons d cs ih =>
      rw [lowerFrom, List.mem_append] at h
      obtain hfirst | hrest := h
      · split at hfirst
        · obtain rfl := List.mem_singleton.mp hfirst
          exact ⟨by decide +kernel, by decide⟩
        · exact isLower_of_mem_lowerChar hfirst
      · exact ih hrest

theorem isLower_of_mem_lower {c : Char} {cs : List Char} (h : c ∈ lower cs) : IsLower c :=
  isLower_of_mem_lowerFrom h

theorem lowerFrom_map {f : Char → Char} {cs : List Char}
    (h : ∀ c ∈ cs, lowerChar (f c) = [c] ∧ f c ≠ 'Σ') (before : List Char) :
    lowerFrom before (cs.map f) = cs := by
  induction cs generalizing before with
  | nil => rfl
  | cons c cs ih =>
      obtain ⟨⟨hlower, hsigma⟩, hcs⟩ := List.forall_mem_cons.mp h
      simp [lowerFrom, beq_false_of_ne hsigma, hlower, ih hcs]

theorem lower_eq_self {cs : List Char} (h : ∀ c ∈ cs, IsLower c) : lower cs = cs := by
  have hmap := lowerFrom_map (f := id) h []
  rwa [List.map_id] at hmap

end TwoStep.Text
