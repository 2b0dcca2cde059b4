import Mathlib.Algebra.Ring.Nat
import Mathlib.Tactic.SplitIfs
import TwoStep.Instant
import TwoStep.Proofs.Text

/-!
# Instants are read back from their text

The written form is a row of numbers of a fixed width, each behind the mark
that ends the one before it.  `takeDigits_padded` says that the reader takes such
a number whole, and each part of the text has its lemma from that; the date and
time is then read part by part.

The fraction is written in units of a milli-, a micro- or a nanosecond, as short
as nothing is lost; the reader fills up the digits that are left out.
-/

namespace TwoStep.Instant

/-! ## Numbers of a fixed width -/

/-- A text that does not go on with a digit. -/
def EndsNumber (cs : List Char) : Prop := ∀ c ∈ cs.head?, c.isDigit = false

theorem EndsNumber.cons {c : Char} (hc : c.isDigit = false) (cs : List Char) :
    EndsNumber (c :: cs) := by
  simpa [EndsNumber] using hc

theorem takeDigits_append {cs rest : List Char} (hdigits : ∀ c ∈ cs, c.isDigit = true)
    (hrest : EndsNumber rest) {limit : Nat} (hlimit : cs.length ≤ limit) (acc count : Nat) :
    takeDigits limit acc count (cs ++ rest) =
      (Nat.ofDigitChars 10 cs acc, count + cs.length, rest) := by
  induction cs generalizing limit acc count with
  | nil =>
      cases limit with
      | zero => rfl
      | succ limit =>
          cases rest with
          | nil => rfl
          | cons c rest =>
              have hc : ('0' ≤ c && c ≤ '9') = false := hrest c rfl
              simp [takeDigits, hc]
  | cons c cs ih =>
      obtain ⟨limit, rfl⟩ : ∃ l, limit = l + 1 := ⟨limit - 1, by simp at hlimit; omega⟩
      have hc : ('0' ≤ c && c ≤ '9') = true := hdigits c (by simp)
      rw [List.cons_append, takeDigits, if_pos hc,
        ih (fun d hd => hdigits d (by simp [hd])) (by simpa using hlimit),
        Nat.ofDigitChars_cons, List.length_cons]
      simp only [Prod.mk.injEq, and_true]
      exact ⟨rfl, by omega⟩

theorem isDigit_padded (width n : Nat) : ∀ c ∈ padded width n, c.isDigit = true := by
  intro c hc
  rcases List.mem_append.mp hc with hzero | hdigit
  · rw [List.eq_of_mem_replicate hzero]
    rfl
  · exact Nat.isDigit_of_mem_toDigits (by decide) (by decide) hdigit

theorem length_padded {width n : Nat} (hwidth : 0 < width) (hn : n < 10 ^ width) :
    (padded width n).length = width := by
  have hdigits : (Nat.toDigits 10 n).length ≤ width :=
    (Nat.length_toDigits_le_iff (by decide) hwidth).mpr hn
  rw [padded, List.length_append, List.length_replicate]
  omega

theorem ofDigitChars_padded (width n : Nat) : Nat.ofDigitChars 10 (padded width n) 0 = n := by
  rw [padded, Nat.ofDigitChars_append, Nat.ofDigitChars_replicate_zero, Nat.mul_zero,
    Nat.ofDigitChars_ten_toDigits]

theorem takeDigits_padded {width n limit : Nat} (hwidth : 0 < width) (hn : n < 10 ^ width)
    (hlimit : width ≤ limit) {rest : List Char} (hrest : EndsNumber rest) :
    takeDigits limit 0 0 (padded width n ++ rest) = (n, width, rest) := by
  have hlength := length_padded hwidth hn
  rw [takeDigits_append (isDigit_padded width n) hrest (by omega), ofDigitChars_padded, hlength,
    Nat.zero_add]

theorem padded_eq_cons (width n : Nat) : ∃ c cs, padded width n = c :: cs ∧ c.isDigit = true := by
  obtain ⟨c, cs, htext⟩ : ∃ c cs, padded width n = c :: cs :=
    List.exists_cons_of_ne_nil (by simp [padded, Nat.toDigits_ne_nil])
  exact ⟨c, cs, htext, isDigit_padded width n c (by simp [htext])⟩

/-! ## The parts -/

theorem trimStart_padded (width n : Nat) (rest : List Char) :
    Text.trimStart (padded width n ++ rest) = padded width n ++ rest := by
  obtain ⟨c, cs, htext, hc⟩ := padded_eq_cons width n
  exact Text.trimStart_eq_self (by simp [htext, Text.isBlank_of_isDigit hc])

theorem readNumber_padded {n : Nat} (hn : n < 100) {rest : List Char} (hrest : EndsNumber rest) :
    readNumber 2 (padded 2 n ++ rest) = some (n, rest) := by
  rw [readNumber, trimStart_padded,
    takeDigits_padded (by decide) (by omega) (Nat.le_refl 2) hrest]
  rfl

/-- Behind a sign a year is taken whole, however long it is. -/
theorem takeDigits_signed (n : Nat) {rest : List Char} (hrest : EndsNumber rest) :
    ∃ count, takeDigits (padded 4 n ++ rest).length 0 0 (padded 4 n ++ rest) =
      (n, count + 1, rest) := by
  obtain ⟨c, cs, htext, -⟩ := padded_eq_cons 4 n
  refine ⟨cs.length, ?_⟩
  rw [takeDigits_append (isDigit_padded 4 n) hrest (by simp), ofDigitChars_padded, htext,
    List.length_cons, Nat.zero_add]

theorem readYear_yearText (y : Int) {rest : List Char} (hrest : EndsNumber rest) :
    readYear (yearText y ++ rest) = some (y, rest) := by
  unfold yearText
  split_ifs with hfour hneg
  · have hdigits := takeDigits_padded (n := y.toNat) (by decide : 0 < 4) (by omega) (Nat.le_refl 4)
      hrest
    obtain ⟨c, cs, htext, hc⟩ := padded_eq_cons 4 y.toNat
    have hminus : c ≠ '-' := by rintro rfl; contradiction
    have hplus : c ≠ '+' := by rintro rfl; contradiction
    rw [readYear, trimStart_padded]
    rw [htext, List.cons_append] at hdigits ⊢
    simp [hminus, hplus, hdigits, Int.max_eq_left hfour.1]
  · obtain ⟨count, hdigits⟩ := takeDigits_signed y.natAbs hrest
    have habs : -(y.natAbs : Int) = y := by omega
    rw [List.cons_append, readYear, Text.trimStart_eq_self (by simp [Text.isBlank])]
    simp only [hdigits, habs]
  · obtain ⟨count, hdigits⟩ := takeDigits_signed y.natAbs hrest
    have habs : (y.natAbs : Int) = y := by omega
    rw [List.cons_append, readYear, Text.trimStart_eq_self (by simp [Text.isBlank])]
    simp only [hdigits, habs]

theorem readMark_cons (mark : Char) (h : Text.isBlank mark = false) (rest : List Char) :
    readMark mark (mark :: rest) = some rest := by
  rw [readMark, Text.trimStart_eq_self (by simpa using h)]
  simp

/-- The fraction has its digits filled up by as many zeros as were left out. -/
theorem readFraction_padded {width n : Nat} (hwidth : 0 < width) (hnine : width ≤ 9)
    (hn : n < 10 ^ width) (rest : List Char) :
    readFraction ('.' :: padded width n ++ 'Z' :: rest) =
      some (n * 10 ^ (9 - width), 'Z' :: rest) := by
  have hdigits := takeDigits_padded hwidth hn hnine (.cons (c := 'Z') rfl rest)
  rw [List.cons_append, readFraction, hdigits]
  obtain ⟨width, rfl⟩ : ∃ w, width = w + 1 := ⟨width - 1, by omega⟩
  rfl

theorem readFraction_fractionText {nano : Nat} (hnano : nano < 1000000000) (rest : List Char) :
    readFraction (fractionText nano ++ 'Z' :: rest) = some (nano, 'Z' :: rest) := by
  unfold fractionText
  split_ifs with hzero hmilli hmicro
  · rw [hzero]
    rfl
  · rw [readFraction_padded (by decide) (by decide) (by omega)]
    congr 2
    omega
  · rw [readFraction_padded (by decide) (by decide) (by omega)]
    congr 2
    omega
  · rw [readFraction_padded (by decide) (by decide) (by omega)]
    congr 2
    omega

theorem endsNumber_fractionText (nano : Nat) (rest : List Char) :
    EndsNumber (fractionText nano ++ 'Z' :: rest) := by
  unfold fractionText
  split_ifs <;> exact .cons rfl _

/-! ## The whole text -/

/-- An instant as a clock gives it: a time of a day of the calendar, in a leap
second only at the end of a minute. -/
structure Lawful (t : Instant) : Prop where
  valid : t.isValid = true
  calendar : t.inCalendar = true
  leap : 1000000000 ≤ t.nano → t.second = 59

/-- An instant of the calendar in a year of four digits, and not in a leap
second. -/
structure Ordinary (t : Instant) : Prop where
  valid : t.isValid = true
  first : 0 ≤ t.year
  last : t.year ≤ 9999
  noLeap : t.nano < 1000000000

theorem Ordinary.lawful {t : Instant} (h : t.Ordinary) : t.Lawful where
  valid := h.valid
  calendar := by
    have hfirst : firstYear ≤ t.year := Int.le_trans (by decide) h.first
    have hlast : t.year ≤ lastYear := Int.le_trans h.last (by decide)
    simp [inCalendar, hfirst, hlast]
  leap := fun hleap => absurd h.noLeap (Nat.not_lt.mpr hleap)

theorem daysInMonth_le (y : Int) (m : Nat) : daysInMonth y m ≤ 31 := by
  unfold daysInMonth
  split_ifs <;> omega

/-- A leap second is written as the sixtieth, and is the only second that is. -/
theorem Lawful.second_add_leap {t : Instant} (h : t.Lawful) :
    t.second + t.nano / 1000000000 < 100 ∧
      (if t.second + t.nano / 1000000000 = 60 then 59 else t.second + t.nano / 1000000000) =
        t.second ∧
      (if t.second + t.nano / 1000000000 = 60 then t.nano % 1000000000 + 1000000000
        else t.nano % 1000000000) = t.nano := by
  have hvalid := h.valid
  have hleap := h.leap
  simp only [isValid, Bool.and_eq_true, decide_eq_true_eq] at hvalid
  split_ifs <;> omega

/-- An instant is read back from its text. -/
theorem read_display {t : Instant} (h : t.Lawful) : read t.display = some t := by
  have hvalid := h.valid
  simp only [isValid, Bool.and_eq_true, decide_eq_true_eq] at hvalid
  obtain ⟨⟨⟨⟨⟨⟨⟨-, hmonth⟩, -⟩, hday⟩, hhour⟩, hminute⟩, -⟩, -⟩ := hvalid
  have hdays := daysInMonth_le t.year t.month
  obtain ⟨hsecond, hsixty, hnano⟩ := h.second_add_leap
  have htext : t.display.toList = yearText t.year ++ '-' :: (padded 2 t.month ++ '-' ::
      (padded 2 t.day ++ 'T' :: (padded 2 t.hour ++ ':' :: (padded 2 t.minute ++ ':' ::
        (padded 2 (t.second + t.nano / 1000000000) ++
          (fractionText (t.nano % 1000000000) ++ ['Z'])))))) := by
    simp [display]
  rw [read, htext]
  refine Option.bind_eq_some_iff.mpr ⟨_, readYear_yearText t.year (.cons rfl _), ?_⟩
  refine Option.bind_eq_some_iff.mpr ⟨_, readMark_cons '-' rfl _, ?_⟩
  refine Option.bind_eq_some_iff.mpr ⟨_, readNumber_padded (by omega) (.cons rfl _), ?_⟩
  refine Option.bind_eq_some_iff.mpr ⟨_, readMark_cons '-' rfl _, ?_⟩
  refine Option.bind_eq_some_iff.mpr ⟨_, readNumber_padded (by omega) (.cons rfl _), ?_⟩
  refine Option.bind_eq_some_iff.mpr ⟨_, readNumber_padded (by omega) (.cons rfl _), ?_⟩
  refine Option.bind_eq_some_iff.mpr ⟨_, readMark_cons ':' rfl _, ?_⟩
  refine Option.bind_eq_some_iff.mpr ⟨_, readNumber_padded (by omega) (.cons rfl _), ?_⟩
  refine Option.bind_eq_some_iff.mpr ⟨_, readMark_cons ':' rfl _, ?_⟩
  refine Option.bind_eq_some_iff.mpr
    ⟨_, readNumber_padded hsecond (endsNumber_fractionText _ []), ?_⟩
  refine Option.bind_eq_some_iff.mpr
    ⟨_, readFraction_fractionText (Nat.mod_lt _ (by decide)) [], ?_⟩
  refine Option.bind_eq_some_iff.mpr ⟨(0, []), rfl, ?_⟩
  have hend : Text.trimStart [] = [] := rfl
  have hutc : t.minusMinutes 0 = t := rfl
  simp [hsixty, hnano, hend, hutc, h.valid, h.calendar]

/-- The last moment of a year before the year zero, in a leap second. -/
example : Lawful ⟨-1, 12, 31, 23, 59, 59, 1999999999⟩ :=
  ⟨by decide, by decide, fun _ => rfl⟩

end TwoStep.Instant
