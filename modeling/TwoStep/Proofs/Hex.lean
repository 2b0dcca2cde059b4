import Mathlib.Data.List.Forall2
import Mathlib.Data.Nat.Digits.Defs
import Mathlib.Tactic.Ring
import TwoStep.Chain.Call
import TwoStep.Proofs.Text

/-!
# Which texts are hexadecimal numbers

The grammar of a hexadecimal text is told in characters: a marker that may be
missing, and digits in either case.  The reader works on bytes, takes the marker
off before it looks at a single digit, and checks the parity of the length before
it knows how much of it is the marker.

That none of this leaves a gap rests on two facts.  A byte with a value is an
ASCII character that is a digit, so what is accepted byte by byte is spelled
character by character (`exists_denotes_of_readDigits`); and no digit is an `x`,
so digits are never taken for a marker (`dropMarker_denotes`).  `read_of_spells`
gives the outcome for every text that spells digits at all, and `read_eq_ok_iff`
says that no other text is accepted.

The digits that are written for a number spell it, so it is read back
(`read_marked`).  A number that is kept in bytes is likewise told by them
(`toBytes_inj`).
-/

namespace TwoStep

open Text

namespace Hex

/-! ## Digits -/

/-- The character is the digit of a value, in either case. -/
def Denotes (c : Char) (v : Nat) : Prop :=
  v < 16 ∧ c.toLower = digit v

theorem Denotes.ascii {c : Char} {v : Nat} (h : Denotes c v) : c.toNat < 128 := by
  have hall : ∀ v < 16, (digit v).toNat < 128 := by decide
  obtain ⟨hv, hc⟩ := h
  delta Char.toLower at hc
  split at hc
  · rename_i hcapital
    have hlast : c.toNat ≤ 90 := hcapital.2
    omega
  · rw [hc]
    exact hall v hv

/-- A byte has a value iff its character is the digit of it. -/
theorem value?_eq_some_iff {c : Char} (hc : c.toNat < 128) {v : Nat} :
    value? (UInt8.ofNat c.toNat) = some v ↔ Denotes c v := by
  have hvalue : ∀ c : Char, c.toNat < 128 → ∀ v ∈ value? (UInt8.ofNat c.toNat),
      v < 16 ∧ c.toLower = digit v := forall_ascii (by decide)
  have hdigit : ∀ c : Char, c.toNat < 128 → ∀ v < 16, c.toLower = digit v →
      value? (UInt8.ofNat c.toNat) = some v := forall_ascii (by decide +kernel)
  constructor
  · intro h
    exact hvalue c hc v h
  · rintro ⟨hv, hlower⟩
    exact hdigit c hc v hv hlower

theorem value?_of_large {b : UInt8} (h : 128 ≤ b.toNat) : value? b = none := by
  simp only [value?, Bool.and_eq_true, decide_eq_true_eq]
  rw [if_neg (by omega), if_neg (by omega), if_neg (by omega)]

theorem Denotes.isBlank {c : Char} {v : Nat} (h : Denotes c v) : isBlank c = false := by
  have hall : ∀ c : Char, c.toNat < 128 → ∀ v < 16, c.toLower = digit v →
      Text.isBlank c = false := forall_ascii (by decide +kernel)
  exact hall c h.ascii v h.1 h.2

theorem Denotes.ne_marker {c : Char} {v : Nat} (h : Denotes c v) : c ≠ 'x' ∧ c ≠ 'X' := by
  have hall : ∀ v < 16, 'x' ≠ digit v := by decide
  constructor
  · rintro rfl
    exact hall v h.1 h.2
  · rintro rfl
    exact hall v h.1 h.2

/-! ## Numbers -/

/-- The number with digits of the given values, the highest first. -/
def number (vs : List Nat) : Nat :=
  Nat.ofDigits 16 vs.reverse

theorem number_cons (v : Nat) (vs : List Nat) :
    number (v :: vs) = 16 ^ vs.length * v + number vs := by
  rw [number, List.reverse_cons, Nat.ofDigits_append, Nat.ofDigits_singleton, List.length_reverse,
    Nat.add_comm, number]

theorem number_concat (vs : List Nat) (v : Nat) : number (vs ++ [v]) = 16 * number vs + v := by
  rw [number, List.reverse_append, List.reverse_singleton, List.singleton_append,
    Nat.ofDigits_cons, Nat.add_comm, number]

theorem number_lt {cs : List Char} {vs : List Nat} (h : List.Forall₂ Denotes cs vs) :
    number vs < 16 ^ vs.length := by
  induction h with
  | nil => exact Nat.one_pos
  | @cons c v cs vs hc _ ih =>
      have hv : v + 1 ≤ 16 := hc.1
      rw [number_cons, List.length_cons]
      calc 16 ^ vs.length * v + number vs
          < 16 ^ vs.length * (v + 1) := by rw [Nat.mul_succ]; omega
        _ ≤ 16 ^ vs.length * 16 := Nat.mul_le_mul_left _ hv
        _ = 16 ^ (vs.length + 1) := (Nat.pow_succ ..).symm

/-- The digits of a number that fits denote it. -/
theorem exists_denotes_digits {width n : Nat} (hn : n < 16 ^ width) :
    ∃ vs, List.Forall₂ Denotes (digits width n) vs ∧ vs.length = width ∧ number vs = n := by
  have hdigit : ∀ v < 16, (digit v).toLower = digit v := by decide
  induction width generalizing n with
  | zero =>
      obtain rfl : n = 0 := by simpa using hn
      exact ⟨[], .nil, rfl, rfl⟩
  | succ width ih =>
      obtain ⟨vs, hvs, hlength, hnumber⟩ := ih (n := n / 16) (by rw [Nat.pow_succ] at hn; omega)
      have hlast : n % 16 < 16 := Nat.mod_lt n (by decide)
      refine ⟨vs ++ [n % 16], ?_, ?_, ?_⟩
      · exact List.rel_append hvs (.cons ⟨hlast, hdigit _ hlast⟩ .nil)
      · rw [List.length_append, hlength, List.length_singleton]
      · rw [number_concat, hnumber]
        exact Nat.div_add_mod n 16

/-- Digits are read behind those that make up `acc`. -/
theorem readDigits_denotes {cs : List Char} {vs : List Nat} (h : List.Forall₂ Denotes cs vs)
    (acc position : Nat) :
    readDigits acc position (bytes cs) = .ok (16 ^ vs.length * acc + number vs) := by
  induction h generalizing acc position with
  | nil => simp [bytes, readDigits, number]
  | @cons c v cs vs hc hcs ih =>
      obtain ⟨-, hbytes⟩ | ⟨hlarge, -⟩ := bytes_cons_cases c cs
      · rw [hbytes, readDigits, (value?_eq_some_iff hc.ascii).mpr hc]
        simp only [ih, number_cons, List.length_cons, Nat.pow_succ]
        congr 1
        ring
      · have hsmall := hc.ascii
        omega

/-- Nothing but digits is read. -/
theorem exists_denotes_of_readDigits {cs : List Char} {acc position n : Nat}
    (h : readDigits acc position (bytes cs) = .ok n) : ∃ vs, List.Forall₂ Denotes cs vs := by
  induction cs generalizing acc position with
  | nil => exact ⟨[], .nil⟩
  | cons c cs ih =>
      obtain ⟨hc, hbytes⟩ | ⟨-, b, rest, hbytes, hb⟩ := bytes_cons_cases c cs
      · rw [hbytes, readDigits] at h
        split at h
        · rename_i v hv
          obtain ⟨vs, hvs⟩ := ih h
          exact ⟨v :: vs, .cons ((value?_eq_some_iff hc).mp hv) hvs⟩
        · cases h
      · rw [hbytes, readDigits, value?_of_large hb] at h
        cases h

theorem forall_ascii_of_denotes {cs : List Char} {vs : List Nat}
    (h : List.Forall₂ Denotes cs vs) : ∀ c ∈ cs, c.toNat < 128 := by
  induction h with
  | nil => simp
  | cons hc _ ih => exact List.forall_mem_cons.mpr ⟨hc.ascii, ih⟩

theorem length_bytes_denotes {cs : List Char} {vs : List Nat} (h : List.Forall₂ Denotes cs vs) :
    (bytes cs).length = vs.length := by
  rw [length_bytes, byteLength_of_ascii (forall_ascii_of_denotes h), h.length_eq]

/-! ## Markers -/

/-- What may stand in front of the digits. -/
inductive Marker : List Char → Prop where
  | absent : Marker []
  | lower : Marker ['0', 'x']
  | upper : Marker ['0', 'X']

theorem exists_cons_of_bytes_eq {cs : List Char} {b : UInt8} {rest : List UInt8}
    (h : bytes cs = b :: rest) (hb : b.toNat < 128) :
    ∃ cs', cs = Char.ofNat b.toNat :: cs' ∧ bytes cs' = rest := by
  cases cs with
  | nil => cases h
  | cons c cs =>
      obtain ⟨hc, hbytes⟩ | ⟨-, b', rest', hbytes, hb'⟩ := bytes_cons_cases c cs
      · obtain ⟨rfl, rfl⟩ := List.cons.inj (hbytes.symm.trans h)
        have hnat : (UInt8.ofNat c.toNat).toNat = c.toNat :=
          UInt8.toNat_ofNat_of_lt (Nat.lt_trans hc (by decide))
        exact ⟨cs, by rw [hnat, Char.ofNat_toNat], rfl⟩
      · obtain ⟨rfl, -⟩ := List.cons.inj (hbytes.symm.trans h)
        omega

/-- Nothing but a marker is taken off. -/
theorem exists_marker_of_dropMarker (cs : List Char) :
    ∃ marker rest, Marker marker ∧ cs = marker ++ rest ∧ dropMarker (bytes cs) = bytes rest := by
  unfold dropMarker
  split
  · rename_i rest hbytes
    obtain ⟨cs, rfl, hcs⟩ := exists_cons_of_bytes_eq hbytes (by decide)
    obtain ⟨cs, rfl, rfl⟩ := exists_cons_of_bytes_eq hcs (by decide)
    exact ⟨['0', 'x'], cs, .lower, rfl, rfl⟩
  · rename_i rest hbytes
    obtain ⟨cs, rfl, hcs⟩ := exists_cons_of_bytes_eq hbytes (by decide)
    obtain ⟨cs, rfl, rfl⟩ := exists_cons_of_bytes_eq hcs (by decide)
    exact ⟨['0', 'X'], cs, .upper, rfl, rfl⟩
  · exact ⟨[], cs, .absent, rfl, rfl⟩

/-- A marker is taken off from digits, and no digits are taken for one. -/
theorem dropMarker_denotes {marker cs : List Char} {vs : List Nat} (hmarker : Marker marker)
    (h : List.Forall₂ Denotes cs vs) : dropMarker (bytes (marker ++ cs)) = bytes cs := by
  cases hmarker with
  | lower => rfl
  | upper => rfl
  | absent =>
      obtain ⟨marker, rest, hmarker, rfl, hdrop⟩ := exists_marker_of_dropMarker cs
      rw [List.nil_append, hdrop]
      cases hmarker with
      | absent => rfl
      | lower =>
          obtain - | ⟨-, - | ⟨hx, -⟩⟩ := h
          exact absurd rfl hx.ne_marker.1
      | upper =>
          obtain - | ⟨-, - | ⟨hx, -⟩⟩ := h
          exact absurd rfl hx.ne_marker.2

/-! ## Texts -/

/-- A text of digits with the given values, behind a marker or without one. -/
def Spells (cs : List Char) (vs : List Nat) : Prop :=
  ∃ marker ds, Marker marker ∧ List.Forall₂ Denotes ds vs ∧ cs = marker ++ ds

theorem Spells.number_lt {cs : List Char} {vs : List Nat} (h : Spells cs vs) :
    number vs < 16 ^ vs.length := by
  obtain ⟨marker, ds, -, hds, -⟩ := h
  exact Hex.number_lt hds

theorem Spells.isBlank {cs : List Char} {vs : List Nat} (h : Spells cs vs) :
    ∀ c ∈ cs, Text.isBlank c = false := by
  obtain ⟨marker, ds, hmarker, hds, rfl⟩ := h
  refine List.forall_mem_append.mpr ⟨?_, ?_⟩
  · cases hmarker with
    | absent => simp
    | lower => simp [Text.isBlank]
    | upper => simp [Text.isBlank]
  · induction hds with
    | nil => simp
    | cons hc _ ih => exact List.forall_mem_cons.mpr ⟨hc.isBlank, ih⟩

/-- What is made of a text of digits depends on how many they are. -/
theorem read_of_spells {width : Nat} {s : String} {vs : List Nat} (h : Spells s.toList vs) :
    read width s =
      if vs.length % 2 = 1 then .error .oddLength
      else if vs.length = width then .ok (number vs) else .error .badLength := by
  obtain ⟨marker, ds, hmarker, hds, htext⟩ := h
  have hparity : (bytes (marker ++ ds)).length % 2 = vs.length % 2 := by
    rw [bytes_append, List.length_append, length_bytes_denotes hds]
    cases hmarker with
    | absent => exact congrArg (· % 2) (Nat.zero_add vs.length)
    | lower => exact Nat.add_mod_left 2 vs.length
    | upper => exact Nat.add_mod_left 2 vs.length
  have hdigits := readDigits_denotes hds 0 0
  rw [Nat.mul_zero, Nat.zero_add] at hdigits
  simp only [read, htext, hparity, dropMarker_denotes hmarker hds, length_bytes_denotes hds,
    hdigits]

/-- A text is read as a number iff it spells the number with as many digits as are
expected. -/
theorem read_eq_ok_iff {width : Nat} (heven : width % 2 = 0) {s : String} {n : Nat} :
    read width s = .ok n ↔ ∃ vs, Spells s.toList vs ∧ vs.length = width ∧ number vs = n := by
  constructor
  · intro h
    obtain ⟨marker, rest, hmarker, htext, hdrop⟩ := exists_marker_of_dropMarker s.toList
    have hdigits : readDigits 0 0 (bytes rest) = .ok n := by
      rw [← hdrop]
      simp only [read] at h
      split at h
      · cases h
      · split at h
        · exact h
        · cases h
    obtain ⟨vs, hvs⟩ := exists_denotes_of_readDigits hdigits
    have hspells : Spells s.toList vs := ⟨marker, rest, hmarker, hvs, htext⟩
    rw [read_of_spells hspells] at h
    split at h
    · cases h
    · split at h
      · rename_i hlength
        exact ⟨vs, hspells, hlength, Except.ok.inj h⟩
      · cases h
  · rintro ⟨vs, hspells, rfl, rfl⟩
    rw [read_of_spells hspells, if_neg (by omega), if_pos rfl]

/-- A number that fits is read back from its digits behind a marker. -/
theorem read_marked {width n : Nat} (heven : width % 2 = 0) (hn : n < 16 ^ width) :
    read width (String.ofList ('0' :: 'x' :: digits width n)) = .ok n := by
  obtain ⟨vs, hvs, hlength, hnumber⟩ := exists_denotes_digits hn
  refine (read_eq_ok_iff heven).mpr ⟨vs, ⟨['0', 'x'], digits width n, .lower, hvs, ?_⟩, hlength,
    hnumber⟩
  rw [String.toList_ofList]
  rfl

/-! ## Bytes -/

theorem length_toBytes (count n : Nat) : (toBytes count n).length = count := by
  induction count generalizing n with
  | zero => rfl
  | succ count ih => simp [toBytes, ih]

theorem ofBytes_concat (bs : List Nat) (b : Nat) : ofBytes (bs ++ [b]) = 256 * ofBytes bs + b := by
  simp [ofBytes]

/-- A number that fits is spelled by its bytes. -/
theorem ofBytes_toBytes {count n : Nat} (hn : n < 256 ^ count) :
    ofBytes ((toBytes count n).map UInt8.toNat) = n := by
  induction count generalizing n with
  | zero =>
      obtain rfl : n = 0 := by simpa using hn
      rfl
  | succ count ih =>
      have hinit := ih (n := n / 256) (by rw [Nat.pow_succ] at hn; omega)
      have hlast : (UInt8.ofNat (n % 256)).toNat = n % 256 :=
        UInt8.toNat_ofNat_of_lt (Nat.mod_lt n (by decide))
      rw [toBytes, List.map_append, List.map_singleton, ofBytes_concat, hinit, hlast]
      exact Nat.div_add_mod n 256

/-- Numbers that fit are told apart by their bytes. -/
theorem toBytes_inj {count n m : Nat} (hn : n < 256 ^ count) (hm : m < 256 ^ count)
    (h : toBytes count n = toBytes count m) : n = m := by
  rw [← ofBytes_toBytes hn, h, ofBytes_toBytes hm]

end Hex

theorem Address.read_hex (a : Address) : Address.read a.hex = .ok a := by
  have hbound : a.bits.toNat < 16 ^ 40 := a.bits.isLt
  rw [Address.read, Address.hex, Address.digits, Hex.read_marked (by decide) hbound]
  simp [Except.map]

theorem TxHash.read_hex (h : TxHash) : TxHash.read h.hex = .ok h := by
  have hbound : h.bits.toNat < 16 ^ 64 := h.bits.isLt
  rw [TxHash.read, TxHash.hex, Hex.read_marked (by decide) hbound]
  simp [Except.map]

/-! ## Call data is read back

A nomination is a selector with an argument behind it, an acceptance is a bare
selector, so their lengths tell the two calls apart; the argument holds all
bytes of the address.  `ofData?_data` says that nothing else is needed to know
a call from its data.
-/

theorem Keccak.length_hash (msg : List UInt8) : (Keccak.hash msg).length = 32 := by
  simp only [Keccak.hash, Keccak.bytesOfWord, List.length_flatMap, List.length_map,
    List.length_range]
  rfl

theorem length_selector (signature : String) : (selector signature).length = 4 := by
  rw [selector, List.length_take, Keccak.length_hash]
  rfl

namespace Address

theorem length_toBytes (a : Address) : a.toBytes.length = 20 :=
  Hex.length_toBytes 20 a.bits.toNat

theorem ofByteList_toBytes (a : Address) : ofByteList a.toBytes = a := by
  have hbound : a.bits.toNat < 256 ^ 20 := a.bits.isLt
  rw [ofByteList, toBytes, Hex.ofBytes_toBytes hbound, BitVec.ofNat_toNat, BitVec.setWidth_eq]

end Address

namespace Call

/-- A nomination has an argument, for which an acceptance is too short. -/
theorem nomination_data_ne (a : Address) :
    (Call.setPendingOwner a).data ≠ Call.acceptOwnership.data := by
  intro h
  have hlength := congrArg List.length h
  simp only [data, Address.argument, List.length_append, List.length_replicate,
    Address.length_toBytes, nominationSelector, acceptanceSelector, length_selector] at hlength
  omega

/-- Every call is read back from its data. -/
theorem ofData?_data (call : Call) : ofData? call.data = some call := by
  cases call with
  | acceptOwnership => simp [ofData?, data]
  | setPendingOwner a =>
      have hselector : nominationSelector.length = 4 := length_selector _
      have hlength : (data (.setPendingOwner a)).length = 36 := by
        simp [data, Address.argument, Address.length_toBytes, hselector]
      have htake : (data (.setPendingOwner a)).take 4 = nominationSelector :=
        List.take_left' hselector
      have hdrop : (data (.setPendingOwner a)).drop 4 = a.argument := List.drop_left' hselector
      have hzeros : a.argument.take 12 = List.replicate 12 0 := List.take_left' rfl
      have haddress : (data (.setPendingOwner a)).drop 16 = a.toBytes := by
        rw [show 16 = 4 + 12 from rfl, ← List.drop_drop, hdrop]
        exact List.drop_left' rfl
      have hother : data (.setPendingOwner a) ≠ acceptanceSelector := nomination_data_ne a
      rw [ofData?, if_neg hother, hlength, htake, hdrop, hzeros, haddress,
        Address.ofByteList_toBytes]
      simp

end Call

end TwoStep
