import TwoStep.Command.Preparation
import TwoStep.Proofs.Command.Preparation
import TwoStep.Proofs.Hex
import TwoStep.Wire

/-!
# Which texts are addresses

An address is written in two ways: checksummed where people see it, and in lower
case in a document.  Both are forty digits behind a marker.  The checksum capitalises
some of the letters, and which ones hangs on a digest; but whichever they are, the
digits keep their values (`forall₂_denotes_checksumDigits`), provided that the digest
is long enough to speak of all of them.

The reader of the operator's address trims the text and takes forty digits in any
case, so it undoes both ways of writing, with the marker or without it and whatever
blanks are around.  It looks at no checksum: `contractAddress_reads_grammar` has the
exact set of texts.
-/

namespace TwoStep

open Text

/-! ## Writing -/

namespace Address

theorem length_nibbles (bs : List UInt8) : (nibbles bs).length = 2 * bs.length := by
  induction bs with
  | nil => rfl
  | cons b bs ih =>
      rw [nibbles, List.flatMap_cons, List.length_append, ← nibbles, ih, List.length_cons,
        List.length_cons, List.length_cons, List.length_nil]
      omega

theorem denotes_toUpper {c : Char} {v : Nat} (h : Hex.Denotes c v) : Hex.Denotes c.toUpper v := by
  have hall : ∀ c : Char, c.toNat < 128 → c.toUpper.toLower = c.toLower :=
    forall_ascii (by decide)
  exact ⟨h.1, (hall c h.ascii).trans h.2⟩

/-- Capital or not, a digit has the same value. -/
theorem forall₂_denotes_zipWith {ds : List Char} {vs ns : List Nat}
    (h : List.Forall₂ Hex.Denotes ds vs) (hlength : ds.length ≤ ns.length) :
    List.Forall₂ Hex.Denotes
      (List.zipWith (fun c n => if 8 ≤ n then c.toUpper else c) ds ns) vs := by
  induction h generalizing ns with
  | nil => exact .nil
  | cons hc hds ih =>
      obtain - | ⟨n, ns⟩ := ns
      · simp at hlength
      · rw [List.zipWith_cons_cons]
        refine .cons ?_ (ih (by simpa using hlength))
        split
        · exact denotes_toUpper hc
        · exact hc

theorem forall₂_denotes_checksumDigits {ds : List Char} {vs : List Nat}
    (h : List.Forall₂ Hex.Denotes ds vs) (hlength : ds.length ≤ 64) :
    List.Forall₂ Hex.Denotes (checksumDigits ds) vs := by
  refine forall₂_denotes_zipWith h ?_
  rwa [length_nibbles, Keccak.length_hash]

/-- The two ways in which an address is written. -/
inductive WrittenAs (a : Address) : String → Prop where
  | shown : WrittenAs a (toString a)
  | inDocument (text : String) (h : a.toJson = .string text) : WrittenAs a text

/-- Both are a marker and forty digits of the address. -/
theorem WrittenAs.digits {a : Address} {text : String} (h : a.WrittenAs text) :
    ∃ ds vs, text.toList = '0' :: 'x' :: ds ∧ List.Forall₂ Hex.Denotes ds vs ∧
      vs.length = 40 ∧ Hex.number vs = a.bits.toNat := by
  have hbound : a.bits.toNat < 16 ^ 40 := a.bits.isLt
  obtain ⟨vs, hvs, hlength, hnumber⟩ := Hex.exists_denotes_digits hbound
  cases h with
  | shown =>
      have hshort : a.digits.length ≤ 64 := by
        rw [Address.digits, hvs.length_eq, hlength]
        decide
      refine ⟨checksumDigits a.digits, vs, ?_, ?_, hlength, hnumber⟩
      · change (checksum a).toList = _
        rw [checksum, String.toList_ofList]
      · exact forall₂_denotes_checksumDigits hvs hshort
  | inDocument text h =>
      obtain rfl : a.hex = text := by simpa [toJson] using h
      refine ⟨a.digits, vs, ?_, hvs, hlength, hnumber⟩
      rw [hex, String.toList_ofList]

/-- A text of an address: it is written in one of its ways, the marker is kept or
left out, and there are blanks around it. -/
inductive NamedBy (a : Address) : String → Prop where
  | mk {written : String} {front body back : List Char} (hwritten : a.WrittenAs written)
      (hbody : written.toList = body ∨ written.toList = '0' :: 'x' :: body)
      (hfront : ∀ c ∈ front, isBlank c) (hback : ∀ c ∈ back, isBlank c) :
      NamedBy a (String.ofList (front ++ body ++ back))

/-! ## Reading -/

/-- A text is read as an address iff it spells it with forty digits. -/
theorem read_eq_ok_iff {s : String} {a : Address} :
    read s = .ok a ↔
      ∃ vs, Hex.Spells s.toList vs ∧ vs.length = 40 ∧ Hex.number vs = a.bits.toNat := by
  constructor
  · intro h
    rw [read] at h
    cases hread : Hex.read 40 s with
    | error f => simp [hread, Except.map] at h
    | ok n =>
        obtain ⟨vs, hspells, hlength, rfl⟩ := (Hex.read_eq_ok_iff (by decide)).mp hread
        obtain rfl : (⟨BitVec.ofNat 160 (Hex.number vs)⟩ : Address) = a := by
          simpa [hread, Except.map] using h
        have hfits := hspells.number_lt
        rw [hlength] at hfits
        exact ⟨vs, hspells, hlength, (Nat.mod_eq_of_lt hfits).symm⟩
  · rintro ⟨vs, hspells, hlength, hnumber⟩
    have hread := (Hex.read_eq_ok_iff (by decide)).mpr ⟨vs, hspells, hlength, rfl⟩
    rw [read, hread, hnumber, Except.map, BitVec.ofNat_toNat, BitVec.setWidth_eq]

/-- An address is read from all of its texts. -/
theorem NamedBy.read {a : Address} {text : String} (h : a.NamedBy text) :
    Address.read (trimmed text) = .ok a := by
  obtain ⟨hwritten, hbody, hfront, hback⟩ := h
  rename_i written front body back
  obtain ⟨ds, vs, hwhole, hds, hlength, hnumber⟩ := hwritten.digits
  have hspells : Hex.Spells body vs := by
    rw [hwhole] at hbody
    obtain rfl | hbody := hbody
    · exact ⟨['0', 'x'], ds, .lower, hds, rfl⟩
    · obtain rfl : ds = body := by simpa using hbody
      exact ⟨[], ds, .absent, hds, rfl⟩
  have htrim : (trimmed (String.ofList (front ++ body ++ back))).toList = body := by
    rw [trimmed, String.toList_ofList, String.toList_ofList,
      trim_between_blanks hfront hback hspells.isBlank]
  exact read_eq_ok_iff.mpr ⟨vs, by rwa [htrim], hlength, hnumber⟩

end Address

namespace Command

/-- How the contract's address is read from the text in force. -/
structure ReadsAddress (raw : String) (result : Except CommandError Address) : Prop where
  /-- With forty digits, behind a marker or without one and in any case, it is an
  address. -/
  succeeds_iff : (∃ a, result = .ok a) ↔
    ∃ vs, Hex.Spells (trim raw.toList) vs ∧ vs.length = 40
  /-- The address is the number that the digits make up. -/
  spelled : ∀ a, result = .ok a ↔ ∃ vs, Hex.Spells (trim raw.toList) vs ∧ vs.length = 40 ∧
    Hex.number vs = a.bits.toNat
  /-- Whatever is written for an address is read as this address. -/
  named : ∀ a : Address, a.NamedBy raw → result = .ok a
  fails : ∀ e, result = .error e → ∃ fault, e = .contract raw fault

/-- The contract's address is read from forty hexadecimal digits and from nothing
else, with no regard to a checksum; and every text that is written for an address
is read as that address. -/
theorem contractAddress_reads_grammar (s : Settings) (flag : Option String) :
    ReadsAddress (flag.getD s.contractAddress) (contractAddress s flag) := by
  have htrim (raw : String) : (trimmed raw).toList = trim raw.toList := by
    rw [trimmed, String.toList_ofList]
  have hspelled (a : Address) : contractAddress s flag = .ok a ↔
      ∃ vs, Hex.Spells (trim (flag.getD s.contractAddress).toList) vs ∧ vs.length = 40 ∧
        Hex.number vs = a.bits.toNat := by
    rw [contractAddress, mapError_eq_ok_iff, Address.read_eq_ok_iff, htrim]
  refine ⟨⟨?_, ?_⟩, hspelled, ?_, ?_⟩
  · rintro ⟨a, ha⟩
    obtain ⟨vs, hspells, hlength, -⟩ := (hspelled a).mp ha
    exact ⟨vs, hspells, hlength⟩
  · rintro ⟨vs, hspells, hlength⟩
    have hfits := hspells.number_lt
    rw [hlength] at hfits
    exact ⟨⟨BitVec.ofNat 160 (Hex.number vs)⟩,
      (hspelled _).mpr ⟨vs, hspells, hlength, (Nat.mod_eq_of_lt hfits).symm⟩⟩
  · intro a ha
    rw [contractAddress, mapError_eq_ok_iff]
    exact ha.read
  · intro e he
    rw [contractAddress] at he
    cases hread : Address.read (trimmed (flag.getD s.contractAddress)) with
    | ok a => simp [hread, Except.mapError] at he
    | error f =>
        rw [hread] at he
        exact ⟨f, (Except.error.inj he).symm⟩

end Command

end TwoStep
