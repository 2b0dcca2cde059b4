import TwoStep.Keyring
import TwoStep.Proofs.Hex

/-!
# Which texts are private keys

A key is written with sixty-four hexadecimal digits, and is a number that the
order of the curve leaves room for.  The text is trimmed first, so that the
grammar of hexadecimal texts applies to what is left of it; `read_outcome` then
has one case for each way the reading can go.

Nothing of the text but its digits' values gets into the key: `read_restyled`
says that blanks, the marker and the case of letters make no difference, not
even to the fault of a text that is no key.  So a keyring takes a key under
exactly these conditions, and its signer is the account of the number.
-/

namespace TwoStep

open Text

namespace PrivateKey

/-- A text of sixty-four digits, behind a marker or without one and with blanks
around them, that make up a number. -/
def Spelled (text : String) (n : Nat) : Prop :=
  ∃ vs, Hex.Spells (trim text.toList) vs ∧ vs.length = 64 ∧ Hex.number vs = n

theorem read_trimmed_eq_ok_iff {text : String} {n : Nat} :
    Hex.read 64 (trimmed text) = .ok n ↔ Spelled text n := by
  rw [Hex.read_eq_ok_iff (by decide), trimmed, String.toList_ofList, Spelled]

/-- The ways in which a text can be read as a key. -/
inductive Reading (text : String) : Except Fault PrivateKey → Prop where
  | key (k : PrivateKey) (h : Spelled text k.value) : Reading text (.ok k)
  | outOfRange (n : Nat) (h : Spelled text n) (hn : ¬(0 < n ∧ n < Secp256k1.groupOrder)) :
      Reading text (.error .outOfRange)
  | unspelled (f : Hex.Fault) (h : ∀ n, ¬Spelled text n) : Reading text (.error (.hex f))

theorem read_outcome (text : String) : Reading text (read text) := by
  rw [read]
  cases hread : Hex.read 64 (trimmed text) with
  | error f =>
      refine .unspelled f fun n hn => ?_
      rw [read_trimmed_eq_ok_iff.mpr hn] at hread
      cases hread
  | ok n =>
      have hspelled := read_trimmed_eq_ok_iff.mp hread
      dsimp only
      split
      · rename_i hrange
        exact .key ⟨n, hrange⟩ hspelled
      · rename_i hrange
        exact .outOfRange n hspelled hrange

theorem Spelled.unique {text : String} {n m : Nat} (hn : Spelled text n) (hm : Spelled text m) :
    n = m := by
  rw [← read_trimmed_eq_ok_iff] at hn hm
  exact Except.ok.inj (hn.symm.trans hm)

theorem read_of_spelled {text : String} {k : PrivateKey} (h : Spelled text k.value) :
    read text = .ok k := by
  have houtcome := read_outcome text
  generalize read text = outcome at houtcome
  cases houtcome with
  | key k' hk' =>
      obtain ⟨n, hn⟩ := k
      obtain ⟨n', hn'⟩ := k'
      obtain rfl : n = n' := h.unique hk'
      rfl
  | outOfRange n hn hrange => exact absurd (h.unique hn ▸ k.isValid) hrange
  | unspelled f hnone => exact absurd h (hnone k.value)

/-! ## Other styles of the same text -/

/-- Texts of digits that differ in nothing but the case of letters, the marker in
front and the blanks around. -/
inductive Restyled : String → String → Prop where
  | mk {front back front' back' marker marker' ds ds' : List Char}
      (hblanks : ∀ c ∈ front ++ back ++ (front' ++ back'), isBlank c)
      (hmarker : Hex.Marker marker) (hmarker' : Hex.Marker marker')
      (hdigits : ∀ c ∈ ds, ∃ v, Hex.Denotes c v)
      (hcase : ds'.map Char.toLower = ds.map Char.toLower) :
      Restyled (String.ofList (front ++ (marker ++ ds) ++ back))
        (String.ofList (front' ++ (marker' ++ ds') ++ back'))

theorem exists_values {ds : List Char} (h : ∀ c ∈ ds, ∃ v, Hex.Denotes c v) :
    ∃ vs, List.Forall₂ Hex.Denotes ds vs := by
  induction ds with
  | nil => exact ⟨[], .nil⟩
  | cons c ds ih =>
      obtain ⟨⟨v, hv⟩, hds⟩ := List.forall_mem_cons.mp h
      obtain ⟨vs, hvs⟩ := ih hds
      exact ⟨v :: vs, .cons hv hvs⟩

/-- The case of a digit is no part of its value. -/
theorem forall₂_denotes_of_map_toLower {ds ds' : List Char} {vs : List Nat}
    (h : List.Forall₂ Hex.Denotes ds vs) (hcase : ds'.map Char.toLower = ds.map Char.toLower) :
    List.Forall₂ Hex.Denotes ds' vs := by
  induction h generalizing ds' with
  | nil =>
      obtain rfl := List.map_eq_nil_iff.mp hcase
      exact .nil
  | @cons c v ds vs hc _ ih =>
      obtain ⟨c', ds', rfl, hlower, hrest⟩ := List.map_eq_cons_iff.mp hcase
      exact .cons ⟨hc.1, hlower.trans hc.2⟩ (ih hrest)

/-- Restyled texts spell the same digits, however many. -/
theorem Restyled.spells {s t : String} (h : Restyled s t) :
    ∃ vs, Hex.Spells (trim s.toList) vs ∧ Hex.Spells (trim t.toList) vs := by
  obtain ⟨hblanks, hmarker, hmarker', hdigits, hcase⟩ := h
  rename_i front back front' back' marker marker' ds ds'
  obtain ⟨vs, hvs⟩ := exists_values hdigits
  have hs : Hex.Spells (marker ++ ds) vs := ⟨marker, ds, hmarker, hvs, rfl⟩
  have ht : Hex.Spells (marker' ++ ds') vs :=
    ⟨marker', ds', hmarker', forall₂_denotes_of_map_toLower hvs hcase, rfl⟩
  simp only [List.forall_mem_append] at hblanks
  obtain ⟨⟨hfront, hback⟩, hfront', hback'⟩ := hblanks
  refine ⟨vs, ?_, ?_⟩
  · rw [String.toList_ofList, trim_between_blanks hfront hback hs.isBlank]
    exact hs
  · rw [String.toList_ofList, trim_between_blanks hfront' hback' ht.isBlank]
    exact ht

/-- The style of a text makes no difference, be it a key or not. -/
theorem read_restyled {s t : String} (h : Restyled s t) : read t = read s := by
  obtain ⟨vs, hs, ht⟩ := h.spells
  have hs' : Hex.Spells (trimmed s).toList vs := by rwa [trimmed, String.toList_ofList]
  have ht' : Hex.Spells (trimmed t).toList vs := by rwa [trimmed, String.toList_ofList]
  have hread : Hex.read 64 (trimmed t) = Hex.read 64 (trimmed s) := by
    rw [Hex.read_of_spells hs', Hex.read_of_spells ht']
  rw [read, read, hread]

end PrivateKey

namespace Keyring

/-- How a keyring takes a text under a label. -/
structure TakesKey (ring : Keyring) (label text : String)
    (outcome : Except KeyError (Signer × Keyring)) : Prop where
  succeeds_iff : (∃ taken, outcome = .ok taken) ↔
    ∃ n, PrivateKey.Spelled text n ∧ 1 ≤ n ∧ n < Secp256k1.groupOrder
  /-- The signer is the account of the number that is spelled. -/
  signer : ∀ key : PrivateKey, PrivateKey.Spelled text key.value →
    outcome = .ok (⟨label, key.address⟩, ring.put label key)
  fails : ∀ e, outcome = .error e → ∃ fault, e = .invalidKey label fault
  /-- Another style of the text comes to the same. -/
  restyled : ∀ text', PrivateKey.Restyled text text' → ring.insert label text' = outcome

/-- A keyring takes a text under a label iff it spells a number from one up to the
order of the curve with sixty-four digits; everything else is an invalid key for
this label. -/
theorem insert_takes_spelled_keys (ring : Keyring) (label text : String) :
    TakesKey ring label text (ring.insert label text) where
  succeeds_iff := by
    have houtcome := PrivateKey.read_outcome text
    rw [insert]
    generalize PrivateKey.read text = outcome at houtcome
    cases houtcome with
    | key k hk => simpa using ⟨k.value, hk, k.isValid⟩
    | outOfRange n hn hrange =>
        simp only [reduceCtorEq, exists_false, false_iff]
        rintro ⟨m, hm, hrange'⟩
        exact hrange (hn.unique hm ▸ hrange')
    | unspelled f hnone =>
        simp only [reduceCtorEq, exists_false, false_iff]
        rintro ⟨m, hm, -⟩
        exact hnone m hm
  signer := by
    intro key hkey
    rw [insert, PrivateKey.read_of_spelled hkey]
  fails := by
    intro e he
    rw [insert] at he
    split at he
    · rename_i f _
      exact ⟨f, (Except.error.inj he).symm⟩
    · cases he
  restyled := by
    intro text' h
    rw [insert, insert, PrivateKey.read_restyled h]

end Keyring

end TwoStep
