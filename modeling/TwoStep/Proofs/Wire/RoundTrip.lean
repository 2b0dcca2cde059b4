import TwoStep.Proofs.Hex
import TwoStep.Proofs.Instant
import TwoStep.Proofs.Json.Documents
import TwoStep.Wire

/-!
# Values are read back from their JSON

`ReadsBack` holds of a value whose document is plain and decodes to the value;
by `Json.parse_compact` the text of the document then decodes to it as well.  It
is shown type by type, from the leaves (addresses, hashes, fees, instants) up to
the report, and a record or a choice needs of its parts only that they are read
back.

The one condition is on the instants of a report: they are those of a calendar.
-/

namespace TwoStep

namespace Json

/-- The document of a value is plain, and decodes to the value. -/
structure ReadsBack {α : Type} (decode : Json → Option α) (a : α) (j : Json) : Prop where
  plain : j.Plain
  decoded : decode j = some a

section ReadsBack

variable {α β : Type} {decode : Json → Option α} {a : α} {j : Json}

theorem ReadsBack.compact (h : ReadsBack decode a j) :
    (Json.parse j.compact).bind decode = some a := by
  rw [parse_compact h.plain, Option.bind_some, h.decoded]

theorem ReadsBack.pretty_line (h : ReadsBack decode a j) :
    (Json.parse (j.pretty ++ "\n")).bind decode = some a := by
  rw [parse_pretty_line h.plain, Option.bind_some, h.decoded]

theorem ReadsBack.required (h : ReadsBack decode a j) : required decode (some j) = some a :=
  h.decoded

theorem readsBack_string (s : String) : ReadsBack asString s (.string s) where
  plain := .string s
  decoded := rfl

theorem ReadsBack.record1 (h : ReadsBack decode a j) (name : String) (f : α → β) :
    ReadsBack (record1 name decode f) (f a) (.object [(name, j)]) where
  plain := .object (by simpa using h.plain)
  decoded := by
    have hfields : fields [name] (.object [(name, j)]) = some [some j] := by simp [fields]
    rw [Json.record1, hfields]
    simp [h.required]

/-- A choice is read back if its name leads to what reads back its content. -/
theorem ReadsBack.tagged (h : ReadsBack decode a j) (name : String) {choose : Json → Option α}
    (hcase : choose (.object [(name, j)]) = decode j) :
    ReadsBack choose a (.object [(name, j)]) where
  plain := .object (by simpa using h.plain)
  decoded := hcase.trans h.decoded

end ReadsBack

end Json

open Json

/-! ## Leaves -/

theorem Address.readsBack (a : Address) : ReadsBack Address.ofJson? a a.toJson where
  plain := .string a.hex
  decoded := by rw [Address.toJson, Address.ofJson?, Address.read_hex]; rfl

theorem TxHash.readsBack (h : TxHash) : ReadsBack TxHash.ofJson? h h.toJson where
  plain := .string h.hex
  decoded := by rw [TxHash.toJson, TxHash.ofJson?, TxHash.read_hex]; rfl

theorem asNatBelow_nat {bound n : Nat} (h : n < bound) : asNatBelow bound (.nat n) = some n := by
  simp [Json.nat, asNatBelow, Json.Number.toNat?, h]

theorem Fee.readsBack (f : Fee) : ReadsBack Fee.ofJson? f f.toJson where
  plain := .nat f.wei
  decoded := by
    rw [Fee.ofJson?, Fee.toJson, asNatBelow_nat f.fits, Option.bind_some, Fee.ofWei?,
      dif_pos f.fits]

theorem Instant.Lawful.readsBack {t : Instant} (h : t.Lawful) :
    ReadsBack Instant.ofJson? t t.toJson where
  plain := .string t.display
  decoded := by
    rw [Instant.ofJson?, Instant.toJson, asString, Option.bind_some, Instant.read_display h]

theorem plain_blockToJson (block : Option UInt64) : (blockToJson block).Plain := by
  cases block with
  | none => exact .null
  | some n => exact .nat n.toNat

theorem optional_blockToJson (block : Option UInt64) :
    optional blockOfJson? (some (blockToJson block)) = some block := by
  cases block with
  | none => rfl
  | some n =>
      have hnat : asNatBelow UInt64.size (.nat n.toNat) = some n.toNat := asNatBelow_nat n.toNat_lt
      have hblock : blockOfJson? (.nat n.toNat) = some n := by
        rw [blockOfJson?, hnat, Option.map_some, UInt64.ofNat_toNat]
      exact congrArg (Option.map some) hblock

/-! ## Records -/

theorem Contract.readsBack (c : Contract) : ReadsBack Contract.ofJson? c c.toJson :=
  c.address.readsBack.record1 "address" Contract.mk

theorem Signer.readsBack (s : Signer) : ReadsBack Signer.ofJson? s s.toJson where
  plain := .object (by simp [Plain.string, s.address.readsBack.plain])
  decoded := by
    have hfields : fields ["label", "address"] s.toJson =
        some [some (.string s.label), some s.address.toJson] := rfl
    rw [Signer.ofJson?, hfields]
    simp [(readsBack_string s.label).required, s.address.readsBack.required]

theorem Receipt.readsBack (r : Receipt) : ReadsBack Receipt.ofJson? r r.toJson where
  plain := .object (by simp [Plain.string, r.txHash.readsBack.plain, plain_blockToJson])
  decoded := by
    have hfields : fields ["method", "tx_hash", "block_number"] r.toJson =
        some [some (.string r.method), some r.txHash.toJson, some (blockToJson r.block)] := rfl
    rw [Receipt.ofJson?, hfields]
    simp [(readsBack_string r.method).required, r.txHash.readsBack.required, optional_blockToJson]

theorem Snapshot.readsBack (s : Snapshot) : ReadsBack Snapshot.ofJson? s s.toJson where
  plain := .object (by simp [s.owner.readsBack.plain, s.pendingOwner.readsBack.plain])
  decoded := by
    have hfields : fields ["owner", "pending_owner"] s.toJson =
        some [some s.owner.toJson, some s.pendingOwner.toJson] := rfl
    rw [Snapshot.ofJson?, hfields]
    simp [s.owner.readsBack.required, s.pendingOwner.readsBack.required]

theorem Settings.readsBack (s : Settings) : ReadsBack Settings.ofJson? s s.toJson where
  plain := .object (by
    simp only [List.forall_mem_cons, List.not_mem_nil, false_imp_iff, implies_true, and_true]
    refine ⟨?_, ?_, ?_, ?_, ?_⟩
    all_goals exact .object (by simp [Plain.string, Plain.bool]))
  decoded := rfl

/-! ## Choices -/

theorem Call.readsBack (c : Call) : ReadsBack Call.ofJson? c c.toJson := by
  cases c with
  | setPendingOwner a =>
      exact (a.readsBack.record1 "pending_owner" Call.setPendingOwner).tagged "SetPendingOwner" rfl
  | acceptOwnership => exact ⟨.string "AcceptOwnership", rfl⟩

namespace Handoff

theorem Phase.readsBack (p : Phase) : ReadsBack Phase.ofJson? p p.toJson where
  plain := .string p.name
  decoded := by cases p <;> rfl

theorem Event.readsBack (e : Event) : ReadsBack Event.ofJson? e e.toJson := by
  cases e with
  | begin a => exact (a.readsBack.record1 "pending_owner" Event.begin).tagged "Begin" rfl
  | resume a => exact (a.readsBack.record1 "pending_owner" Event.resume).tagged "Resume" rfl
  | nominationFinalized h =>
      exact (h.readsBack.record1 "tx_hash" Event.nominationFinalized).tagged
        "NominationFinalized" rfl
  | nominationFailed reason =>
      exact ((readsBack_string reason).record1 "reason" Event.nominationFailed).tagged
        "NominationFailed" rfl
  | acceptanceFinalized h =>
      exact (h.readsBack.record1 "tx_hash" Event.acceptanceFinalized).tagged
        "AcceptanceFinalized" rfl
  | acceptanceFailed reason =>
      exact ((readsBack_string reason).record1 "reason" Event.acceptanceFailed).tagged
        "AcceptanceFailed" rfl

/-! ## Reports -/

theorem Report.plain_toJson (r : Report) : r.toJson.Plain :=
  .object (by
    simp [Plain.string, r.contract.readsBack.plain, r.previousOwner.readsBack.plain,
      r.newOwner.readsBack.plain, r.fee.readsBack.plain, r.nomination.readsBack.plain,
      r.acceptance.readsBack.plain, r.phase.readsBack.plain, Instant.toJson])

theorem Report.readsBack_of_lawful {r : Report} (hstart : r.startedAt.Lawful)
    (hfinish : r.finishedAt.Lawful) : ReadsBack Report.ofJson? r r.toJson where
  plain := r.plain_toJson
  decoded := by
    have hfields : fields Report.fieldNames r.toJson =
        some [some (.string r.correlationId), some r.contract.toJson,
          some r.previousOwner.toJson, some r.newOwner.toJson, some r.fee.toJson,
          some r.nomination.toJson, some r.acceptance.toJson, some r.phase.toJson,
          some r.startedAt.toJson, some r.finishedAt.toJson] := rfl
    rw [Report.ofJson?, hfields]
    simp [(readsBack_string r.correlationId).required, r.contract.readsBack.required,
      r.previousOwner.readsBack.required, r.newOwner.readsBack.required,
      r.fee.readsBack.required, r.nomination.readsBack.required,
      r.acceptance.readsBack.required, r.phase.readsBack.required, hstart.readsBack.required,
      hfinish.readsBack.required]

theorem Report.readsBack {r : Report} (hstart : r.startedAt.Ordinary)
    (hfinish : r.finishedAt.Ordinary) : ReadsBack Report.ofJson? r r.toJson :=
  Report.readsBack_of_lawful hstart.lawful hfinish.lawful

end Handoff

/-! ## Every type -/

/-- Every value that is written as JSON is decoded from its compact text; a report
if its instants are ordinary. -/
theorem decode_compact :
    (∀ f : Fee, (Json.parse f.toJson.compact).bind Fee.ofJson? = some f) ∧
    (∀ c : Contract, (Json.parse c.toJson.compact).bind Contract.ofJson? = some c) ∧
    (∀ s : Signer, (Json.parse s.toJson.compact).bind Signer.ofJson? = some s) ∧
    (∀ c : Call, (Json.parse c.toJson.compact).bind Call.ofJson? = some c) ∧
    (∀ r : Receipt, (Json.parse r.toJson.compact).bind Receipt.ofJson? = some r) ∧
    (∀ s : Snapshot, (Json.parse s.toJson.compact).bind Snapshot.ofJson? = some s) ∧
    (∀ e : Handoff.Event, (Json.parse e.toJson.compact).bind Handoff.Event.ofJson? = some e) ∧
    (∀ p : Handoff.Phase, (Json.parse p.toJson.compact).bind Handoff.Phase.ofJson? = some p) ∧
    (∀ s : Settings, (Json.parse s.toJson.compact).bind Settings.ofJson? = some s) ∧
    ∀ r : Handoff.Report, r.startedAt.Ordinary → r.finishedAt.Ordinary →
      (Json.parse r.toJson.compact).bind Handoff.Report.ofJson? = some r := by
  refine ⟨?_, ?_, ?_, ?_, ?_, ?_, ?_, ?_, ?_, ?_⟩
  · exact fun f => f.readsBack.compact
  · exact fun c => c.readsBack.compact
  · exact fun s => s.readsBack.compact
  · exact fun c => c.readsBack.compact
  · exact fun r => r.readsBack.compact
  · exact fun s => s.readsBack.compact
  · exact fun e => e.readsBack.compact
  · exact fun p => p.readsBack.compact
  · exact fun s => s.readsBack.compact
  · exact fun r hstart hfinish => (Handoff.Report.readsBack hstart hfinish).compact

/-- A report with every kind of escape in its texts, the greatest fee, an unknown
block and the greatest one, and fractions of two lengths. -/
def awkwardReport : Handoff.Report where
  correlationId := "\"\\/\x00\x1f\x08\n é €"
  contract := ⟨0xdc64a140aa3e981100a9beca4e685f962f0cf6c9#160⟩
  previousOwner := Address.zero
  newOwner := ⟨-1#160⟩
  fee := ⟨Fee.bound - 1, by decide⟩
  nomination := ⟨"", ⟨0#256⟩, none⟩
  acceptance := ⟨"acceptOwnership", ⟨-1#256⟩, some 0xffffffffffffffff⟩
  phase := .stalled
  startedAt := ⟨0, 2, 29, 0, 0, 0, 7000000⟩
  finishedAt := ⟨9999, 12, 31, 23, 59, 59, 999999999⟩

theorem decode_compact_awkwardReport :
    (Json.parse awkwardReport.toJson.compact).bind Handoff.Report.ofJson? = some awkwardReport := by
  have hstart : awkwardReport.startedAt.Ordinary :=
    ⟨by decide, by decide, by decide, by decide⟩
  have hfinish : awkwardReport.finishedAt.Ordinary :=
    ⟨by decide, by decide, by decide, by decide⟩
  obtain ⟨-, -, -, -, -, -, -, -, -, hreport⟩ := decode_compact
  exact hreport awkwardReport hstart hfinish

end TwoStep
