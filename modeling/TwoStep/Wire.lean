import TwoStep.Chain.Call
import TwoStep.Handoff.Workflow
import TwoStep.Json.Parser
import TwoStep.Settings.Basic

/-!
# JSON of what is exchanged

The JSON forms of calls, receipts, snapshots, events, phases, reports and
settings.  Addresses and hashes are written as lower-case hexadecimal strings,
and read in any case or as an array of bytes.
-/

namespace TwoStep

/-! ## Calls, receipts and snapshots -/

def Address.ofJson? : Json → Option Address
  | .string s => (Address.read s).toOption
  | j => (Json.asBytes j).bind Address.ofBytes?

def Address.toJson (a : Address) : Json := .string a.hex

def TxHash.ofJson? : Json → Option TxHash
  | .string s => (TxHash.read s).toOption
  | j => (Json.asBytes j).bind TxHash.ofBytes?

def TxHash.toJson (h : TxHash) : Json := .string h.hex

/-- A fee from JSON: a bare integer. -/
def Fee.ofJson? (j : Json) : Option Fee :=
  (Json.asNatBelow Fee.bound j).bind Fee.ofWei?

def Fee.toJson (f : Fee) : Json := .nat f.wei

def Contract.ofJson? : Json → Option Contract :=
  Json.record1 "address" Address.ofJson? Contract.mk

def Contract.toJson (c : Contract) : Json := .object [("address", c.address.toJson)]

def Signer.ofJson? (j : Json) : Option Signer :=
  match Json.fields ["label", "address"] j with
  | some [label, address] => do
    return ⟨← Json.required Json.asString label, ← Json.required Address.ofJson? address⟩
  | _ => none

def Signer.toJson (s : Signer) : Json :=
  .object [("label", .string s.label), ("address", s.address.toJson)]

def Call.ofJson? (j : Json) : Option Call :=
  match Json.choice j with
  | some ("SetPendingOwner", c) =>
    Json.record1 "pending_owner" Address.ofJson? Call.setPendingOwner c
  | some ("AcceptOwnership", c) => Json.unitCase .acceptOwnership c
  | _ => none

def Call.toJson : Call → Json
  | .setPendingOwner a =>
    .object [("SetPendingOwner", .object [("pending_owner", a.toJson)])]
  | .acceptOwnership => .string "AcceptOwnership"

def blockOfJson? (j : Json) : Option UInt64 :=
  (Json.asNatBelow UInt64.size j).map UInt64.ofNat

def blockToJson : Option UInt64 → Json
  | some n => .nat n.toNat
  | none => .null

def Receipt.ofJson? (j : Json) : Option Receipt :=
  match Json.fields ["method", "tx_hash", "block_number"] j with
  | some [method, txHash, block] => do
    return ⟨← Json.required Json.asString method, ← Json.required TxHash.ofJson? txHash,
      ← Json.optional blockOfJson? block⟩
  | _ => none

def Receipt.toJson (r : Receipt) : Json :=
  .object [("method", .string r.method), ("tx_hash", r.txHash.toJson),
    ("block_number", blockToJson r.block)]

def Snapshot.ofJson? (j : Json) : Option Snapshot :=
  match Json.fields ["owner", "pending_owner"] j with
  | some [owner, pendingOwner] => do
    return ⟨← Json.required Address.ofJson? owner, ← Json.required Address.ofJson? pendingOwner⟩
  | _ => none

def Snapshot.toJson (s : Snapshot) : Json :=
  .object [("owner", s.owner.toJson), ("pending_owner", s.pendingOwner.toJson)]

/-! ## Events, phases and reports -/

/-- An instant from JSON: an RFC 3339 string. -/
def Instant.ofJson? (j : Json) : Option Instant :=
  (Json.asString j).bind Instant.read

def Instant.toJson (t : Instant) : Json := .string t.display

namespace Handoff

def Phase.name : Phase → String
  | .notStarted => "NotStarted"
  | .pendingNomination => "PendingNomination"
  | .nominated => "Nominated"
  | .accepted => "Accepted"
  | .stalled => "Stalled"

def Phase.ofName? (name : String) : Option Phase :=
  [Phase.notStarted, .pendingNomination, .nominated, .accepted, .stalled].find? (·.name = name)

def Phase.ofJson? (j : Json) : Option Phase :=
  match Json.choice j with
  | some (name, c) => (Phase.ofName? name).bind fun p => Json.unitCase p c
  | none => none

/-- A phase as JSON. -/
def Phase.toJson (p : Phase) : Json := .string p.name

def Event.ofJson? (j : Json) : Option Event :=
  match Json.choice j with
  | some ("Begin", c) => Json.record1 "pending_owner" Address.ofJson? Event.begin c
  | some ("Resume", c) => Json.record1 "pending_owner" Address.ofJson? Event.resume c
  | some ("NominationFinalized", c) =>
    Json.record1 "tx_hash" TxHash.ofJson? Event.nominationFinalized c
  | some ("NominationFailed", c) => Json.record1 "reason" Json.asString Event.nominationFailed c
  | some ("AcceptanceFinalized", c) =>
    Json.record1 "tx_hash" TxHash.ofJson? Event.acceptanceFinalized c
  | some ("AcceptanceFailed", c) => Json.record1 "reason" Json.asString Event.acceptanceFailed c
  | _ => none

/-- A case with one named field. -/
def caseToJson (name field : String) (content : Json) : Json :=
  .object [(name, .object [(field, content)])]

def Event.toJson : Event → Json
  | .begin a => caseToJson "Begin" "pending_owner" a.toJson
  | .resume a => caseToJson "Resume" "pending_owner" a.toJson
  | .nominationFinalized h => caseToJson "NominationFinalized" "tx_hash" h.toJson
  | .nominationFailed r => caseToJson "NominationFailed" "reason" (.string r)
  | .acceptanceFinalized h => caseToJson "AcceptanceFinalized" "tx_hash" h.toJson
  | .acceptanceFailed r => caseToJson "AcceptanceFailed" "reason" (.string r)

def Report.fieldNames : List String := [
  "correlation_id", "contract", "previous_owner", "new_owner", "priority_fee", "nomination",
  "acceptance", "phase", "started_at", "finished_at"]

def Report.ofJson? (j : Json) : Option Report :=
  match Json.fields Report.fieldNames j with
  | some [correlationId, contract, previousOwner, newOwner, fee, nomination, acceptance, phase,
      startedAt, finishedAt] => do
    return {
      correlationId := ← Json.required Json.asString correlationId
      contract := ← Json.required Address.ofJson? contract
      previousOwner := ← Json.required Address.ofJson? previousOwner
      newOwner := ← Json.required Address.ofJson? newOwner
      fee := ← Json.required Fee.ofJson? fee
      nomination := ← Json.required Receipt.ofJson? nomination
      acceptance := ← Json.required Receipt.ofJson? acceptance
      phase := ← Json.required Phase.ofJson? phase
      startedAt := ← Json.required Instant.ofJson? startedAt
      finishedAt := ← Json.required Instant.ofJson? finishedAt }
  | _ => none

def Report.toJson (r : Report) : Json :=
  .object [("correlation_id", .string r.correlationId), ("contract", r.contract.toJson),
    ("previous_owner", r.previousOwner.toJson), ("new_owner", r.newOwner.toJson),
    ("priority_fee", r.fee.toJson), ("nomination", r.nomination.toJson),
    ("acceptance", r.acceptance.toJson), ("phase", r.phase.toJson),
    ("started_at", r.startedAt.toJson), ("finished_at", r.finishedAt.toJson)]

end Handoff

/-! ## Settings -/

namespace Settings

def sectionOfJson1? (key : String) : Json → Option String :=
  Json.record1 key Json.asString id

def ofJson? (j : Json) : Option Settings :=
  match Json.fields ["network", "contract", "accounts", "fees", "observability"] j with
  | some [some network, some contract, some accounts, some fees, some observability] => do
    let rpcUrl ← sectionOfJson1? "rpc_url" network
    let contractAddress ← sectionOfJson1? "address" contract
    let priorityFee ← sectionOfJson1? "priority_fee" fees
    match Json.fields ["current_owner_key_env", "new_owner_key_env"] accounts,
        Json.fields ["log_level", "json_logs"] observability with
    | some [currentOwner, newOwner], some [logLevel, jsonLogs] => do
      return {
        rpcUrl, contractAddress, priorityFee
        currentOwnerKeyVar := ← Json.required Json.asString currentOwner
        newOwnerKeyVar := ← Json.required Json.asString newOwner
        logLevel := ← Json.required Json.asString logLevel
        jsonLogs := ← Json.required Json.asBool jsonLogs }
    | _, _ => none
  | _ => none

def toJson (s : Settings) : Json :=
  .object [
    ("network", .object [("rpc_url", .string s.rpcUrl)]),
    ("contract", .object [("address", .string s.contractAddress)]),
    ("accounts", .object [("current_owner_key_env", .string s.currentOwnerKeyVar),
      ("new_owner_key_env", .string s.newOwnerKeyVar)]),
    ("fees", .object [("priority_fee", .string s.priorityFee)]),
    ("observability", .object [("log_level", .string s.logLevel),
      ("json_logs", .bool s.jsonLogs)])]

end Settings

end TwoStep
