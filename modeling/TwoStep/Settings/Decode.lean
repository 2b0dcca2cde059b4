import TwoStep.Settings.Basic
import TwoStep.Settings.Merge
import TwoStep.Text.Quoted

/-!
# Typed settings from untyped values

Each section is a table, or an array of its values in order.  A text may be
given as a number or a truth value, a truth value as a number or one of the
words for yes and no.  An error names the value and where it was read; an
error about a whole section names neither.

Tables are hash tables: they hand out their entries in an order that differs
from run to run.  What is handed out is read at once, so of several wrong values
this order decides which one is reported.  It is the parameter `Visits` here.
What is missing is only seen at the end, and reported in a fixed order.
-/

namespace TwoStep.Settings

/-- Why values do not make up settings. -/
inductive DecodeError where
  | wrongKind (found expected key : String) (origin : Option String)
  | notASection (found name : String)
  | tooShort (length : Nat) (name : String) (fields : Nat)
  | missing (field : String)
  deriving DecidableEq, Repr

def DecodeError.message : DecodeError → String
  | .wrongKind found expected key origin =>
    let place := match origin with
      | some o => s!" in {o}"
      | none => ""
    s!"invalid type: {found}, expected {expected} for key `{key}`{place}"
  | .notASection found name => s!"invalid type: {found}, expected struct {name}"
  | .tooShort length name fields =>
    let s := if fields = 1 then "" else "s"
    s!"invalid length {length}, expected struct {name} with {fields} element{s}"
  | .missing field => s!"missing field `{field}`"

def Value.described : Value → String
  | .scalar .nothing _ => "unit value"
  | .scalar (.bool b) _ => s!"boolean `{b}`"
  | .scalar (.integer i) _ => s!"integer `{i}`"
  | .scalar (.float x) _ => s!"floating point `{x.displayWithPoint}`"
  | .scalar (.text s) _ => s!"string {Text.quoted s}"
  | .array .. => "sequence"
  | .table .. => "map"

def Value.asText (key : String) : Value → Except DecodeError String
  | .scalar (.text s) _ => .ok s
  | .scalar (.bool b) _ => .ok (toString b)
  | .scalar (.integer i) _ => .ok (toString i)
  | .scalar (.float x) _ => .ok x.display
  | v => .error (.wrongKind v.described "a string" key v.origin?)

/-- The truth value that a word in lower case stands for. -/
def truthOf? (word : String) : Option Bool :=
  if word = "1" || word = "true" || word = "on" || word = "yes" then some true
  else if word = "0" || word = "false" || word = "off" || word = "no" then some false
  else none

def Value.asBool (key : String) : Value → Except DecodeError Bool
  | .scalar (.bool b) _ => .ok b
  | .scalar (.integer i) _ => .ok (i != 0)
  | .scalar (.float x) _ => .ok (!x.isZero)
  | .scalar (.text s) o =>
    let word := Text.lowered s
    match truthOf? word with
    | some b => .ok b
    | none => .error (.wrongKind s!"string {Text.quoted word}" "a boolean" key o)
  | v => .error (.wrongKind v.described "a boolean" key v.origin?)

/-- How a value with a name for messages is read. -/
abbrev Reader (α : Type) := String → Value → Except DecodeError α

def section1 {α : Type} (key name field : String) (read : Reader α) :
    Value → Except DecodeError α
  | .table es _ =>
    match es.lookup field with
    | some v => read s!"{key}.{field}" v
    | none => .error (.missing field)
  | .array items _ =>
    match items with
    | v :: _ => read s!"{key}[0]" v
    | [] => .error (.tooShort 0 name 1)
  | v => .error (.notASection v.described name)

/-- A field of a table that may be missing; what is there must be readable. -/
def present {α : Type} (key field : String) (read : Reader α) (es : List (String × Value)) :
    Except DecodeError (Option α) :=
  match es.lookup field with
  | some v => (read s!"{key}.{field}" v).map some
  | none => .ok none

/-- A section with two fields, the second of which may be handed out first. -/
def section2 {α β : Type} (secondFirst : Bool) (key name field₁ field₂ : String)
    (read₁ : Reader α) (read₂ : Reader β) : Value → Except DecodeError (α × β)
  | .table es _ => do
    if secondFirst then discard (present key field₂ read₂ es)
    let a ← present key field₁ read₁ es
    let b ← present key field₂ read₂ es
    match a, b with
    | some a, some b => .ok (a, b)
    | none, _ => .error (.missing field₁)
    | _, none => .error (.missing field₂)
  | .array items _ =>
    match items with
    | v :: w :: _ => do
      let a ← read₁ s!"{key}[0]" v
      let b ← read₂ s!"{key}[1]" w
      .ok (a, b)
    | [v] => do
      let _ ← read₁ s!"{key}[0]" v
      .error (.tooShort 1 name 2)
    | [] => .error (.tooShort 0 name 2)
  | v => .error (.notASection v.described name)

inductive Section where
  | network
  | contract
  | accounts
  | fees
  | observability
  deriving DecidableEq, Repr

def Section.key : Section → String
  | .network => "network"
  | .contract => "contract"
  | .accounts => "accounts"
  | .fees => "fees"
  | .observability => "observability"

def Section.all : List Section := [.network, .contract, .accounts, .fees, .observability]

/-- In which order tables hand out what is read: the root its sections, and a
section its two values.  Entries that are no settings are passed over. -/
structure Visits where
  sections : List Section := Section.all
  perm : sections.Perm Section.all := by decide
  secondFirst : Section → Bool := fun _ => false

def readNetwork : Value → Except DecodeError String :=
  section1 "network" "NetworkConfig" "rpc_url" Value.asText

def readContract : Value → Except DecodeError String :=
  section1 "contract" "ContractConfig" "address" Value.asText

def readAccounts (secondFirst : Bool) : Value → Except DecodeError (String × String) :=
  section2 secondFirst "accounts" "AccountsConfig" "current_owner_key_env" "new_owner_key_env"
    Value.asText Value.asText

def readFees : Value → Except DecodeError String :=
  section1 "fees" "FeeConfig" "priority_fee" Value.asText

def readObservability (secondFirst : Bool) : Value → Except DecodeError (String × Bool) :=
  section2 secondFirst "observability" "ObservabilityConfig" "log_level" "json_logs"
    Value.asText Value.asBool

def Section.check (secondFirst : Bool) : Section → Value → Except DecodeError Unit
  | .network, part => discard (readNetwork part)
  | .contract, part => discard (readContract part)
  | .accounts, part => discard (readAccounts secondFirst part)
  | .fees, part => discard (readFees part)
  | .observability, part => discard (readObservability secondFirst part)

def checkSection (visits : Visits) (root : Value) (s : Section) : Except DecodeError Unit :=
  match root.entries.lookup s.key with
  | some part => s.check (visits.secondFirst s) part
  | none => .ok ()

def sectionOf (root : Value) (s : Section) : Except DecodeError Value :=
  match root.entries.lookup s.key with
  | some part => .ok part
  | none => .error (.missing s.key)

/-- Settings from sections, in the order in which missing ones are reported. -/
def collect (root : Value) : Except DecodeError Settings := do
  let rpcUrl ← readNetwork (← sectionOf root .network)
  let contractAddress ← readContract (← sectionOf root .contract)
  let (currentOwnerKeyVar, newOwnerKeyVar) ← readAccounts false (← sectionOf root .accounts)
  let priorityFee ← readFees (← sectionOf root .fees)
  let (logLevel, jsonLogs) ← readObservability false (← sectionOf root .observability)
  return { rpcUrl, contractAddress, currentOwnerKeyVar, newOwnerKeyVar, priorityFee, logLevel,
           jsonLogs }

/-- Settings from a table of sections.  The first section handed out that cannot
be read is reported; only when all that is there can be read, what is missing. -/
def decode (visits : Visits) (root : Value) : Except DecodeError Settings := do
  visits.sections.forM (checkSection visits root)
  collect root

def encode (s : Settings) : Value :=
  let text (t : String) : Value := .scalar (.text t) none
  .table [
    ("network", .table [("rpc_url", text s.rpcUrl)] none),
    ("contract", .table [("address", text s.contractAddress)] none),
    ("accounts", .table [("current_owner_key_env", text s.currentOwnerKeyVar),
      ("new_owner_key_env", text s.newOwnerKeyVar)] none),
    ("fees", .table [("priority_fee", text s.priorityFee)] none),
    ("observability", .table [("log_level", text s.logLevel),
      ("json_logs", .scalar (.bool s.jsonLogs) none)] none)] none

end TwoStep.Settings
