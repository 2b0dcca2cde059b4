import TwoStep.Program
import TwoStep.Proofs.Command.Course
import TwoStep.Proofs.Handoff.Acceptance
import TwoStep.Proofs.Handoff.Printing
import TwoStep.Proofs.Wire.RoundTrip

/-!
# The standard output of a command that speaks JSON

Nothing is printed by the preparation of such a command, and nothing by its
workflow; the document is the last thing before it succeeds.  What a transfer
prints is thus told by its result (`Transfer.session_prints`).  The document of an
enquiry also names the contract, so there the result decides once the contract is
found (`Status.session_of_found`).

`carryOut` lets anybody answer for the partner of a command.  For each of them
`Transfer.Speaks` and `Status.Speaks` list the ways a command can go, with what
stands on the standard output then; `json_is_all_that_is_printed` adds that a run
of the program is no different.
-/

namespace TwoStep

open Session

namespace Command

open Handoff

/-! ## Dialogues -/

/-- The line of a command that printed a document; a command that failed printed
none. -/
def documentLine {α : Type} (toJson : α → Json) : Except CommandError α → List String
  | .ok a => [(toJson a).pretty ++ "\n"]
  | .error _ => []

theorem Transfer.session_prints (stamp : Stamp) (o : Transfer.Order) :
    (Transfer.session stamp true o).Prints (documentLine Report.toJson) := by
  refine .bind (mute_resolve o.contract) fun found => ?_
  cases found with
  | error e => exact .done rfl
  | ok c =>
      refine .bind (.done rfl) fun _ => .bind (mute_transferOwnership ..) fun returned => ?_
      cases returned with
      | ok report => exact .last rfl
      | error e =>
          -- the hint about a standing nomination goes to the other stream
          refine .bind (mute_sayAll ?_) fun _ => .done rfl
          split <;> simp [Output.out?]

section Found

variable {σ : Type} {client : Client σ} {st st' : σ} {notes : List Log.Record}

theorem Transfer.value_of_unfound {stamp : Stamp} {json : Bool} {o : Transfer.Order}
    {e : ClientError} (hfound : client (.contractAt o.contract) st = ⟨.error e, st', notes⟩) :
    ((session stamp json o).run client st).value = .error (.handOver (.resolve o.contract e)) := by
  have hvalue : ((session stamp json o).run client st).value = _ :=
    value_of_resolve o.contract _ st
  rw [hfound] at hvalue
  exact hvalue

theorem Status.session_of_unfound {o : Status.Order} {e : ClientError}
    (hfound : client (.contractAt o.contract) st = ⟨.error e, st', notes⟩) :
    let run := (session true o).run client st
    run.value = .error (.handOver (.resolve o.contract e)) ∧ stdout run.outputs = [] := by
  intro run
  have hvalue : run.value = _ := value_of_resolve o.contract _ st
  have hprinted : stdout run.outputs = _ := stdout_of_resolve o.contract _ client st
  rw [hfound] at hvalue hprinted
  exact ⟨hvalue, hprinted⟩

def Status.enquiry (c : Contract) : Session (Except CommandError Snapshot) := do
  match ← snapshot c with
  | .error e => return .error (.handOver e)
  | .ok s =>
    Session.say (.out (snapshotText true c s))
    return .ok s

/-- The document of an enquiry names the contract that was found. -/
theorem Status.enquiry_prints (c : Contract) :
    (enquiry c).Prints (documentLine (snapshotJson c)) := by
  refine .bind (mute_snapshot c) fun slots => ?_
  cases slots with
  | error e => exact .done rfl
  | ok s => exact .last rfl

theorem Status.value_enquiry (c : Contract) (client : Client σ) (st : σ) :
    ((enquiry c).run client st).value =
      ((snapshot c).run client st).value.mapError .handOver := by
  rw [enquiry, bind_eq, run_bind]
  generalize (snapshot c).run client st = read
  obtain ⟨e | slots, st', outputs, asked⟩ := read
  · rfl
  · rfl

theorem Status.answers_enquiry (c : Contract) (client : Client σ) (st : σ) :
    (enquiry c).answers client st = (snapshot c).answers client st := by
  rw [enquiry, bind_eq, answers_bind_of_quiet]
  rintro (e | slots)
  · exact ⟨_, rfl⟩
  · exact ⟨_, rfl⟩

/-- Once the contract is found, an enquiry is about its slots. -/
theorem Status.session_of_found {o : Status.Order} {c : Contract}
    (hfound : client (.contractAt o.contract) st = ⟨.ok c, st', notes⟩) :
    let run := (session true o).run client st
    run.value = ((snapshot c).run client st').value.mapError .handOver ∧
      stdout run.outputs = documentLine (snapshotJson c) run.value ∧
      (session true o).answers client st =
        ⟨.contractAt o.contract, .ok c⟩ :: (snapshot c).answers client st' := by
  intro run
  have hvalue : run.value = _ := value_of_resolve o.contract _ st
  have hprinted : stdout run.outputs = _ := stdout_of_resolve o.contract _ client st
  have hanswers : (session true o).answers client st = _ := answers_of_resolve o.contract _ st
  rw [hfound] at hvalue hprinted hanswers
  change run.value = ((enquiry c).run client st').value at hvalue
  change stdout run.outputs = stdout ((enquiry c).run client st').outputs at hprinted
  change _ = _ :: (enquiry c).answers client st' at hanswers
  rw [(enquiry_prints c).stdout_run, ← hvalue] at hprinted
  rw [value_enquiry] at hvalue
  rw [answers_enquiry] at hanswers
  exact ⟨hvalue, hprinted, hanswers⟩

end Found

/-! ## Preparations -/

section Preparations

variable {s : Settings} {env : Environment}

theorem stdout_bind {α β : Type} {p : Preparation α} {f : α → Preparation β}
    (hp : stdout p.outputs = []) (hf : ∀ a, stdout (f a).outputs = []) :
    stdout (p >>= f).outputs = [] := by
  change stdout (p.bind f).outputs = []
  rw [Preparation.bind]
  cases p.result with
  | error e => exact hp
  | ok a => rw [stdout_append, hp, hf, List.append_nil]

theorem stdout_loadKey (mistake : KeyError → CommandError) (label var : String) (ring : Keyring) :
    stdout (loadKey mistake env label var ring).outputs = [] := by
  rw [loadKey]
  cases ring.loadVariable env label var <;> rfl

theorem stdout_ownerKeys : stdout (ownerKeys s env).outputs = [] :=
  stdout_bind (stdout_loadKey ..) fun _ => stdout_loadKey ..

theorem stdout_connect (rpcUrl : String) (note : Connection → Log.Record)
    (made : Except ClientError Connection) :
    stdout (connect true rpcUrl note made).outputs = [] := by
  cases made <;> rfl

theorem Transfer.stdout_plan (stamp : Stamp) {o : TransferOptions} (hjson : o.json = true) :
    stdout (Transfer.plan s env stamp o).outputs = [] := by
  refine stdout_bind ?_ fun order => rfl
  refine stdout_bind rfl fun contract => stdout_bind rfl fun fee => ?_
  refine stdout_bind stdout_ownerKeys fun ring => stdout_bind rfl fun owners => ?_
  rw [hjson]
  cases o.dryRun with
  | true => rfl
  | false => exact stdout_bind (stdout_connect ..) fun c => rfl

theorem Status.stdout_plan {o : StatusOptions} (hjson : o.json = true) :
    stdout (Status.plan s o).outputs = [] := by
  refine stdout_bind (stdout_bind rfl fun contract => ?_) fun order => rfl
  rw [hjson]
  exact stdout_bind (stdout_connect ..) fun c => rfl

end Preparations

/-! ## Carrying out -/

/-- A client in a state. -/
structure Listener where
  {σ : Type}
  client : Client σ
  state : σ

def Partner.listener {ν : Type} (network : Url → Node ν) (link : Link ν) : Partner → Listener
  | .memory ledger => ⟨Ledger.client, ledger⟩
  | .node c => ⟨Rpc.client (network c.url) c.signers, link⟩

theorem Partner.finds_listener {ν : Type} (network : Url → Node ν) (link : Link ν)
    (partner : Partner) : Finds (partner.listener network link).client := by
  cases partner with
  | memory ledger => exact Ledger.finds
  | node c => exact Rpc.finds _ _

/-- Carries a command out with whoever answers for its partner. -/
def carryOut {α : Type} (whom : Partner → Listener) (p : Preparation (Plan α)) :
    Except CommandError α × List Output :=
  match p.result with
  | .error e => (.error e, p.outputs)
  | .ok plan =>
    let l := whom plan.partner
    let r := plan.session.run l.client l.state
    (r.value, p.outputs ++ r.outputs)

section CarryOut

variable {α : Type} {whom : Partner → Listener} {p : Preparation (Plan α)}

theorem carryOut_of_error {e : CommandError} (h : p.result = .error e) :
    carryOut whom p = (.error e, p.outputs) := by
  rw [carryOut, h]

theorem carryOut_of_ok {partner : Partner} {session : Session (Except CommandError α)}
    (h : p.result = .ok ⟨partner, session⟩) :
    let r := session.run (whom partner).client (whom partner).state
    carryOut whom p = (r.value, p.outputs ++ r.outputs) := by
  rw [carryOut, h]

end CarryOut

theorem run_eq_carryOut {ν α : Type} (network : Url → Node ν) (link : Link ν)
    (p : Preparation (Plan α)) :
    ((run network link p).result, (run network link p).outputs) =
      carryOut (Partner.listener network link) p := by
  rw [run, carryOut]
  cases p.result with
  | error e => rfl
  | ok plan =>
      obtain ⟨partner, session⟩ := plan
      cases partner <;> rfl

/-! ## Documents -/

/-- A text is a line that holds one document. -/
structure IsDocument (text : String) (j : Json) : Prop where
  written : text = j.pretty ++ "\n"
  parsed : Json.parse text = some j

theorem IsDocument.of_plain {j : Json} (h : j.Plain) : IsDocument (j.pretty ++ "\n") j :=
  ⟨rfl, Json.parse_pretty_line h⟩

/-- What comes of a transfer that speaks JSON, and what stands on the standard output
then.  The times of a run are those of a clock, so the report is decoded from what
was printed. -/
inductive Transfer.Speaks (whom : Partner → Listener) (s : Settings) (env : Environment)
    (stamp : Stamp) (o : TransferOptions) : Except CommandError Report → List String → Prop where
  | unready {e : CommandError} (ready : (Transfer.order s env o).result = .error e) :
      Transfer.Speaks whom s env stamp o (.error e) []
  | unfound {order : Transfer.Order} {e : ClientError}
      (ready : (Transfer.order s env o).result = .ok order)
      (found : ((whom order.partner).client (.contractAt order.contract)
        (whom order.partner).state).reply = .error e) :
      Transfer.Speaks whom s env stamp o (.error (.handOver (.resolve order.contract e))) []
  | failed {order : Transfer.Order} {c : Contract} {st} {notes : List Log.Record}
      {e : TransferError}
      (ready : (Transfer.order s env o).result = .ok order)
      (found : (whom order.partner).client (.contractAt order.contract)
        (whom order.partner).state = ⟨.ok c, st, notes⟩)
      (returned : ((transferOwnership stamp c order.currentOwner order.newOwner order.fee).run
        (whom order.partner).client st).value = .error e) :
      Transfer.Speaks whom s env stamp o (.error (.handOver e)) []
  | document {order : Transfer.Order} {c : Contract} {st} {notes : List Log.Record}
      {report : Report} {text : String}
      (ready : (Transfer.order s env o).result = .ok order)
      (found : (whom order.partner).client (.contractAt order.contract)
        (whom order.partner).state = ⟨.ok c, st, notes⟩)
      (returned : ((transferOwnership stamp c order.currentOwner order.newOwner order.fee).run
        (whom order.partner).client st).value = .ok report)
      (own : Finds (whom order.partner).client → c = ⟨order.contract⟩)
      (document : IsDocument text report.toJson)
      (decoded : stamp.startedAt.Lawful → stamp.finishedAt.Lawful →
        (Json.parse text).bind Report.ofJson? = some report) :
      Transfer.Speaks whom s env stamp o (.ok report) [text]

/-- What the document of an enquiry holds. -/
structure Status.Shows (c : Contract) (snapshot : Snapshot) (j : Json) : Prop where
  contract : Json.fields ["contract"] j = some [some (.string c.address.checksum)]
  slots : Snapshot.ofJson? j = some snapshot
  inFlight : Json.fields ["transfer_in_flight"] j =
    some [some (.bool (decide (snapshot.pendingOwner ≠ Address.zero)))]

theorem Status.plain_snapshotJson (c : Contract) (s : Snapshot) : (snapshotJson c s).Plain :=
  .object (by
    simp [Json.Plain.string, Json.Plain.bool, s.owner.readsBack.plain,
      s.pendingOwner.readsBack.plain])

theorem Status.shows_snapshotJson (c : Contract) (s : Snapshot) :
    Shows c s (snapshotJson c s) where
  contract := rfl
  slots := by
    have hfields : Json.fields ["owner", "pending_owner"] (snapshotJson c s) =
        some [some s.owner.toJson, some s.pendingOwner.toJson] := rfl
    rw [Snapshot.ofJson?, hfields]
    simp [s.owner.readsBack.required, s.pendingOwner.readsBack.required]
  inFlight := by
    have hpending : s.pending.isSome = decide (s.pendingOwner ≠ Address.zero) := by
      rw [Bool.eq_iff_iff, decide_eq_true_iff, Option.isSome_iff_ne_none, ne_eq,
        pending_eq_none_iff]
    rw [← hpending]
    rfl

/-- What comes of an enquiry that speaks JSON, and what stands on the standard output
then. -/
inductive Status.Speaks (whom : Partner → Listener) (s : Settings) (o : StatusOptions) :
    Except CommandError Snapshot → List String → Prop where
  | unready {e : CommandError} (ready : (Status.order s o).result = .error e) :
      Status.Speaks whom s o (.error e) []
  | unfound {order : Status.Order} {e : ClientError}
      (ready : (Status.order s o).result = .ok order)
      (found : ((whom (.node order.connection)).client (.contractAt order.contract)
        (whom (.node order.connection)).state).reply = .error e) :
      Status.Speaks whom s o (.error (.handOver (.resolve order.contract e))) []
  | unread {order : Status.Order} {c : Contract} {st} {notes : List Log.Record}
      {e : TransferError}
      (ready : (Status.order s o).result = .ok order)
      (found : (whom (.node order.connection)).client (.contractAt order.contract)
        (whom (.node order.connection)).state = ⟨.ok c, st, notes⟩)
      (read : ((snapshot c).run (whom (.node order.connection)).client st).value = .error e) :
      Status.Speaks whom s o (.error (.handOver e)) []
  /-- The slots are the answers that were given. -/
  | document {order : Status.Order} {c : Contract} {slots : Snapshot} {j : Json} {text : String}
      (ready : (Status.order s o).result = .ok order)
      (read : (Status.session o.json order).answers (whom (.node order.connection)).client
        (whom (.node order.connection)).state =
          [⟨.contractAt order.contract, .ok c⟩, ⟨.owner c, .ok slots.owner⟩,
            ⟨.pendingOwner c, .ok slots.pendingOwner⟩])
      (own : Finds (whom (.node order.connection)).client → c = ⟨order.contract⟩)
      (document : IsDocument text j)
      (shows : Status.Shows c slots j) :
      Status.Speaks whom s o (.ok slots) [text]

section Speaks

variable (whom : Partner → Listener) (s : Settings)

theorem Transfer.speaks (env : Environment) (stamp : Stamp) {o : TransferOptions}
    (hjson : o.json = true) :
    let made := carryOut whom (Transfer.plan s env stamp o)
    Transfer.Speaks whom s env stamp o made.1 (stdout made.2) := by
  have hmute : stdout (Transfer.plan s env stamp o).outputs = [] := stdout_plan stamp hjson
  cases hready : (Transfer.order s env o).result with
  | error e =>
      have hplan : (Transfer.plan s env stamp o).result = .error e := by
        rw [plan, Preparation.result_bind, hready]
        rfl
      simp only [carryOut_of_error hplan, hmute]
      exact .unready hready
  | ok order =>
      have hplan : (Transfer.plan s env stamp o).result = _ :=
        Transfer.plan_eq_ok_iff.mpr ⟨order, hready, rfl⟩
      simp only [carryOut_of_ok hplan, stdout_append, hmute, List.nil_append, hjson,
        (session_prints stamp order).stdout_run]
      generalize hfound : (whom order.partner).client (.contractAt order.contract)
        (whom order.partner).state = turn
      obtain ⟨e | c, st, notes⟩ := turn
      · rw [value_of_unfound hfound]
        exact .unfound hready (by rw [hfound])
      rw [(session_of_found stamp true hfound).2]
      cases hreturned : ((transferOwnership stamp c order.currentOwner order.newOwner
        order.fee).run (whom order.partner).client st).value with
      | error e => exact .failed hready hfound hreturned
      | ok report =>
          refine .document hready hfound hreturned (fun hfinds => hfinds _ _ _ (by rw [hfound]))
            (.of_plain report.plain_toJson) fun hstart hfinish => ?_
          obtain ⟨hstarted, hfinished⟩ := report_times hreturned
          rw [← hstarted] at hstart
          rw [← hfinished] at hfinish
          exact (Report.readsBack_of_lawful hstart hfinish).pretty_line

theorem Status.speaks {o : StatusOptions} (hjson : o.json = true) :
    let made := carryOut whom (Status.plan s o)
    Status.Speaks whom s o made.1 (stdout made.2) := by
  have hmute : stdout (Status.plan s o).outputs = [] := stdout_plan hjson
  cases hready : (Status.order s o).result with
  | error e =>
      have hplan : (Status.plan s o).result = .error e := by
        rw [plan, Preparation.result_bind, hready]
        rfl
      simp only [carryOut_of_error hplan, hmute]
      exact .unready hready
  | ok order =>
      have hplan : (Status.plan s o).result = _ :=
        Status.plan_eq_ok_iff.mpr ⟨order, hready, rfl⟩
      simp only [carryOut_of_ok hplan, stdout_append, hmute, List.nil_append, hjson]
      generalize hfound : (whom (.node order.connection)).client (.contractAt order.contract)
        (whom (.node order.connection)).state = turn
      obtain ⟨e | c, st, notes⟩ := turn
      · obtain ⟨hvalue, hprinted⟩ := session_of_unfound hfound
        rw [hvalue, hprinted]
        exact .unfound hready (by rw [hfound])
      obtain ⟨hvalue, hprinted, hanswers⟩ := session_of_found hfound
      rw [hprinted, hvalue]
      rcases snapshot_reads (whom (.node order.connection)).client st c with
        ⟨e, hread⟩ | ⟨slots, hread, hasked⟩
      · rw [hread]
        exact .unread hready hfound hread
      · rw [hasked, ← hjson] at hanswers
        rw [hread]
        exact .document hready hanswers (fun hfinds => hfinds _ _ _ (by rw [hfound]))
          (.of_plain (plain_snapshotJson c slots)) (shows_snapshotJson c slots)

end Speaks

def speaksJson : Dialogue → Bool
  | .transfer o => o.json
  | .accept _ => false
  | .status o => o.json

/-- What stands on the standard output after a command that speaks JSON: nothing if
it failed, and otherwise one document. -/
inductive Spoken : Except CommandError Unit → List String → Prop where
  | silent (e : CommandError) : Spoken (.error e) []
  | document {text : String} {j : Json} (h : IsDocument text j) : Spoken (.ok ()) [text]

theorem Transfer.Speaks.spoken {whom : Partner → Listener} {s : Settings} {env : Environment}
    {stamp : Stamp} {o : TransferOptions} {result : Except CommandError Report}
    {texts : List String} (h : Transfer.Speaks whom s env stamp o result texts) :
    Spoken (result.map fun _ => ()) texts := by
  cases h with
  | unready _ => exact .silent _
  | unfound _ _ => exact .silent _
  | failed _ _ _ => exact .silent _
  | document _ _ _ _ h _ => exact .document h

theorem Status.Speaks.spoken {whom : Partner → Listener} {s : Settings} {o : StatusOptions}
    {result : Except CommandError Snapshot} {texts : List String}
    (h : Status.Speaks whom s o result texts) : Spoken (result.map fun _ => ()) texts := by
  cases h with
  | unready _ => exact .silent _
  | unfound _ _ => exact .silent _
  | unread _ _ _ => exact .silent _
  | document _ _ _ h _ => exact .document h

theorem spoken_run {ν : Type} (network : Url → Node ν) (link : Link ν) (s : Settings)
    (env : Environment) (stamp : Stamp) {d : Dialogue} (hjson : speaksJson d = true) :
    let o := run network link (d.plan s env stamp)
    Spoken o.result (stdout o.outputs) := by
  cases d with
  | accept o => cases hjson
  | transfer o =>
      have hspeaks := Transfer.speaks (Partner.listener network link) s env stamp hjson
      rw [← run_eq_carryOut] at hspeaks
      rw [Dialogue.plan, run_forget]
      generalize run network link (Transfer.plan s env stamp o) = outcome at hspeaks
      exact hspeaks.spoken
  | status o =>
      have hspeaks := Status.speaks (Partner.listener network link) s hjson
      rw [← run_eq_carryOut] at hspeaks
      rw [Dialogue.plan, run_forget]
      generalize run network link (Status.plan s o) = outcome at hspeaks
      exact hspeaks.spoken

end Command

/-! ## Whole runs -/

namespace Program

open Command

def Printed.out? : Printed → Option String
  | .out text => some text
  | _ => none

/-- The texts that a run puts on the standard output, in order. -/
def Outcome.stdout {ν : Type} (o : Outcome ν) : List String := o.printed.filterMap Printed.out?

/-- No filter has a say in what stands on the standard output. -/
theorem out?_passed (f : Log.Filter) (span : Option Log.Span) (os : List Output) :
    (passed f span os).filterMap Printed.out? = TwoStep.stdout os := by
  induction os generalizing span with
  | nil => rfl
  | cons o os ih =>
      cases o with
      | out text => exact congrArg (List.cons text) (ih span)
      | err text => exact ih span
      | log record =>
          rw [passed, stdout_cons rfl]
          split
          · exact ih span
          · exact ih span
      | enter s => exact ih _
      | leave => exact ih _

/-- A failure is told on the other stream. -/
theorem stdout_failed {ν : Type} (printed : List Printed) (style : Log.Style) (d : Directory)
    (link : Link ν) (f : Failure) :
    (Outcome.failed printed style d link f).stdout = printed.filterMap Printed.out? := by
  simp [Outcome.stdout, Outcome.failed, Printed.out?]

variable {ν : Type} (network : Url → Node ν) (link : Link ν) (stamp : Handoff.Stamp)

/-- The outcome of a run that was told to speak JSON. -/
inductive SpeaksJson : Outcome ν → Prop where
  | silent {o : Outcome ν} (failed : o.code ≠ 0) (silent : o.stdout = []) : SpeaksJson o
  | document {o : Outcome ν} {text : String} {j : Json} (succeeded : o.code = 0)
      (printed : o.stdout = [text]) (document : IsDocument text j) : SpeaksJson o

theorem speaksJson_converse (d : Directory) (s : Setup) {c : Dialogue}
    (hjson : speaksJson c = true) : SpeaksJson (converse network link stamp d s c) := by
  have hspoken := spoken_run network link s.settings s.environment stamp hjson
  rw [converse]
  generalize Command.run network link (c.plan s.settings s.environment stamp) = o at hspoken
  obtain ⟨result, outputs, asked, link'⟩ := o
  have hprinted : (passed s.filter none (s.records.map Output.log ++ outputs)).filterMap
      Printed.out? = TwoStep.stdout outputs := by
    rw [out?_passed, stdout_append, stdout_map_log, List.nil_append]
  simp only at hspoken ⊢
  generalize TwoStep.stdout outputs = texts at hspoken hprinted
  cases hspoken with
  | silent e =>
      refine .silent Nat.one_ne_zero ?_
      rw [stdout_failed, hprinted]
  | document h => exact .document rfl hprinted h

/-- A run fails on the way to its command, or carries it out. -/
theorem speaksJson_run {i : Input} {line : CommandLine} {c : Dialogue}
    (hline : CommandLine.parse i.arguments = .ok line) (hc : commandOf line = .dialogue c)
    (hjson : speaksJson c = true) : SpeaksJson (run network link stamp i) := by
  simp only [run, hline, hc]
  cases setUp i.loader i.directory line.config i.environment with
  | error f => exact .silent Nat.one_ne_zero rfl
  | ok s => exact speaksJson_converse network link stamp i.directory s hjson

end Program

namespace Command

open Handoff

/-! ## JSON and nothing else -/

/-- What stands on the standard output of a transfer and of an enquiry that were told
to speak JSON, whoever answers them. -/
structure PrintsOnlyJson (s : Settings) (env : Environment) (stamp : Stamp)
    (t : TransferOptions) (q : StatusOptions) : Prop where
  transfer : ∀ whom : Partner → Listener,
    let made := carryOut whom (Transfer.plan s env stamp t)
    Transfer.Speaks whom s env stamp t made.1 (stdout made.2)
  status : ∀ whom : Partner → Listener,
    let made := carryOut whom (Status.plan s q)
    Status.Speaks whom s q made.1 (stdout made.2)
  /-- Over a network the partner itself answers, and finds no other contract than the
  one it was asked for. -/
  partner : ∀ {ν : Type} (network : Url → Node ν) (link : Link ν),
    (∀ {α : Type} (p : Preparation (Plan α)), carryOut (Partner.listener network link) p =
      ((run network link p).result, (run network link p).outputs)) ∧
    ∀ partner : Partner, Finds (partner.listener network link).client
  /-- So a run of the program prints a document and succeeds, or prints nothing and
  fails, be it on the way to the command. -/
  program : ∀ {ν : Type} (network : Url → Node ν) (link : Link ν) (i : Program.Input)
    (line : CommandLine) (d : Dialogue), CommandLine.parse i.arguments = .ok line →
      Program.commandOf line = .dialogue d → d = .transfer t ∨ d = .status q →
        Program.SpeaksJson (Program.run network link stamp i)

/-- With `--json` the standard output holds one document if the command succeeds, and
nothing at all if it fails. -/
theorem json_is_all_that_is_printed (s : Settings) (env : Environment) (stamp : Stamp)
    (t : TransferOptions) (q : StatusOptions) :
    PrintsOnlyJson s env stamp { t with json := true } { q with json := true } where
  transfer := fun whom => Transfer.speaks whom s env stamp rfl
  status := fun whom => Status.speaks whom s rfl
  partner := fun network link =>
    ⟨fun p => (run_eq_carryOut network link p).symm, Partner.finds_listener network link⟩
  program := by
    intro ν network link i line d hline hd hwhich
    refine Program.speaksJson_run network link stamp hline hd ?_
    rcases hwhich with rfl | rfl
    · rfl
    · rfl

end Command

end TwoStep
