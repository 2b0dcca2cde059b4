import TwoStep.Proofs.Command.Rehearsal
import TwoStep.Proofs.Ledger.Numbering

/-!
# What a dry run reports

A hand-over that meets no obstacle has its report fixed by the contract it runs
on: who owned it, and the numbers and blocks of its two calls
(`transferOwnership_report`).  The contract that a dry run makes for itself is a
fresh one, so there is nothing in the report but the inputs of the command and
the first two calls and blocks of a chain.

`Transfer.prints_report` is about every client: a transfer that succeeds prints
the report it returns.
-/

namespace TwoStep

namespace Handoff

open Session

/-! ## The report of a hand-over -/

/-- A hand-over that may go through reports the owner it found, and the next two
calls and blocks of the contract. -/
theorem transferOwnership_report {l : Ledger} {c : Contract} (stamp : Stamp)
    (currentOwner newOwner : Signer) (fee : Fee) (hc : c.address = l.address)
    (hn : Nominates l currentOwner.address newOwner.address)
    (ha : Accepts l newOwner.address) :
    ((transferOwnership stamp c currentOwner newOwner fee).run Ledger.client l).value =
      .ok ⟨stamp.correlationId, c.address, currentOwner.address, newOwner.address, fee,
        ⟨"setPendingOwner", Ledger.txHash (l.calls.length + 1), some (l.block + 1)⟩,
        ⟨"acceptOwnership", Ledger.txHash (l.calls.length + 2), some (l.block + 1 + 1)⟩,
        .accepted, stamp.startedAt, stamp.finishedAt⟩ := by
  have hrun := run_transferOwnership stamp currentOwner newOwner fee hc
  obtain ⟨hr, hf, s, happly⟩ := (allows_nomination_iff currentOwner newOwner fee hc).mpr hn
  have hnomination := (Ledger.submit_applied hr hf happly).1
  have hstate := (submit_nomination currentOwner newOwner fee hc hn).2
  have hallows : (afterNomination l currentOwner newOwner fee).Allows c .acceptOwnership
      ⟨newOwner, fee⟩ ↔ Accepts l newOwner.address :=
    allows_acceptance_iff newOwner fee hc rfl hn.2.2.2
  obtain ⟨hr', hf', t, happly'⟩ := hallows.mpr ha
  have hacceptance := (Ledger.submit_applied hr' hf' happly').1
  simp only [hnomination, hstate, hacceptance] at hrun
  rw [(Prod.mk.inj hrun).1, hn.2.2.1]
  simp only [Ledger.record, afterNomination, Call.method, List.length_append,
    List.length_singleton]

end Handoff

namespace Command

open Handoff Session

/-! ## The contract of a dry run -/

section Rehearsal

variable (contract : Address) (currentOwner newOwner : Signer)

theorem calls_rehearsal : (rehearsal contract currentOwner newOwner).calls = [] := by
  rw [rehearsal, Ledger.calls_register, Ledger.calls_register]
  rfl

theorem block_rehearsal : (rehearsal contract currentOwner newOwner).block = 0 := by
  rw [rehearsal, Ledger.block_register, Ledger.block_register]
  rfl

end Rehearsal

/-- A report of a hand-over between the accounts of two keys, on a contract that
took no call before. -/
structure ReportsRehearsal (contract : Address) (fee : Fee) (current new : PrivateKey)
    (r : Report) : Prop where
  contract : r.contract = contract
  fee : r.fee = fee
  previousOwner : r.previousOwner = current.address
  newOwner : r.newOwner = new.address
  nomination : r.nomination = ⟨"setPendingOwner", Ledger.txHash 1, some 1⟩
  acceptance : r.acceptance = ⟨"acceptOwnership", Ledger.txHash 2, some 2⟩
  phase : r.phase = .accepted

/-- The hand-over of a dry run succeeds iff the new owner is somebody. -/
theorem rehearsal_succeeds_iff (stamp : Stamp) (contract : Address) (fee : Fee)
    (current new : PrivateKey) :
    let run := (transferOwnership stamp ⟨contract⟩ (currentSigner current) (newSigner new) fee).run
      Ledger.client (rehearsal contract (currentSigner current) (newSigner new))
    ((∃ r, run.value = .ok r) ↔ new.address ≠ Address.zero) ∧
      ∀ r, run.value = .ok r → ReportsRehearsal contract fee current new r := by
  intro run
  have hc := (address_rehearsal contract (currentSigner current) (newSigner new)).symm
  have haccepts := accepts_rehearsal contract (currentSigner current) (newSigner new)
  have hiff : (∃ r, run.value = .ok r) ↔ new.address ≠ Address.zero := by
    have hdecided := transferOwnership_decided (rehearsal contract (currentSigner current)
      (newSigner new)) stamp ⟨contract⟩ (currentSigner current) (newSigner new) fee
    refine hdecided.succeeds_iff.trans ⟨fun h => h.2.1.2.2.2, fun hz => ?_⟩
    exact ⟨hc, nominates_rehearsal contract _ _ hz, haccepts⟩
  refine ⟨hiff, fun r hr => ?_⟩
  have hreport := transferOwnership_report (c := ⟨contract⟩) stamp (currentSigner current)
    (newSigner new) fee hc (nominates_rehearsal contract _ _ (hiff.mp ⟨r, hr⟩)) haccepts
  rw [calls_rehearsal, block_rehearsal] at hreport
  obtain rfl := Except.ok.inj (hr.symm.trans hreport)
  exact ⟨rfl, rfl, rfl, rfl, rfl, rfl, rfl⟩

/-! ## The command -/

/-- A transfer that succeeds prints the report it returns. -/
theorem Transfer.prints_report {σ : Type} {client : Client σ} {st : σ} {stamp : Stamp} {json : Bool}
    {o : Transfer.Order} {report : Report}
    (h : ((Transfer.session stamp json o).run client st).value = .ok report) :
    .out (Transfer.reportText json report) ∈
      ((Transfer.session stamp json o).run client st).outputs := by
  rw [Transfer.session, bind_eq, run_bind] at h ⊢
  generalize (resolve o.contract).run client st = found at h ⊢
  obtain ⟨e | c, st', outputs, asked⟩ := found
  · cases h
  · simp only [bind_eq, run_bind] at h ⊢
    generalize (transferOwnership stamp c o.currentOwner o.newOwner o.fee).run client _ = r at h ⊢
    obtain ⟨e | r, st'', outputs', asked'⟩ := r
    · simp only [run_bind] at h
      cases h
    · obtain rfl := Except.ok.inj h
      simp [say, Session.run, Session.bind]

/-- The dialogue of a dry run succeeds iff its hand-over does, and prints the
report. -/
theorem Transfer.session_rehearsal (stamp : Stamp) (json : Bool) (contract : Address) (fee : Fee)
    (current new : PrivateKey) (partner : Partner) :
    let run := (Transfer.session stamp json
      ⟨contract, fee, currentSigner current, newSigner new, partner⟩).run Ledger.client
        (rehearsal contract (currentSigner current) (newSigner new))
    ((∃ r, run.value = .ok r) ↔ new.address ≠ Address.zero) ∧
      ∀ r, run.value = .ok r → .out (Transfer.reportText json r) ∈ run.outputs ∧
        ReportsRehearsal contract fee current new r := by
  intro run
  obtain ⟨hiff, hreport⟩ := rehearsal_succeeds_iff stamp contract fee current new
  obtain ⟨-, hvalue⟩ := Transfer.session_of_found stamp json
    (o := ⟨contract, fee, currentSigner current, newSigner new, partner⟩)
    (found_rehearsal contract (currentSigner current) (newSigner new))
  have hok (r : Report) : run.value = .ok r ↔
      ((transferOwnership stamp ⟨contract⟩ (currentSigner current) (newSigner new) fee).run
        Ledger.client (rehearsal contract (currentSigner current) (newSigner new))).value =
          .ok r := by
    rw [show run.value = _ from hvalue, mapError_eq_ok_iff]
  refine ⟨(exists_congr hok).trans hiff, fun r hr => ?_⟩
  exact ⟨Transfer.prints_report hr, hreport r ((hok r).mp hr)⟩

/-- What a dry run comes to. -/
structure Rehearses {ν : Type} (s : Settings) (env : Environment) (o : TransferOptions)
    (dry : Outcome ν Report) : Prop where
  /-- It succeeds iff the contract and the fee can be read, there are both keys, and
  the new owner's is that of an account that can own anything. -/
  succeeds_iff : (∃ r, dry.result = .ok r) ↔ ∃ contract fee current new,
    Transfer.Inputs s env o.contract o.fee contract fee current new ∧
      new.address ≠ Address.zero
  /-- Then it prints the report of a rehearsal with these inputs. -/
  report : ∀ r, dry.result = .ok r →
    .out (Transfer.reportText o.json r) ∈ dry.outputs ∧ ∃ contract fee current new,
      Transfer.Inputs s env o.contract o.fee contract fee current new ∧
        ReportsRehearsal contract fee current new r

/-- Whatever the settings, the variables and the flags are, a dry run succeeds iff
it finds its inputs and the new owner is somebody.  Then it reports the whole
hand-over, be it between two accounts or from an account to itself. -/
theorem dry_run_reports_rehearsal {ν : Type} (network : Url → Node ν) (link : Link ν)
    (s : Settings) (env : Environment) (stamp : Stamp) (o : TransferOptions) :
    Rehearses s env o
      (run network link (Transfer.plan s env stamp { o with dryRun := true })) := by
  cases hplan : (Transfer.plan s env stamp { o with dryRun := true }).result with
  | error e =>
      rw [run_of_error network link hplan]
      refine ⟨⟨?_, ?_⟩, ?_⟩
      · rintro ⟨r, hr⟩
        cases hr
      · -- a dry run connects to nobody, so it can only want for an input
        rintro ⟨contract, fee, current, new, hin, -⟩
        have horder : (Transfer.order s env { o with dryRun := true }).result = .ok _ :=
          Transfer.order_eq_ok_iff.mpr ⟨contract, fee, current, new, _, hin, .rehearsal, rfl⟩
        cases hplan.symm.trans (Transfer.plan_eq_ok_iff.mpr ⟨_, horder, rfl⟩)
      · rintro r hr
        cases hr
  | ok plan =>
      obtain ⟨order, horder, rfl⟩ := Transfer.plan_eq_ok_iff.mp hplan
      obtain ⟨contract, fee, current, new, partner, hin, hfaces, rfl⟩ :=
        Transfer.order_eq_ok_iff.mp horder
      cases hfaces with
      | rehearsal =>
          obtain ⟨hiff, hreport⟩ := Transfer.session_rehearsal stamp o.json contract fee current
            new (.memory (rehearsal contract (currentSigner current) (newSigner new)))
          constructor
          · rw [(run_of_memory network link hplan).1]
            refine hiff.trans ⟨fun hz => ⟨contract, fee, current, new, hin, hz⟩, ?_⟩
            rintro ⟨contract', fee', current', new', hin', hz⟩
            obtain ⟨-, -, -, rfl⟩ := hin.unique hin'
            exact hz
          · intro r hr
            rw [(run_of_memory network link hplan).1] at hr
            rw [outputs_of_memory network link hplan]
            obtain ⟨hprinted, hrehearsed⟩ := hreport r hr
            exact ⟨List.mem_append_right _ hprinted, contract, fee, current, new, hin, hrehearsed⟩

end Command

end TwoStep
