/-
This file shows what a call of the audited entry point without a tenant does with its ledger.
-/

import Adjudicate.Effect.Execution
import Adjudicate.Shell.Interleaving

namespace Adjudicate.Shell

open Js Canonical Adjudicate.Core Adjudicate.Kernel Adjudicate.Audit Adjudicate.Effect
open Program (ofExcept tryCatch ensuring)

/-- These effects leave the ledger as it is. -/
def Op.Unledgered : Op → Prop
  | recordExecution _ => False
  | release _ => False
  | _ => True

theorem ledgerResponds_unledgered {before after : LedgerState} {event : ShellEvent}
    (unledgered : event.op.Unledgered) (responds : ledgerResponds before event after) :
    after = before := by
  obtain ⟨op, outcome⟩ := event
  cases op with
  | recordExecution | release => exact unledgered.elim
  | checkLedger intentHash =>
      cases outcome with
      | ok found => exact responds.2
      | error raised => exact responds
  | _ => exact responds

theorem leads_unledgered {before after : LedgerState} {trace : List ShellEvent}
    (unledgered : ∀ event ∈ trace, event.op.Unledgered)
    (leads : Leads ledgerResponds before trace after) : after = before := by
  induction leads with
  | nil => rfl
  | cons responds _ ih =>
      obtain ⟨head, tail⟩ := List.forall_mem_cons.mp unledgered
      rw [ih tail, ledgerResponds_unledgered head responds]

theorem Op.Deliberating.unledgered {op : Op} (deliberating : op.Deliberating) : op.Unledgered := by
  cases op with
  | recordExecution | release => exact deliberating.elim
  | _ => trivial

/-- A confined program of such effects keeps the ledger. -/
theorem executes_unledgered {A : Type} {before after : LedgerState} {program : ShellProgram A}
    {trace : List ShellEvent} {outcome : Except Thrown A} (confined : Confined Op.Unledgered program)
    (executes : Executes ledgerResponds before program trace outcome after) : after = before :=
  leads_unledgered (executes.1.confined confined) executes.2

theorem deliberating_keeps {A : Type} {before after : LedgerState} {program : ShellProgram A}
    {trace : List ShellEvent} {outcome : Except Thrown A} (confined : Confined Op.Deliberating program)
    (executes : Executes ledgerResponds before program trace outcome after) : after = before :=
  executes_unledgered (confined.mono fun _ => Op.Deliberating.unledgered) executes

theorem settling_keeps {A : Type} {before after : LedgerState} {program : ShellProgram A}
    {trace : List ShellEvent} {outcome : Except Thrown A} (confined : Confined Op.Settling program)
    (executes : Executes ledgerResponds before program trace outcome after) : after = before :=
  deliberating_keeps (confined.mono fun _ => Op.Settling.deliberating) executes

section

variable {S : Type} (host : Host) (call : Call S) {before after : LedgerState}
  {trace : List ShellEvent}

/-- The consult finds what the ledger holds under the hash of the envelope. -/
theorem consultLedger_finds {found : Option LedgerHit}
    (executes : Executes ledgerResponds before (consultLedger call) trace (.ok found) after) :
    after = before ∧
      found = if call.deps.ledger.isSome then before call.envelope.intentHash else none := by
  refine ⟨deliberating_keeps (confined_consultLedger call) executes, ?_⟩
  rw [consultLedger] at executes
  cases port : call.deps.ledger with
  | none =>
      rw [port] at executes
      obtain ⟨-, ⟨⟩, -⟩ := executes_pure.mp executes
      rfl
  | some ledger =>
      rw [port] at executes
      obtain ⟨_, _, checkStart, first, -, clock, executes⟩ := executes_bind_ok.mp executes
      obtain ⟨_, _, answer, second, -, check, executes⟩ := executes_bind_ok.mp executes
      obtain ⟨_, _, now, third, -, -, executes⟩ := executes_bind_ok.mp executes
      obtain ⟨_, _, _, fourth, -, -, executes⟩ := executes_bind_ok.mp executes
      obtain ⟨-, ⟨⟩, -⟩ := executes_pure.mp executes
      have started : first = before := deliberating_keeps confined_nowMs clock
      obtain ⟨-, responds⟩ := executes_perform.mp check
      rw [responds.1, started]
      rfl

/-- What the claim leaves of a settled decision. -/
inductive ClaimOutcome (decision : Decision) (rewritten : Option IntentEnvelope)
    (before : LedgerState) (second : Decision) (after : LedgerState) : Prop where
  | skipped (skips : executing decision rewritten = true → call.deps.ledger = none)
      (same : second = decision) (kept : after = before)
  | claimed (runs : executing decision rewritten = true) (ledger : call.deps.ledger.isSome)
      (same : second = decision) (entry : LedgerRecordInput)
      (hash : entry.intentHash = (executedEnvelope call.envelope rewritten).intentHash)
      (written : Written before after entry)
  | lost (runs : executing decision rewritten = true)
      (taken : before (executedEnvelope call.envelope rewritten).intentHash ≠ none)
      (hit : LedgerHit) (suppresses : second = replaySuppressedRefusal
        (executedEnvelope call.envelope rewritten).intentHash hit) (kept : after = before)

theorem claimKey_outcome {decision second : Decision} {rewritten : Option IntentEnvelope}
    {acquired : Bool}
    (executes : Executes ledgerResponds before (claimKey call decision rewritten) trace
      (.ok (second, acquired)) after) :
    ClaimOutcome call decision rewritten before second after := by
  rw [claimKey] at executes
  split at executes
  · next applies =>
      rw [Bool.and_eq_true] at applies
      obtain ⟨_, _, recordStart, first, -, clock, executes⟩ := executes_bind_ok.mp executes
      obtain ⟨_, _, resourceVersion, middle, -, resolved, executes⟩ := executes_bind_ok.mp executes
      obtain ⟨_, _, response, written, -, record, settles⟩ := executes_bind_ok.mp executes
      have started : first = before := deliberating_keeps confined_nowMs clock
      have same : middle = first := settling_keeps (confined_resolveResourceVersion _ _) resolved
      have kept : after = written := settling_keeps (confined_settleClaim _ _ _ _ _) settles
      obtain ⟨-, responds⟩ := executes_perform.mp record
      rw [same, started] at responds
      obtain ⟨rfl, rfl, rfl⟩ | ⟨rfl, rfl, hit, rfl⟩ := settleClaim_ok settles.1
      · exact .claimed applies.1 applies.2 rfl _ rfl (kept ▸ responds)
      · exact .lost applies.1 responds.1 hit rfl (kept.trans responds.2)
  · next skips =>
      obtain ⟨-, ⟨⟩, kept⟩ := executes_pure.mp executes
      refine .skipped (fun runs => ?_) rfl kept
      rw [runs, Bool.true_and, Option.not_isSome_iff_eq_none] at skips
      exact skips

/-- What a returning call did with the ledger. -/
inductive LedgerOutcome (before : LedgerState) (decision : Decision)
    (rewritten : Option IntentEnvelope) (after : LedgerState) : Prop where
  | replayed (ledger : call.deps.ledger.isSome) (hit : LedgerHit)
      (taken : before call.envelope.intentHash = some hit)
      (suppresses : decision = replaySuppressedRefusal call.envelope.intentHash hit)
      (plain : rewritten = none) (kept : after = before)
  | settled (fresh : call.deps.ledger.isSome → before call.envelope.intentHash = none)
      (first : Decision) (settles : Shell.settled host call = .ok (first, rewritten))
      (claim : ClaimOutcome call first rewritten before decision after)

theorem compute_outcome {computed : Computed}
    (executes : Executes ledgerResponds before (compute host call) trace (.ok computed) after) :
    LedgerOutcome host call before computed.decision computed.rewritten after := by
  obtain ⟨_, _, found, first, -, consult, executes⟩ := executes_bind_ok.mp executes
  obtain ⟨rfl, finds⟩ := consultLedger_finds call consult
  cases found with
  | some hit =>
      obtain ⟨-, ⟨⟩, kept⟩ := executes_pure.mp executes
      split at finds
      · next ledger => exact .replayed ledger hit finds.symm rfl rfl kept
      · cases finds
  | none =>
      obtain ⟨_, _, traced, second, -, kernel, decided⟩ := executes_bind_ok.mp executes
      obtain ⟨-, answer, rfl⟩ := executes_ofExcept.mp kernel
      obtain ⟨_, _, ⟨budgeted, budgetLink⟩, third, -, budget, funded⟩ := executes_bind_ok.mp decided
      obtain ⟨_, _, ⟨settled, rewritten, rewriteLink⟩, fourth, -, pass, passed⟩ :=
        executes_bind_ok.mp funded
      obtain ⟨_, _, ⟨decision, acquired⟩, fifth, -, claim, returned⟩ := executes_bind_ok.mp passed
      obtain ⟨-, ⟨⟩, rfl⟩ := executes_pure.mp returned
      have kept : third = second := settling_keeps (confined_budgetOverride call _) budget
      have same : fourth = third := settling_keeps (confined_readjudicate host call _) pass
      rw [same, kept] at claim
      refine .settled (fun ledger => ?_) settled ?_ (claimKey_outcome call claim)
      · rw [if_pos ledger] at finds
        exact finds.symm
      · rw [settled_eq_ok]
        have overrides : budgeted = overridden call traced.decision := budgetOverride_ok call budget.1
        refine ⟨traced.decision, ?_, overrides ▸ readjudicate_ok host call pass.1⟩
        rw [← adjudicateWithTrace_decision, ← answer]
        rfl

theorem Op.Reporting.unledgered {op : Op} (reporting : op.Reporting) : op.Unledgered := by
  cases op with
  | recordExecution | release => exact reporting.elim
  | _ => trivial

theorem Op.Recording.unledgered {op : Op} (recording : op.Recording) : op.Unledgered := by
  cases op with
  | recordExecution | release => exact recording.elim
  | _ => trivial

theorem Op.RollingBack.unledgered {op : Op} (rollingBack : op.RollingBack) : op.Unledgered := by
  cases op with
  | recordExecution | release => exact rollingBack.elim
  | _ => trivial

/-- A report that returns gives no key back. -/
theorem report_unledgered {start : JsNumber} {computed : Computed}
    {result : AdjudicateAndAuditResult}
    (run : Runs (report host call start computed) trace (.ok result)) :
    ∀ event ∈ trace, event.op.Unledgered := by
  obtain ⟨front, tail, ⟨durationMs, plan⟩, rfl, telemetry, run⟩ := runs_bind_ok.mp run
  obtain ⟨recording, cleanup, recorded, rfl, record, ⟨cleaned, wrapped⟩ | ⟨raised, -, ⟨⟩⟩⟩ :=
    runs_ensuring_wrap run
  simp only [List.forall_mem_append]
  refine ⟨fun event inside => ?_, fun event inside => ?_, fun event inside => ?_⟩
  · exact (telemetry.confined (confined_emitTelemetry host call _ _ _ _) event inside).unledgered
  · obtain ⟨kept, rfl, ran⟩ | ⟨_, _, _, _, _, -, -, -, rfl⟩ := recordOrRelease_run host call record
    · exact (ran.confined (confined_emitRecord _ _ _) event inside).unledgered
    · cases wrapped
  · split at cleaned
    · obtain ⟨rfl, -⟩ := runs_pure.mp cleaned
      cases inside
    · exact (cleaned.confined (confined_rollBackRateLimit _ _) event inside).unledgered

/-- Without a tenant the result is what was computed, and its record is about what runs. -/
theorem adjudicateAndAudit_outcome (context : call.deps.context = none)
    {result : AdjudicateAndAuditResult}
    (executes : Executes ledgerResponds before (adjudicateAndAudit host call) trace (.ok result)
      after) :
    ∃ rewritten, LedgerOutcome host call before result.decision rewritten after ∧
      result.record.envelope = executedEnvelope call.envelope rewritten := by
  obtain ⟨_, _, ⟨start, verdict⟩, middle, -, decided, delivered⟩ := executes_bind_ok.mp executes
  obtain ⟨_, _, begun, first, -, clock, gated⟩ := executes_bind_ok.mp decided
  obtain ⟨_, _, gate, second, -, tenant, computing⟩ := executes_bind_ok.mp gated
  have started : first = before := deliberating_keeps confined_nowMs clock
  rw [context] at tenant
  obtain ⟨-, ⟨⟩, rfl⟩ := executes_pure.mp tenant
  obtain ⟨_, _, computed, third, -, computes, returned⟩ := executes_bind_ok.mp computing
  obtain ⟨-, ⟨⟩, rfl⟩ := executes_pure.mp returned
  obtain ⟨same, -, envelope, -⟩ := report_ok host call delivered.1
  have kept : after = middle := leads_unledgered (report_unledgered host call delivered.1) delivered.2
  rw [same, kept, ← started]
  exact ⟨computed.rewritten, compute_outcome host call computes, envelope⟩

end

end Adjudicate.Shell
