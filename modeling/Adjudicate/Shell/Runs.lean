/-
This file describes the runs of the audited entry point, stage by stage.
-/

import Adjudicate.Effect.Pool
import Adjudicate.Shell.AdjudicateAndAudit

namespace Adjudicate.Shell

open Js Canonical Adjudicate.Core Adjudicate.Kernel Adjudicate.Audit Adjudicate.Effect
open Program (ofExcept tryCatch ensuring)

/-- These effects throw to the caller, because no cleanup surrounds them. -/
def Op.Unguarded : Op → Prop
  | nowMs => True
  | recordLedgerOp _ => True
  | recordDecision _ => True
  | recordRefusal _ => True
  | plan => True
  | recordSinkFailure event => event.sink = utf16 "learning"
  | _ => False

/-- These effects build and emit the audit record. -/
def Op.Recording : Op → Prop
  | nowIso => True
  | metadataProvider _ => True
  | emit _ => True
  | recordSinkFailure event => event.sink = utf16 "metadata"
  | _ => False

/-- These effects attach the metadata of the record. -/
def Op.Annotating : Op → Prop
  | metadataProvider _ => True
  | recordSinkFailure event => event.sink = utf16 "metadata"
  | _ => False

theorem Op.Annotating.recording {op : Op} (annotating : op.Annotating) : op.Recording := by
  cases op with
  | metadataProvider | recordSinkFailure => exact annotating
  | _ => exact annotating.elim

def Op.Releasing : Op → Prop
  | release _ => True
  | recordSinkFailure event => event.sink = utf16 "ledger"
  | _ => False

def Op.RollingBack : Op → Prop
  | rateLimitRollback => True
  | recordSinkFailure event => event.sink = utf16 "rate-limit"
  | _ => False

/-- These effects report the decision before the record is built. -/
def Op.Reporting : Op → Prop
  | nowMs => True
  | nowIso => True
  | recordDecision _ => True
  | recordRefusal _ => True
  | recordOutcome _ => True
  | plan => True
  | recordSinkFailure event => event.sink = utf16 "learning"
  | _ => False

/-- An unguarded effect failed. -/
def UnguardedFailure (trace : List ShellEvent) : Prop :=
  ∃ event ∈ trace, event.op.Unguarded ∧ event.Failed

/-- A ledger holds the keys that were acquired and not released. -/
def ledgerKeys : Registry Op Op.Response Thrown JsString where
  claims
    | ⟨.recordExecution entry, .ok .acquired⟩ => some entry.intentHash
    | _ => none
  releases
    | ⟨.release intentHash, _⟩ => some intentHash
    | _ => none

/-- The events neither claim nor release a key. -/
def Quiet (trace : List ShellEvent) : Prop :=
  ∀ event ∈ trace, ledgerKeys.claims event = none ∧ ledgerKeys.releases event = none

theorem quiet_nil : Quiet [] := by simp [Quiet]

theorem quiet_append {before after : List ShellEvent} :
    Quiet (before ++ after) ↔ Quiet before ∧ Quiet after := List.forall_mem_append

theorem quiet_cons {event : ShellEvent} {rest : List ShellEvent} :
    Quiet (event :: rest) ↔
      (ledgerKeys.claims event = none ∧ ledgerKeys.releases event = none) ∧ Quiet rest :=
  List.forall_mem_cons

/-- Effects other than a claim and a release are quiet. -/
theorem quiet_of_ops {trace : List ShellEvent}
    (off : ∀ event ∈ trace, (∀ entry, event.op ≠ .recordExecution entry) ∧
      ∀ intentHash, event.op ≠ .release intentHash) : Quiet trace := by
  intro ⟨op, outcome⟩ inside
  obtain ⟨noClaim, noRelease⟩ := off _ inside
  cases op with
  | recordExecution entry => exact (noClaim entry rfl).elim
  | release intentHash => exact (noRelease intentHash rfl).elim
  | _ => exact ⟨rfl, rfl⟩

theorem Op.Reporting.quiet {trace : List ShellEvent} (inside : ∀ event ∈ trace, event.op.Reporting) :
    Quiet trace := by
  apply quiet_of_ops
  intro event member
  have reporting := inside event member
  constructor <;> intro _ same <;> rw [same] at reporting <;> exact reporting

theorem Op.Recording.quiet {trace : List ShellEvent} (inside : ∀ event ∈ trace, event.op.Recording) :
    Quiet trace := by
  apply quiet_of_ops
  intro event member
  have recording := inside event member
  constructor <;> intro _ same <;> rw [same] at recording <;> exact recording

theorem Op.RollingBack.quiet {trace : List ShellEvent}
    (inside : ∀ event ∈ trace, event.op.RollingBack) : Quiet trace := by
  apply quiet_of_ops
  intro event member
  have rollingBack := inside event member
  constructor <;> intro _ same <;> rw [same] at rollingBack <;> exact rollingBack

section Telemetry

variable {S : Type} (host : Host) (call : Call S)

theorem emitDecision_throwsOn (envelope : IntentEnvelope) (decision : Decision)
    (durationMs : JsNumber) :
    ThrowsOn Op.Unguarded (emitDecision envelope decision durationMs) := by
  apply throwsOn_bind (throwsOn_perform trivial)
  intro _
  cases decision with
  | refuse refusal bases => exact throwsOn_perform trivial
  | _ => exact throwsOn_pure ()

theorem emitOutcome_throwsOn (envelope : IntentEnvelope) (decision : Decision)
    (durationMs : JsNumber) (trace : List AdjudicationTraceEntry) (plan : Option PlanSnapshot) :
    ThrowsOn Op.Unguarded (emitOutcome host envelope decision durationMs trace plan) := by
  apply throwsOn_tryCatch
  · apply confined_bind (confined_ofExcept _)
    intro planFingerprint
    apply confined_bind (confined_perform id)
    intro instant
    exact confined_perform id
  · intro err
    exact throwsOn_perform (rfl : utf16 "learning" = utf16 "learning")

/-- The telemetry throws exactly when an unguarded effect fails. -/
theorem emitTelemetry_throwsOn (start : JsNumber) (decision : Decision)
    (trace : List AdjudicationTraceEntry) (planned : Bool) :
    ThrowsOn Op.Unguarded (emitTelemetry host call start decision trace planned) := by
  apply throwsOn_bind (throwsOn_perform trivial)
  intro now
  apply throwsOn_bind (emitDecision_throwsOn _ _ _)
  intro _
  apply throwsOn_bind
  · cases planned with
    | true => exact @throwsOn_perform Op Op.Response Thrown Op.Unguarded .plan trivial
    | false => exact throwsOn_pure none
  · intro plan
    apply throwsOn_bind (emitOutcome_throwsOn _ _ _ _ _ _)
    intro _
    exact throwsOn_pure _

theorem confined_emitDecision (envelope : IntentEnvelope) (decision : Decision)
    (durationMs : JsNumber) :
    Confined Op.Reporting (emitDecision envelope decision durationMs) := by
  apply confined_bind (confined_perform trivial)
  intro _
  cases decision with
  | refuse refusal bases => exact confined_perform trivial
  | _ => trivial

theorem confined_emitOutcome (envelope : IntentEnvelope) (decision : Decision)
    (durationMs : JsNumber) (trace : List AdjudicationTraceEntry) (plan : Option PlanSnapshot) :
    Confined Op.Reporting (emitOutcome host envelope decision durationMs trace plan) := by
  apply confined_tryCatch
  · apply confined_bind (confined_ofExcept _)
    intro planFingerprint
    apply confined_bind (confined_perform trivial)
    intro instant
    exact confined_perform trivial
  · intro err
    exact confined_perform (rfl : utf16 "learning" = utf16 "learning")

theorem confined_emitTelemetry (start : JsNumber) (decision : Decision)
    (trace : List AdjudicationTraceEntry) (planned : Bool) :
    Confined Op.Reporting (emitTelemetry host call start decision trace planned) := by
  apply confined_bind (confined_perform trivial)
  intro now
  apply confined_bind (confined_emitDecision _ _ _)
  intro _
  apply confined_bind
  · cases planned with
    | true => exact confined_perform trivial
    | false => trivial
  · intro plan
    apply confined_bind (confined_emitOutcome _ _ _ _ _ _)
    intro _
    trivial

end Telemetry

section Record

variable (host : Host) (deps : AdjudicateAndAuditDeps)

theorem confined_applyMeta (record : AuditRecord) :
    Confined Op.Annotating (applyMeta deps record) := by
  rw [applyMeta]
  split
  · apply confined_tryCatch
    · apply confined_bind (confined_perform trivial)
      intro metadata
      cases metadata <;> trivial
    · intro err
      apply confined_bind
      · exact confined_perform (rfl : utf16 "metadata" = utf16 "metadata")
      · intro _
        trivial
  · trivial

theorem confined_emitRecord (input : JsString → BuildAuditInput) :
    Confined Op.Recording (emitRecord host deps input) := by
  apply confined_bind (confined_perform trivial)
  intro instant
  apply confined_bind (confined_ofExcept _)
  intro built
  apply confined_bind ((confined_applyMeta deps built).mono fun _ => Op.Annotating.recording)
  intro record
  apply confined_bind (confined_perform trivial)
  intro _
  trivial

theorem confined_rollBackRateLimit (intentHash : JsString) :
    Confined Op.RollingBack (rollBackRateLimit deps intentHash) := by
  rw [rollBackRateLimit]
  split
  · apply confined_tryCatch (confined_perform trivial)
    intro err
    exact confined_perform (rfl : utf16 "rate-limit" = utf16 "rate-limit")
  · trivial

/-- Metadata never changes what the record is about. -/
theorem applyMeta_ok {record annotated : AuditRecord} {trace : List ShellEvent}
    (run : Runs (applyMeta deps record) trace (.ok annotated)) :
    annotated = record ∨ ∃ metadata, annotated = record.attachMetadata metadata := by
  rw [applyMeta] at run
  split at run
  · obtain ⟨value, ⟨⟩, body⟩ | ⟨before, after, raised, -, -, last⟩ := runs_tryCatch.mp run
    · obtain ⟨before, after, metadata, -, -, last⟩ := runs_bind_ok.mp body
      cases metadata with
      | none =>
          obtain ⟨-, ⟨⟩⟩ := runs_pure.mp last
          exact .inl rfl
      | some metadata =>
          obtain ⟨-, ⟨⟩⟩ := runs_pure.mp last
          exact .inr ⟨metadata, rfl⟩
    · obtain ⟨_, _, _, -, -, rest⟩ := runs_bind_ok.mp last
      obtain ⟨-, ⟨⟩⟩ := runs_pure.mp rest
      exact .inl rfl
  · obtain ⟨-, ⟨⟩⟩ := runs_pure.mp run
    exact .inl rfl

/-- An emitted record is the built one up to its metadata. -/
theorem emitRecord_ok {input : JsString → BuildAuditInput} {record : AuditRecord}
    {trace : List ShellEvent} (run : Runs (emitRecord host deps input) trace (.ok record)) :
    ∃ instant built, buildAuditRecord host instant (input instant) = .ok built ∧
      (record = built ∨ ∃ metadata, record = built.attachMetadata metadata) ∧
      ⟨.emit record, .ok ()⟩ ∈ trace := by
  obtain ⟨_, tail, instant, rfl, -, rest⟩ := runs_bind_ok.mp run
  obtain ⟨_, tail, built, rfl, recorded, rest⟩ := runs_bind_ok.mp rest
  obtain ⟨_, tail, annotated, rfl, applied, rest⟩ := runs_bind_ok.mp rest
  obtain ⟨_, tail, _, rfl, emitted, rest⟩ := runs_bind_ok.mp rest
  obtain ⟨-, ⟨⟩⟩ := runs_pure.mp rest
  rw [runs_perform.mp emitted]
  obtain ⟨-, built'⟩ := runs_ofExcept.mp recorded
  exact ⟨instant, built, built'.symm, applyMeta_ok deps applied, by simp⟩

/-- A supplied rollback is tried exactly once. -/
theorem rollBackRateLimit_run {intentHash : JsString} {trace : List ShellEvent}
    {outcome : Except Thrown Unit} (supplied : deps.rateLimitRollback = true)
    (run : Runs (rollBackRateLimit deps intentHash) trace outcome) :
    ∃ response rest, trace = ⟨.rateLimitRollback, response⟩ :: rest ∧
      ∀ event ∈ rest, event.op ≠ .rateLimitRollback := by
  rw [rollBackRateLimit, if_pos supplied] at run
  obtain ⟨value, -, body⟩ | ⟨before, after, raised, rfl, body, last⟩ := runs_tryCatch.mp run
  · rw [runs_perform.mp body]
    exact ⟨_, [], rfl, by simp⟩
  · rw [runs_perform.mp body, runs_perform.mp last]
    exact ⟨_, _, rfl, by simp⟩

end Record

end Adjudicate.Shell
