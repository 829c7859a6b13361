/-
This file shows which envelope and which decision the emitted record of a run is about.
-/

import Adjudicate.Shell.Atomicity

namespace Adjudicate.Shell

open Js Canonical Adjudicate.Core Adjudicate.Kernel Adjudicate.Audit Adjudicate.Effect
open Program (ofExcept tryCatch ensuring)

structure Documents (record : AuditRecord) (envelope : IntentEnvelope) (decision : Decision) :
    Prop where
  envelope : record.envelope = envelope
  decision : record.decision = decision

/-- No answer of the ledger suppresses the call before it is adjudicated. -/
def LedgerMissed (trace : List ShellEvent) : Prop :=
  ∀ intentHash hit, ⟨.checkLedger intentHash, .ok (some hit)⟩ ∉ trace

/-- An emitted record shows where the run was decided. -/
inductive Emission {S : Type} (host : Host) (call : Call S) (trace : List ShellEvent)
    (record : AuditRecord) : Prop where
  | killed (context : RuntimeContext) (kill : KillSwitchState) (closed : ¬TenantOpen call trace)
      (documents : Documents record call.envelope (tenantKillRefusal context kill))
  | replayed (hit : LedgerHit) (known : ¬LedgerMissed trace)
      (documents : Documents record call.envelope
        (replaySuppressedRefusal call.envelope.intentHash hit))
  | settled (tenantOpen : TenantOpen call trace) (missed : LedgerMissed trace)
      (decision : Decision) (rewritten : Option IntentEnvelope)
      (settles : Shell.settled host call = .ok (decision, rewritten))
      (documents : Documents record (executedEnvelope call.envelope rewritten) decision)
  | lost (tenantOpen : TenantOpen call trace) (missed : LedgerMissed trace)
      (decision : Decision) (rewritten : Option IntentEnvelope) (hit : LedgerHit)
      (settles : Shell.settled host call = .ok (decision, rewritten))
      (documents : Documents record (executedEnvelope call.envelope rewritten)
        (replaySuppressedRefusal (executedEnvelope call.envelope rewritten).intentHash hit))

/-- These effects come after the tenant switch and the ledger were asked. -/
def Op.Ungated : Op → Prop
  | isKilled => False
  | checkLedger _ => False
  | _ => True

theorem Op.Settling.ungated {op : Op} (settling : op.Settling) : op.Ungated := by
  cases op with
  | isKilled => exact settling
  | checkLedger => exact settling
  | _ => trivial

/-- The events of a stage ask no gate and emit no record. -/
structure Silent (trace : List ShellEvent) : Prop where
  ungated : ∀ event ∈ trace, event.op.Ungated
  unemitted : ∀ record sent, ⟨.emit record, sent⟩ ∉ trace

theorem silent_of_ops {trace : List ShellEvent}
    (inside : ∀ event ∈ trace, event.op.Reporting ∨ event.op.Annotating ∨ event.op.Releasing ∨
      event.op.RollingBack) : Silent trace where
  ungated event member := by
    have kind := inside event member
    cases op : event.op with
    | isKilled | checkLedger =>
        rw [op] at kind
        simp [Op.Reporting, Op.Annotating, Op.Releasing, Op.RollingBack] at kind
    | _ => trivial
  unemitted record sent member := by
    have kind := inside _ member
    simp [Op.Reporting, Op.Annotating, Op.Releasing, Op.RollingBack] at kind

/-- Without an event of a gate the gates are as open as before. -/
theorem tenantOpen_append {S : Type} {call : Call S} {before after : List ShellEvent}
    (ungated : ∀ event ∈ after, event.op.Ungated) (tenantOpen : TenantOpen call before) :
    TenantOpen call (before ++ after) where
  usable := tenantOpen.usable
  released outcome asked := by
    obtain early | late := List.mem_append.mp asked
    · exact tenantOpen.released outcome early
    · exact (ungated _ late).elim

theorem ledgerMissed_append {before after : List ShellEvent}
    (ungated : ∀ event ∈ after, event.op.Ungated) (missed : LedgerMissed before) :
    LedgerMissed (before ++ after) := by
  intro intentHash hit asked
  obtain early | late := List.mem_append.mp asked
  · exact missed intentHash hit early
  · exact ungated _ late

section

variable {S : Type} (host : Host) (call : Call S)

/-- Whether or not the emit succeeds, the record is the built one up to its metadata. -/
theorem emitRecord_run {deps : AdjudicateAndAuditDeps} {input : JsString → BuildAuditInput}
    {trace : List ShellEvent} {outcome : Except Thrown AuditRecord}
    (run : Runs (emitRecord host deps input) trace outcome) {record : AuditRecord}
    {sent : Except Thrown Unit} (emitted : ⟨.emit record, sent⟩ ∈ trace) :
    ∃ instant built, buildAuditRecord host instant (input instant) = .ok built ∧
      (record = built ∨ ∃ metadata, record = built.attachMetadata metadata) := by
  obtain ⟨first, rest, instant, rfl, clock, builds⟩ | ⟨raised, rfl, clock⟩ := runs_bind.mp run
  swap
  · rw [runs_perform.mp clock] at emitted
    simp at emitted
  rw [runs_perform.mp clock] at emitted
  obtain ⟨second, rest, built, rfl, recorded, adds⟩ | ⟨raised, rfl, recorded⟩ :=
    runs_bind.mp builds
  swap
  · rw [(runs_ofExcept.mp recorded).1] at emitted
    simp at emitted
  obtain ⟨rfl, same⟩ := runs_ofExcept.mp recorded
  obtain ⟨third, rest, annotated, rfl, annotates, sends⟩ | ⟨raised, rfl, annotates⟩ :=
    runs_bind.mp adds
  all_goals
    have silent := silent_of_ops fun event member =>
      .inr (.inl (annotates.confined (confined_applyMeta deps built) event member))
  swap
  · simp only [List.nil_append, List.mem_append, List.mem_singleton] at emitted
    obtain clash | early := emitted
    · cases clash
    · exact (silent.unemitted record sent early).elim
  refine ⟨instant, built, same.symm, ?_⟩
  have last : ⟨.emit record, sent⟩ ∈ rest := by
    simp only [List.nil_append, List.mem_append, List.mem_singleton] at emitted
    obtain clash | early | late := emitted
    · cases clash
    · exact (silent.unemitted record sent early).elim
    · exact late
  have emits : annotated = record := by
    obtain ⟨_, _, _, rfl, send, returned⟩ | ⟨raised, rfl, send⟩ := runs_bind.mp sends
    · obtain ⟨rfl, -⟩ := runs_pure.mp returned
      rw [runs_perform.mp send] at last
      simp only [List.append_nil, List.mem_singleton] at last
      cases last
      rfl
    · rw [runs_perform.mp send] at last
      simp only [List.mem_singleton] at last
      cases last
      rfl
  exact emits ▸ applyMeta_ok deps annotates

/-- The record documents its input. -/
theorem emitRecord_documents {deps : AdjudicateAndAuditDeps} {input : JsString → BuildAuditInput}
    {trace : List ShellEvent} {outcome : Except Thrown AuditRecord}
    (run : Runs (emitRecord host deps input) trace outcome) {record : AuditRecord}
    {sent : Except Thrown Unit} (emitted : ⟨.emit record, sent⟩ ∈ trace) :
    ∃ instant, Documents record (input instant).envelope (input instant).decision := by
  obtain ⟨instant, built, recorded, same⟩ := emitRecord_run host run emitted
  obtain ⟨envelope, -, decision⟩ := buildAuditRecord_subject recorded
  refine ⟨instant, ?_⟩
  obtain rfl | ⟨metadata, rfl⟩ := same
  · exact ⟨envelope, decision⟩
  · exact ⟨envelope, decision⟩

/-- A report asks no gate, and an emitted record documents what was computed. -/
theorem report_emission {start : JsNumber} {computed : Computed} {trace : List ShellEvent}
    {outcome : Except Thrown AdjudicateAndAuditResult}
    (run : Runs (report host call start computed) trace outcome) :
    (∀ event ∈ trace, event.op.Ungated) ∧
      ∀ record sent, ⟨.emit record, sent⟩ ∈ trace →
        Documents record (executedEnvelope call.envelope computed.rewritten) computed.decision := by
  have recording {deps : AdjudicateAndAuditDeps} {input : JsString → BuildAuditInput}
      {events : List ShellEvent} {result : Except Thrown AuditRecord}
      (run : Runs (emitRecord host deps input) events result) :
      ∀ event ∈ events, event.op.Ungated := by
    intro event member
    have kind := run.confined (confined_emitRecord host deps input) event member
    cases op : event.op with
    | isKilled | checkLedger =>
        rw [op] at kind
        exact kind
    | _ => trivial
  obtain ⟨front, tail, ⟨durationMs, plan⟩, rfl, telemetry, run⟩ | ⟨raised, rfl, telemetry⟩ :=
    runs_bind.mp run
  all_goals
    have frontSilent := silent_of_ops fun event member =>
      .inl (telemetry.confined (confined_emitTelemetry host call _ _ _ _) event member)
  swap
  · refine ⟨frontSilent.ungated, ?_⟩
    intro record sent emitted
    exact (frontSilent.unemitted record sent emitted).elim
  obtain ⟨recorded, cleanup, result, rfl, record, rest⟩ := runs_ensuring_wrap run
  have cleanupSilent : Silent cleanup := by
    apply silent_of_ops
    intro event member
    obtain ⟨cleaned, -⟩ | ⟨raised, cleaned, -⟩ := rest
    · exact .inr (.inr (.inr (rollBackUnless_quiet call cleaned event member)))
    · exact .inr (.inr (.inr (rollBackUnless_quiet call cleaned event member)))
  have middle : (∀ event ∈ recorded, event.op.Ungated) ∧
      ∀ record sent, ⟨.emit record, sent⟩ ∈ recorded →
        Documents record (executedEnvelope call.envelope computed.rewritten) computed.decision := by
    obtain ⟨kept, rfl, emits⟩ | ⟨before, after, raised, released, thrown, rfl, emits, release, rfl⟩ :=
      recordOrRelease_run host call record
    · refine ⟨recording emits, ?_⟩
      intro record sent emitted
      obtain ⟨instant, documents⟩ := emitRecord_documents host emits emitted
      exact documents
    · have releaseSilent := silent_of_ops fun event member =>
        .inr (.inr (.inl ((releaseKey_run call release).1 event member)))
      refine ⟨List.forall_mem_append.mpr ⟨recording emits, releaseSilent.ungated⟩, ?_⟩
      intro record sent emitted
      obtain early | late := List.mem_append.mp emitted
      · obtain ⟨instant, documents⟩ := emitRecord_documents host emits early
        exact documents
      · exact (releaseSilent.unemitted record sent late).elim
  refine ⟨?_, ?_⟩
  · simp only [List.forall_mem_append]
    exact ⟨frontSilent.ungated, middle.1, cleanupSilent.ungated⟩
  · intro record sent emitted
    simp only [List.mem_append] at emitted
    obtain early | inside | late := emitted
    · exact (frontSilent.unemitted record sent early).elim
    · exact middle.2 record sent inside
    · exact (cleanupSilent.unemitted record sent late).elim

theorem killPath_emission {start : JsNumber} {context : RuntimeContext} {kill : KillSwitchState}
    {trace : List ShellEvent} {outcome : Except Thrown AdjudicateAndAuditResult}
    (run : Runs (killPath host call start context kill) trace outcome) {record : AuditRecord}
    {sent : Except Thrown Unit} (emitted : ⟨.emit record, sent⟩ ∈ trace) :
    Documents record call.envelope (tenantKillRefusal context kill) := by
  obtain ⟨front, tail, ⟨durationMs, plan⟩, rfl, telemetry, run⟩ | ⟨raised, rfl, telemetry⟩ :=
    runs_bind.mp run
  all_goals
    have frontSilent := silent_of_ops fun event member =>
      .inl (telemetry.confined (confined_emitTelemetry host call _ _ _ _) event member)
  swap
  · exact (frontSilent.unemitted record sent emitted).elim
  obtain ⟨recorded, cleanup, result, rfl, records, rest⟩ := runs_ensuring_wrap run
  simp only [List.mem_append] at emitted
  obtain early | inside | late := emitted
  · exact (frontSilent.unemitted record sent early).elim
  · obtain ⟨instant, documents⟩ := emitRecord_documents host records inside
    exact documents
  · have cleanupSilent : Silent cleanup := by
      apply silent_of_ops
      intro event member
      obtain ⟨cleaned, -⟩ | ⟨raised, cleaned, -⟩ := rest
      · exact .inr (.inr (.inr (cleaned.confined (confined_rollBackRateLimit _ _) event member)))
      · exact .inr (.inr (.inr (cleaned.confined (confined_rollBackRateLimit _ _) event member)))
    exact (cleanupSilent.unemitted record sent late).elim

/-- The claim comes after both gates. -/
theorem claimKey_ungated (decision : Decision) (rewritten : Option IntentEnvelope) :
    Confined Op.Ungated (claimKey call decision rewritten) := by
  rw [claimKey]
  split
  · apply confined_bind (confined_perform trivial)
    intro recordStart
    apply confined_bind ((confined_resolveResourceVersion _ _).mono fun _ => Op.Settling.ungated)
    intro resourceVersion
    apply confined_bind (confined_perform trivial)
    intro outcome
    exact (confined_settleClaim _ _ _ _ _).mono fun _ => Op.Settling.ungated
  · trivial

/-- An open tenant gate was asked and has let the call pass. -/
theorem tenantGate_open {trace : List ShellEvent}
    (run : Runs (tenantGate call.deps.context) trace (.ok none)) :
    TenantOpen call trace ∧ LedgerMissed trace := by
  cases context : call.deps.context with
  | none =>
      rw [context] at run
      obtain ⟨rfl, -⟩ := runs_pure.mp run
      refine ⟨⟨?_, by simp⟩, by simp [LedgerMissed]⟩
      simp [context]
  | some context' =>
      rw [context, tenantGate] at run
      obtain ⟨first, _, state, rfl, read, returned⟩ := runs_bind_ok.mp run
      obtain ⟨rfl, passed⟩ := runs_pure.mp returned
      cases state with
      | some kill => cases passed
      | none =>
          rw [readTenantKillState] at read
          split at read
          · next usable =>
              obtain ⟨value, same, body⟩ | ⟨before, after, raised, -, -, closed⟩ :=
                runs_tryCatch.mp read
              · cases same
                obtain ⟨_, _, killed, rfl, ask, rest⟩ := runs_bind_ok.mp body
                cases killed with
                | true =>
                    obtain ⟨_, _, kill, -, -, raised⟩ := runs_bind_ok.mp rest
                    obtain ⟨-, ⟨⟩⟩ := runs_pure.mp raised
                | false =>
                    obtain ⟨rfl, -⟩ := runs_pure.mp rest
                    rw [runs_perform.mp ask]
                    refine ⟨⟨by simpa [context] using usable, by simp⟩, by simp [LedgerMissed]⟩
              · obtain ⟨-, ⟨⟩⟩ := runs_pure.mp closed
          · obtain ⟨-, ⟨⟩⟩ := runs_pure.mp read

/-- The ledger is consulted without asking the tenant switch. -/
theorem consultLedger_run {ledgerHit : Option LedgerHit} {trace : List ShellEvent}
    (run : Runs (consultLedger call) trace (.ok ledgerHit)) :
    (∀ outcome, ⟨.isKilled, outcome⟩ ∉ trace) ∧ (ledgerHit = none → LedgerMissed trace) := by
  rw [consultLedger] at run
  split at run
  · obtain ⟨rfl, -⟩ := runs_pure.mp run
    simp [LedgerMissed]
  · obtain ⟨_, _, start, rfl, clock, checks⟩ := runs_bind_ok.mp run
    obtain ⟨_, _, answer, rfl, check, times⟩ := runs_bind_ok.mp checks
    obtain ⟨_, _, now, rfl, again, reports⟩ := runs_bind_ok.mp times
    obtain ⟨_, _, _, rfl, reported, returned⟩ := runs_bind_ok.mp reports
    obtain ⟨rfl, same⟩ := runs_pure.mp returned
    cases same
    rw [runs_perform.mp clock, runs_perform.mp check, runs_perform.mp again,
      runs_perform.mp reported]
    refine ⟨by simp, ?_⟩
    rintro rfl
    simp [LedgerMissed]

/-- What is computed comes from a hit of the ledger or from the settled decision. -/
inductive Computing (trace : List ShellEvent) (computed : Computed) : Prop where
  | replayed (hit : LedgerHit) (known : ¬LedgerMissed trace) (same : computed = suppressed call hit)
  | settled (missed : LedgerMissed trace) (rewritten : Option IntentEnvelope)
      (settles : Shell.settled host call = .ok (computed.decision, rewritten))
      (same : computed.rewritten = rewritten)
  | lost (missed : LedgerMissed trace) (decision : Decision) (rewritten : Option IntentEnvelope)
      (hit : LedgerHit) (settles : Shell.settled host call = .ok (decision, rewritten))
      (same : computed.rewritten = rewritten)
      (suppresses : computed.decision =
        replaySuppressedRefusal (executedEnvelope call.envelope rewritten).intentHash hit)

theorem compute_emission {trace : List ShellEvent} {computed : Computed}
    (run : Runs (compute host call) trace (.ok computed)) :
    (∀ outcome, ⟨.isKilled, outcome⟩ ∉ trace) ∧ Computing host call trace computed := by
  obtain ⟨first, tail, ledgerHit, rfl, consult, decides⟩ := runs_bind_ok.mp run
  obtain ⟨unasked, missed⟩ := consultLedger_run call consult
  cases ledgerHit with
  | some hit =>
      obtain ⟨rfl, same⟩ := runs_pure.mp decides
      cases same
      rw [List.append_nil]
      refine ⟨unasked, .replayed hit ?_ rfl⟩
      exact fun missed => missed _ hit (consultLedger_hit call consult)
  | none =>
      obtain ⟨second, tail, traced, rfl, kernel, decided⟩ := runs_bind_ok.mp decides
      obtain ⟨rfl, answer⟩ := runs_ofExcept.mp kernel
      obtain ⟨third, tail, ⟨budgeted, budgetLink⟩, rfl, budget, funded⟩ := runs_bind_ok.mp decided
      obtain ⟨fourth, tail, ⟨second, rewritten, rewriteLink⟩, rfl, pass, passed⟩ :=
        runs_bind_ok.mp funded
      obtain ⟨fifth, tail, ⟨later, acquired⟩, rfl, claim, returned⟩ := runs_bind_ok.mp passed
      obtain ⟨rfl, same⟩ := runs_pure.mp returned
      cases same
      have settles : Shell.settled host call = .ok (second, rewritten) := by
        have adjudicated : adjudicate host call.envelope call.state call.kill call.policy =
            .ok traced.decision := by
          rw [← adjudicateWithTrace_decision, ← answer]
          rfl
        have overrides : budgeted = overridden call traced.decision := budgetOverride_ok call budget
        rw [settled_eq_ok]
        exact ⟨_, adjudicated, overrides ▸ readjudicate_ok host call pass⟩
      have later : ∀ event ∈ third ++ (fourth ++ fifth), event.op.Ungated := by
        simp only [List.forall_mem_append]
        refine ⟨fun event member => ?_, fun event member => ?_, fun event member => ?_⟩
        · exact (budget.confined (confined_budgetOverride call _) event member).ungated
        · exact (pass.confined (confined_readjudicate host call _) event member).ungated
        · exact claim.confined (claimKey_ungated call _ _) event member
      have whole : first ++ ([] ++ (third ++ (fourth ++ (fifth ++ [])))) =
          first ++ (third ++ (fourth ++ fifth)) := by simp
      rw [whole]
      refine ⟨?_, ?_⟩
      · intro outcome asked
        obtain early | late := List.mem_append.mp asked
        · exact unasked outcome early
        · exact later _ late
      have missedAll := ledgerMissed_append later (missed rfl)
      obtain unclaimed | won := claimKey_run call claim
      · obtain ⟨-, ⟨rfl, -⟩ | ⟨entry, hit, -, rfl⟩⟩ := unclaimed.result _ _ rfl
        · exact .settled missedAll rewritten settles rfl
        · exact .lost missedAll second rewritten hit settles rfl rfl
      · obtain ⟨_, -, -, ⟨same, -⟩ | ⟨⟨_, ⟨⟩⟩, -⟩⟩ := won.acquired
        cases same
        exact .settled missedAll rewritten settles rfl

/-- Every record that a run emits, whether or not the sink takes it, shows where it was decided. -/
theorem adjudicateAndAudit_emission {trace : List ShellEvent}
    {outcome : Except Thrown AdjudicateAndAuditResult}
    (run : Runs (adjudicateAndAudit host call) trace outcome) {record : AuditRecord}
    {sent : Except Thrown Unit} (emitted : ⟨.emit record, sent⟩ ∈ trace) :
    Emission host call trace record := by
  have deliberated {events : List ShellEvent} {result : Except Thrown (JsNumber × Verdict)}
      (decided : Runs (deliberate host call) events result) : ⟨.emit record, sent⟩ ∉ events := by
    intro inside
    obtain deliberating | ⟨entry, same⟩ :=
      decided.confined (confined_deliberate host call) _ inside
    · exact deliberating
    · cases same
  obtain ⟨before, after, ⟨start, verdict⟩, rfl, decided, delivered⟩ | ⟨raised, rfl, decided⟩ :=
    runs_bind.mp run
  swap
  · exact (deliberated decided emitted).elim
  have inside : ⟨.emit record, sent⟩ ∈ after := by
    obtain early | late := List.mem_append.mp emitted
    · exact (deliberated decided early).elim
    · exact late
  obtain ⟨first, tail, clock, rfl, times, gates⟩ := runs_bind_ok.mp decided
  obtain ⟨second, tail, gate, rfl, tenant, computes⟩ := runs_bind_ok.mp gates
  cases gate with
  | some killed =>
      obtain ⟨rfl, same⟩ := runs_pure.mp computes
      cases same
      refine .killed killed.1 killed.2 ?_ (killPath_emission host call delivered inside)
      intro tenantOpen
      apply tenantGate_killed call tenant
      exact tenantOpen.mono call fun event member => by simp [member]
  | none =>
      obtain ⟨third, tail, computed, rfl, ran, returned⟩ := runs_bind_ok.mp computes
      obtain ⟨rfl, same⟩ := runs_pure.mp returned
      cases same
      obtain ⟨reportUngated, documents⟩ := report_emission host call delivered
      obtain ⟨gateOpen, gateMissed⟩ := tenantGate_open call tenant
      obtain ⟨unasked, computing⟩ := compute_emission host call ran
      have tenantOpen : TenantOpen call (first ++ (second ++ (third ++ [])) ++ after) := by
        apply tenantOpen_append reportUngated
        refine ⟨gateOpen.usable, ?_⟩
        intro outcome asked
        rw [runs_perform.mp times] at asked
        simp only [List.append_nil, List.singleton_append, List.mem_cons, List.mem_append] at asked
        obtain clash | early | late := asked
        · cases clash
        · exact gateOpen.released outcome early
        · exact (unasked outcome late).elim
      have missedAll (missed : LedgerMissed third) :
          LedgerMissed (first ++ (second ++ (third ++ [])) ++ after) := by
        apply ledgerMissed_append reportUngated
        intro intentHash hit asked
        rw [runs_perform.mp times] at asked
        simp only [List.append_nil, List.singleton_append, List.mem_cons, List.mem_append] at asked
        obtain clash | early | late := asked
        · cases clash
        · exact gateMissed intentHash hit early
        · exact missed intentHash hit late
      have about := documents record sent inside
      cases computing with
      | replayed hit known same =>
          subst same
          refine .replayed hit ?_ about
          intro missed
          exact known fun intentHash other asked => missed intentHash other (by simp [asked])
      | settled missed rewritten settles same =>
          subst same
          exact .settled tenantOpen (missedAll missed) _ _ settles about
      | lost missed decision rewritten hit settles same suppresses =>
          subst same
          rw [suppresses] at about
          exact .lost tenantOpen (missedAll missed) _ _ hit settles about

end

end Adjudicate.Shell
