/-
This file decides when a confirmed request is executed by the second call.
-/

import Adjudicate.Audit.Recordable
import Adjudicate.Kernel.FirstAnswer
import Adjudicate.Shell.Provenance

namespace Adjudicate.Shell

open Js Canonical Adjudicate.Core Adjudicate.Kernel Adjudicate.Audit Adjudicate.Effect
open Program (ofExcept tryCatch ensuring)

/-- The effect succeeds, the clock reads an instant, the tenant is not killed and the ledger has no
entry. -/
def Calm (instant : JsNumber → Prop) : ShellEvent → Prop
  | ⟨.nowMs, outcome⟩ => ∃ now, outcome = .ok now ∧ instant now
  | ⟨.isKilled, outcome⟩ => outcome = .ok false
  | ⟨.checkLedger _, outcome⟩ => outcome = .ok none
  | ⟨.recordExecution _, outcome⟩ => outcome = .ok .acquired
  | ⟨_, outcome⟩ => ∃ response, outcome = .ok response

section Calm

variable {instant : JsNumber → Prop}

theorem calm_nowMs : Returns (Calm instant) instant (invoke .nowMs) :=
  @returns_perform Op Op.Response Thrown (Calm instant) .nowMs instant fun _ calm => calm

theorem calm_invoke (op : Op) : Returns (Calm instant) (fun _ => True) (invoke op) := by
  apply returns_perform
  intro outcome calm
  cases op with
  | nowMs =>
      obtain ⟨now, same, -⟩ := calm
      exact ⟨now, same, trivial⟩
  | isKilled => exact ⟨false, calm, trivial⟩
  | checkLedger intentHash => exact ⟨none, calm, trivial⟩
  | recordExecution entry => exact ⟨.acquired, calm, trivial⟩
  | _ =>
      obtain ⟨response, same⟩ := calm
      exact ⟨response, same, trivial⟩

theorem Calm.tenantOpen {S : Type} {call : Call S} {trace : List ShellEvent}
    (calm : ∀ event ∈ trace, Calm instant event)
    (usable : ∀ context ∈ call.deps.context, context.killSwitch = true) :
    TenantOpen call trace where
  usable := usable
  released _ asked := calm _ asked

theorem Calm.ledgerOpen {trace : List ShellEvent} (calm : ∀ event ∈ trace, Calm instant event) :
    LedgerOpen trace where
  missed _ _ found := by
    cases calm _ found
  won _ lost := by
    cases calm _ lost

section

variable {S : Type} (host : Host) (call : Call S)

theorem calm_tenantGate (usable : ∀ context ∈ call.deps.context, context.killSwitch = true) :
    Returns (Calm instant) (· = none) (tenantGate call.deps.context) := by
  cases supplied : call.deps.context with
  | none => exact returns_pure rfl
  | some context =>
      have asked : Returns (Calm instant) (· = false) (invoke .isKilled) :=
        @returns_perform Op Op.Response Thrown (Calm instant) .isKilled (· = false)
          fun _ calm => ⟨false, calm, rfl⟩
      have read : Returns (Calm instant) (· = none) (readTenantKillState context.killSwitch) := by
        rw [readTenantKillState, if_pos (usable context supplied)]
        apply returns_tryCatch
        apply returns_bind asked
        rintro _ rfl
        exact returns_pure rfl
      apply returns_bind read
      rintro _ rfl
      exact returns_pure rfl

theorem calm_consultLedger : Returns (Calm instant) (· = none) (consultLedger call) := by
  rw [consultLedger]
  split
  · exact returns_pure rfl
  · apply returns_bind (calm_invoke _)
    intro checkStart _
    have missed : Returns (Calm instant) (· = none)
        (invoke (.checkLedger call.envelope.intentHash)) :=
      @returns_perform Op Op.Response Thrown (Calm instant)
        (.checkLedger call.envelope.intentHash) (· = none) fun _ calm => ⟨none, calm, rfl⟩
    apply returns_bind missed
    rintro ledgerHit absent
    apply returns_bind (calm_invoke _)
    intro now _
    apply returns_bind (calm_invoke _)
    intro _ _
    exact returns_pure absent

theorem calm_budgetOverride (decision : Decision) :
    Returns (Calm instant) (fun funded => funded.1 = ((budgetFor call decision).map Prod.snd).getD decision)
      (budgetOverride call decision) := by
  rw [budgetOverride]
  split
  · next unfunded => exact returns_pure (by rw [unfunded]; rfl)
  · next grant executed funded =>
      have read : Returns (Calm instant) (fun _ => True) (budgetPredecessorAt grant) := by
        rw [budgetPredecessorAt]
        split
        · exact returns_pure trivial
        · exact calm_invoke .nowIso
      apply returns_bind read
      intro predecessorAt _
      exact returns_pure (by rw [funded]; rfl)

theorem calm_readjudicate {decision second : Decision} {rewritten : Option IntentEnvelope}
    (passed : readjudicated host call decision = .ok (second, rewritten)) :
    Returns (Calm instant) (fun result => result.1 = second ∧ result.2.1 = rewritten)
      (readjudicate host call decision) := by
  have pass : Returns (Calm instant) (· = (second, rewritten))
      (ofExcept (readjudicated host call decision) : ShellProgram _) :=
    returns_ofExcept ⟨_, passed, rfl⟩
  apply returns_bind pass
  rintro _ rfl
  cases rewritten with
  | none => exact returns_pure ⟨rfl, rfl⟩
  | some rewritten =>
      apply returns_bind (calm_invoke _)
      intro instant _
      exact returns_pure ⟨rfl, rfl⟩

theorem calm_claimKey (decision : Decision) (rewritten : Option IntentEnvelope) :
    Returns (Calm instant) (fun claimed => claimed.1 = decision)
      (claimKey call decision rewritten) := by
  rw [claimKey]
  split
  · apply returns_bind (calm_invoke _)
    intro recordStart _
    have resolved : Returns (Calm instant) (fun _ => True)
        (resolveResourceVersion call.deps (executedEnvelope call.envelope rewritten)) := by
      rw [resolveResourceVersion]
      split
      · exact calm_invoke (.resolveResourceVersion (executedEnvelope call.envelope rewritten))
      · exact returns_pure trivial
    apply returns_bind resolved
    intro resourceVersion _
    have won : Returns (Calm instant) (· = .acquired)
        (invoke (.recordExecution
          (claimEntry (executedEnvelope call.envelope rewritten) resourceVersion))) :=
      returns_perform fun _ calm => ⟨.acquired, calm, rfl⟩
    apply returns_bind won
    rintro _ rfl
    apply returns_bind (calm_invoke _)
    intro now _
    apply returns_bind (calm_invoke _)
    intro _ _
    exact returns_pure rfl
  · exact returns_pure rfl

/-- A calm computation ends in the settled decision. -/
theorem calm_compute {decision : Decision} {rewritten : Option IntentEnvelope}
    (settles : settled host call = .ok (decision, rewritten)) :
    Returns (Calm instant)
      (fun computed => computed.decision = decision ∧ computed.rewritten = rewritten)
      (compute host call) := by
  obtain ⟨first, adjudicated, passed⟩ := (settled_eq_ok host call).mp settles
  apply returns_bind (calm_consultLedger call)
  rintro _ rfl
  have kernel : Returns (Calm instant) (fun traced => traced.decision = first)
      (ofExcept (adjudicateWithTrace host call.envelope call.state call.kill call.policy) :
        ShellProgram _) := by
    apply returns_ofExcept
    have traced := adjudicateWithTrace_decision host call.envelope call.state call.kill call.policy
    rw [adjudicated] at traced
    cases answer : adjudicateWithTrace host call.envelope call.state call.kill call.policy with
    | error raised =>
        rw [answer] at traced
        cases traced
    | ok answered =>
        rw [answer] at traced
        exact ⟨answered, rfl, Except.ok.inj traced⟩
  apply returns_bind kernel
  rintro traced rfl
  apply returns_bind (calm_budgetOverride call _)
  rintro ⟨budgeted, budgetLink⟩ funded
  have overrides : budgeted = overridden call traced.decision := funded
  rw [← overrides] at passed
  apply returns_bind (calm_readjudicate host call passed)
  rintro ⟨second, replacement, rewriteLink⟩ ⟨rfl, rfl⟩
  apply returns_bind (calm_claimKey call _ _)
  rintro ⟨kept, acquired⟩ same
  exact returns_pure ⟨same, rfl⟩

theorem calm_emitDecision (envelope : IntentEnvelope) (decision : Decision)
    (durationMs : JsNumber) :
    Returns (Calm instant) (fun _ => True) (emitDecision envelope decision durationMs) := by
  apply returns_bind (calm_invoke _)
  intro _ _
  cases decision with
  | refuse refusal bases =>
      exact calm_invoke (.recordRefusal
        { intentKind := envelope.kind, refusal, intentHash := envelope.intentHash })
  | _ => exact returns_pure trivial

/-- The fingerprint of a plan is always there, so the learning event is sent. -/
theorem calm_emitOutcome (envelope : IntentEnvelope) (decision : Decision) (durationMs : JsNumber)
    (trace : List AdjudicationTraceEntry) (plan : Option PlanSnapshot) :
    Returns (Calm instant) (fun _ => True)
      (emitOutcome host envelope decision durationMs trace plan) := by
  apply returns_tryCatch
  have fingerprint : Returns (Calm instant) (fun _ => True)
      (ofExcept (plan.mapM (planFingerprintOf host)) : ShellProgram _) := by
    apply returns_ofExcept
    cases plan with
    | none => exact ⟨none, rfl, trivial⟩
    | some plan =>
        obtain ⟨planFingerprint, hash⟩ := fingerprint_returns host plan
        refine ⟨some planFingerprint, ?_, trivial⟩
        rw [Option.mapM_some, hash]
        rfl
  apply returns_bind fingerprint
  intro planFingerprint _
  apply returns_bind (calm_invoke _)
  intro read _
  exact calm_invoke (Op.recordOutcome _)

/-- The duration is the difference of two instants. -/
theorem calm_emitTelemetry {start : JsNumber} (started : instant start)
    (finite : ∀ start now, instant start → instant now → (now.sub start).isFinite = true)
    (decision : Decision) (trace : List AdjudicationTraceEntry) (planned : Bool) :
    Returns (Calm instant) (fun reported => reported.1.isFinite = true)
      (emitTelemetry host call start decision trace planned) := by
  apply returns_bind calm_nowMs
  intro now read
  apply returns_bind (calm_emitDecision _ _ _)
  intro _ _
  have plan : Returns (Calm instant) (fun _ => True) (readPlan planned) := by
    cases planned with
    | true => exact calm_invoke .plan
    | false => exact returns_pure trivial
  apply returns_bind plan
  intro plan _
  apply returns_bind (calm_emitOutcome host _ _ _ _ _)
  intro _ _
  exact returns_pure (finite start now started read)

theorem calm_applyMeta (deps : AdjudicateAndAuditDeps) (record : AuditRecord) :
    Returns (Calm instant) (fun _ => True) (applyMeta deps record) := by
  rw [applyMeta]
  split
  · apply returns_tryCatch
    apply returns_bind (calm_invoke _)
    intro metadata _
    cases metadata <;> exact returns_pure trivial
  · exact returns_pure trivial

theorem calm_emitRecord {deps : AdjudicateAndAuditDeps} {input : JsString → BuildAuditInput}
    (built : ∀ clock, ∃ record, buildAuditRecord host clock (input clock) = .ok record) :
    Returns (Calm instant) (fun _ => True) (emitRecord host deps input) := by
  apply returns_bind (calm_invoke _)
  intro clock _
  obtain ⟨record, same⟩ := built clock
  have build : Returns (Calm instant) (fun _ => True)
      (ofExcept (buildAuditRecord host clock (input clock)) : ShellProgram _) :=
    returns_ofExcept ⟨record, same, trivial⟩
  apply returns_bind build
  intro record _
  apply returns_bind (calm_applyMeta deps record)
  intro annotated _
  apply returns_bind (calm_invoke _)
  intro _ _
  exact returns_pure trivial

theorem calm_rollBackRateLimit (deps : AdjudicateAndAuditDeps) (intentHash : JsString) :
    Returns (Calm instant) (fun _ => True) (rollBackRateLimit deps intentHash) := by
  rw [rollBackRateLimit]
  split
  · exact returns_tryCatch (calm_invoke .rateLimitRollback)
  · exact returns_pure trivial

/-- A decision that can be hashed is reported. -/
theorem calm_report {start : JsNumber} {computed : Computed} (started : instant start)
    (finite : ∀ start now, instant start → instant now → (now.sub start).isFinite = true)
    (envelope : AllFinite (executedEnvelope call.envelope computed.rewritten).toJs)
    (decision : AllFinite computed.decision.toJs)
    (snapshot : ∀ recorded ∈ call.deps.aggregateSnapshot, AllFinite recorded.snapshot)
    (signs : ∀ signer ∈ call.deps.signer, ∀ hash, ∃ signature, signer.sign hash = .ok signature) :
    Returns (Calm instant) (fun _ => True) (report host call start computed) := by
  apply returns_bind (calm_emitTelemetry host call started finite _ _ _)
  rintro ⟨durationMs, plan⟩ duration
  have built (clock : JsString) : ∃ record,
      buildAuditRecord host clock (reportInput call computed durationMs plan clock) =
        .ok record :=
    buildAuditRecord_returns ⟨envelope, decision, duration, nofun, snapshot⟩ signs
  have cleaned : Returns (Calm instant) (fun _ => True)
      (if executing computed.decision computed.rewritten then pure ()
        else rollBackRateLimit call.deps call.envelope.intentHash) := by
    split
    · exact returns_pure trivial
    · exact calm_rollBackRateLimit _ _
  apply returns_bind (returns_ensuring (returns_tryCatch (calm_emitRecord host built)) cleaned)
  intro record _
  exact returns_pure trivial

/-- A calm call whose settled decision can be hashed returns. -/
theorem calm_adjudicateAndAudit {decision : Decision} {rewritten : Option IntentEnvelope}
    (settles : settled host call = .ok (decision, rewritten))
    (usable : ∀ context ∈ call.deps.context, context.killSwitch = true)
    (finite : ∀ start now, instant start → instant now → (now.sub start).isFinite = true)
    (envelope : AllFinite (executedEnvelope call.envelope rewritten).toJs)
    (reportable : AllFinite decision.toJs)
    (snapshot : ∀ recorded ∈ call.deps.aggregateSnapshot, AllFinite recorded.snapshot)
    (signs : ∀ signer ∈ call.deps.signer, ∀ hash, ∃ signature, signer.sign hash = .ok signature) :
    Returns (Calm instant) (fun _ => True) (adjudicateAndAudit host call) := by
  have deliberates : Returns (Calm instant) (fun deliberated => instant deliberated.1 ∧
      ∃ computed, deliberated.2 = .computed computed ∧ computed.decision = decision ∧
        computed.rewritten = rewritten) (deliberate host call) := by
    apply returns_bind calm_nowMs
    intro start started
    apply returns_bind (calm_tenantGate call usable)
    rintro _ rfl
    apply returns_bind (calm_compute host call settles)
    intro computed fits
    exact returns_pure ⟨started, computed, rfl, fits⟩
  apply returns_bind deliberates
  rintro ⟨start, verdict⟩ ⟨started, computed, rfl, rfl, rfl⟩
  exact calm_report host call started finite envelope reportable snapshot signs

end

end Calm

section

variable {S : Type} (host : Host) (call : Call S)

/-- An emitted record was built from finite input. -/
theorem emitRecord_finite {deps : AdjudicateAndAuditDeps} {input : JsString → BuildAuditInput}
    {record : AuditRecord} {trace : List ShellEvent}
    (run : Runs (emitRecord host deps input) trace (.ok record)) :
    ∃ instant, (input instant).Finite ∧ record.envelope = (input instant).envelope := by
  obtain ⟨instant, built, recorded, same, -⟩ := emitRecord_ok host deps run
  have envelope := (buildAuditRecord_subject recorded).1
  obtain rfl | ⟨metadata, rfl⟩ := same
  · exact ⟨instant, finite_of_built recorded, envelope⟩
  · exact ⟨instant, finite_of_built recorded, envelope⟩

/-- A returned decision was hashed, and so was the envelope of its record. -/
theorem adjudicateAndAudit_finite {trace : List ShellEvent} {result : AdjudicateAndAuditResult}
    (run : Runs (adjudicateAndAudit host call) trace (.ok result)) :
    AllFinite result.decision.toJs ∧ AllFinite result.record.envelope.toJs := by
  obtain ⟨_, _, ⟨start, verdict⟩, rfl, -, delivered⟩ := runs_bind_ok.mp run
  cases verdict with
  | killed context kill =>
      obtain ⟨_, _, ⟨durationMs, plan⟩, rfl, -, ending⟩ := runs_bind_ok.mp delivered
      obtain ⟨_, _, recorded, rfl, emitted, ⟨-, wrapped⟩ | ⟨raised, -, ⟨⟩⟩⟩ :=
        runs_ensuring_wrap ending
      cases recorded with
      | error raised => cases wrapped
      | ok record =>
          cases wrapped
          obtain ⟨instant, finite, envelope⟩ := emitRecord_finite host emitted
          exact ⟨finite.decision, envelope ▸ finite.envelope⟩
  | computed computed =>
      obtain ⟨_, _, ⟨durationMs, plan⟩, rfl, -, ending⟩ := runs_bind_ok.mp delivered
      obtain ⟨_, _, recorded, rfl, record, ⟨-, wrapped⟩ | ⟨raised, -, ⟨⟩⟩⟩ :=
        runs_ensuring_wrap ending
      obtain ⟨record, rfl, emitted⟩ | ⟨_, _, _, _, _, -, -, -, rfl⟩ :=
        recordOrRelease_run host call record
      · cases wrapped
        obtain ⟨instant, finite, envelope⟩ := emitRecord_finite host emitted
        exact ⟨finite.decision, envelope ▸ finite.envelope⟩
      · cases wrapped

/-- A request for confirmation is asked for the given envelope or for its rewriting, and is
recorded under the given envelope. -/
theorem asked_cases {trace : List ShellEvent} {result : AdjudicateAndAuditResult}
    (run : Runs (adjudicateAndAudit host call) trace (.ok result))
    (asks : result.decision.kind = .requestConfirmation) :
    result.record.envelope = call.envelope ∧
      (adjudicate host call.envelope call.state call.kill call.policy = .ok result.decision ∨
        ∃ replacement reason bases,
          adjudicate host call.envelope call.state call.kill call.policy =
              .ok (.rewrite replacement reason bases) ∧
            adjudicate host replacement call.state call.kill call.policy = .ok result.decision) := by
  obtain ⟨-, _, _, suppressed⟩ | ⟨-, _, _, suppressed⟩ | ⟨rewritten, settles, envelope, -⟩ :=
    adjudicateAndAudit_ok host call run
  · rw [suppressed] at asks
    cases asks
  · rw [suppressed] at asks
    cases asks
  obtain ⟨first, adjudicated, passed⟩ := (settled_eq_ok host call).mp settles
  have unchanged : overridden call first = first ∨ (overridden call first).kind = .execute :=
    (overridden_cases call first).imp_right fun covered => covered.2.2
  obtain ⟨-, same, rfl⟩ | ⟨replacement, reason, bases, again, same, readjudicated, ending⟩ :=
    readjudicated_ok host call passed
  · refine ⟨envelope, .inl ?_⟩
    obtain plain | executes := unchanged
    · rw [same, plain, adjudicated]
    · rw [same, executes] at asks
      cases asks
  · obtain plain | executes := unchanged
    · rw [plain] at same
      obtain ⟨-, second, -⟩ | ⟨-, second, -⟩ | ⟨-, -, second, rfl⟩ := ending
      · rw [second, plain, same] at asks
        cases asks
      · rw [second] at asks
        cases asks
      · exact ⟨envelope, .inr ⟨replacement, reason, bases, same ▸ adjudicated,
          second ▸ readjudicated⟩⟩
    · rw [same] at executes
      cases executes

/-- The dependencies carry a receipt for the envelope with no binding. -/
def AdjudicateAndAuditDeps.Confirms (deps : AdjudicateAndAuditDeps) (envelope : IntentEnvelope) :
    Prop :=
  ∃ receipt, deps.confirmationReceipt = some receipt ∧ receipt.intentHash = envelope.intentHash ∧
    receipt.binding = none

/-- The decision that a receipt puts in place of a request can be hashed when the request can. -/
theorem overridden_confirmed {decision : Decision} (asks : decision.kind = .requestConfirmation)
    (confirms : call.deps.Confirms call.envelope) (finite : AllFinite decision.toJs) :
    (overridden call decision).kind = .execute ∧ AllFinite (overridden call decision).toJs := by
  obtain ⟨receipt, supplied, hash, unbound⟩ := confirms
  have fits : receiptMatches call.envelope receipt = true := by
    simp [receiptMatches, hash, unbound, confirmationBindingMatches]
  cases decision with
  | requestConfirmation prompt bases =>
      have executed : overridden call (.requestConfirmation prompt bases) =
          .execute (bases ++ [basis .confirmation BasisCodes.confirmationReceived
            (some [("confirmedAt", .str receipt.at), ("originalPrompt", .str prompt)])]) := by
        simp [overridden, confirmationOverride, supplied, fits, budgetFor]
      have kept := (allFinite_arr _).mp (allFinite_basis finite)
      rw [executed]
      refine ⟨rfl, ?_⟩
      simp only [Decision.toJs, allFinite_obj, List.forall_mem_cons, allFinite_arr, List.map_append,
        List.forall_mem_append]
      refine ⟨trivial, ⟨⟨kept, ?_⟩, List.forall_mem_nil _⟩⟩
      simp [basis, DecisionBasis.toJs, optionalProp, AllFinite]
  | _ => cases asks

/-- A verified envelope is rewritten first exactly when the guard lists answer so. -/
theorem answers_rewrite_iff {first : Decision}
    (adjudicated : adjudicate host call.envelope call.state call.kill call.policy = .ok first)
    (verified : Verified host call.envelope call.kill) :
    Answers host call.envelope call.state (fun decision => decision.kind = .rewrite) call.policy ↔
      first.kind = .rewrite := by
  have rewrites := yields_adjudicate host call.envelope call.state call.kill call.policy
    (@actionable_kind .rewrite nofun)
  rw [adjudicated, yields_ok] at rewrites
  rw [rewrites]
  exact (and_iff_right verified).symm

/-- The rewriting stage passes a request of the second pass on, whatever receipt there is. -/
theorem settled_of_asked {replacement : IntentEnvelope} {reason : JsString}
    {bases : List DecisionBasis} {decision : Decision}
    (substitutes : adjudicate host call.envelope call.state call.kill call.policy =
      .ok (.rewrite replacement reason bases))
    (asked : adjudicate host replacement call.state call.kill call.policy = .ok decision)
    (asks : decision.kind = .requestConfirmation) :
    settled host call = .ok (decision, none) := by
  rw [settled_eq_ok]
  refine ⟨_, substitutes, ?_⟩
  change readjudicated host call (.rewrite replacement reason bases) = _
  rw [readjudicated, asked]
  cases decision with
  | requestConfirmation prompt own => rfl
  | _ => cases asks

/-- A first call asks for confirmation. A calm second call with a receipt returns an executing
result exactly when the guard lists do not rewrite the envelope first. -/
theorem confirmed_executes_iff {first : Call S} {asked : List ShellEvent}
    {result : AdjudicateAndAuditResult}
    (run : Runs (adjudicateAndAudit host first) asked (.ok result))
    (asks : result.decision.kind = .requestConfirmation) {deps : AdjudicateAndAuditDeps}
    (confirms : deps.Confirms first.envelope)
    (usable : ∀ context ∈ deps.context, context.killSwitch = true)
    (snapshot : ∀ recorded ∈ deps.aggregateSnapshot, AllFinite recorded.snapshot)
    (signs : ∀ signer ∈ deps.signer, ∀ hash, ∃ signature, signer.sign hash = .ok signature)
    {instant : JsNumber → Prop}
    (finite : ∀ start now, instant start → instant now → (now.sub start).isFinite = true)
    {confirmed : List ShellEvent} {outcome : Except Thrown AdjudicateAndAuditResult}
    (again : Runs (adjudicateAndAudit host { first with deps }) confirmed outcome)
    (calm : ∀ event ∈ confirmed, Calm instant event) :
    (∃ executed, outcome = .ok executed ∧ executed.Executing) ↔
      ¬Answers host first.envelope first.state (fun decision => decision.kind = .rewrite)
        first.policy := by
  obtain ⟨recorded, asked | ⟨replacement, reason, bases, substitutes, asked⟩⟩ :=
    asked_cases host first run asks
  · have verified := verified_of_yields host first.envelope first.state first.kill first.policy
      actionable_requestConfirmation ⟨result.decision, asked, asks⟩
    have plain : result.decision.kind ≠ .rewrite := by simp [asks]
    refine iff_of_true ?_ ((answers_rewrite_iff host first asked verified).not.mpr plain)
    obtain ⟨hashed, envelope⟩ := adjudicateAndAudit_finite host first run
    obtain ⟨executes, reportable⟩ :=
      overridden_confirmed { first with deps } asks confirms hashed
    have settles := settled_of_execute host { first with deps } asked executes
    obtain ⟨executed, rfl, -⟩ := calm_adjudicateAndAudit host { first with deps } settles usable
      finite (recorded ▸ envelope) reportable snapshot signs confirmed outcome again calm
    refine ⟨executed, rfl, (executing_iff_kind host _ again).mpr (.inl ?_)⟩
    obtain ⟨stopped, -⟩ | ⟨suppressed, -⟩ | ⟨rewritten, same, -⟩ := adjudicateAndAudit_ok host _ again
    · exact (stopped (Calm.tenantOpen calm usable)).elim
    · exact (suppressed (Calm.ledgerOpen calm)).elim
    · rw [settles] at same
      rw [← (Prod.mk.inj (Except.ok.inj same)).1, executes]
  · have verified := verified_of_yields host first.envelope first.state first.kill first.policy
      (@actionable_kind .rewrite nofun) ⟨_, substitutes, rfl⟩
    refine iff_of_false ?_ (not_not.mpr ((answers_rewrite_iff host first substitutes verified).mpr rfl))
    rintro ⟨executed, rfl, executes⟩
    have settles := settled_of_asked host { first with deps } substitutes asked asks
    have kinds := (executing_iff_kind host _ again).mp executes
    obtain ⟨stopped, -⟩ | ⟨suppressed, -⟩ | ⟨rewritten, same, -⟩ := adjudicateAndAudit_ok host _ again
    · exact stopped (Calm.tenantOpen calm usable)
    · exact suppressed (Calm.ledgerOpen calm)
    · rw [settles] at same
      rw [← (Prod.mk.inj (Except.ok.inj same)).1, asks] at kinds
      obtain ⟨⟨⟩⟩ | ⟨⟨⟩⟩ := kinds

end

theorem calm_interpret {A : Type} (program : ShellProgram A) :
    ∀ event ∈ (program.interpret calmResponse).1, Calm (· = 0) event := by
  intro event inside
  rw [interpret_events calmResponse program event inside]
  cases event.op <;> first | exact rfl | exact ⟨_, rfl⟩ | exact ⟨_, rfl, rfl⟩

/-- This guard asks about everything. -/
def askingGuard : Guard Unit where
  metadataName := none
  functionName := "ask"
  run _ _ := .ok (some (.requestConfirmation "Shall I go ahead?" []))

def askedCall : Call Unit := { sampleCall with policy := openPolicy [askingGuard] }

/-- The user confirms the envelope. -/
def confirmingDeps (envelope : IntentEnvelope) : AdjudicateAndAuditDeps :=
  { sampleDeps with
    confirmationReceipt := some
      { intentHash := envelope.intentHash
        «at» := "2026-01-01T00:00:02.000Z"
        originalAt := none
        token := none
        binding := none } }

theorem confirmingDeps_confirms (envelope : IntentEnvelope) :
    (confirmingDeps envelope).Confirms envelope := ⟨_, rfl, rfl, rfl⟩

theorem confirmed_executes_iff_askedCall :
    ∃ confirmed outcome,
      Runs (adjudicateAndAudit sampleHost
        { askedCall with deps := confirmingDeps askedCall.envelope }) confirmed outcome ∧
      ((∃ executed, outcome = .ok executed ∧ executed.Executing) ↔
        ¬Answers sampleHost askedCall.envelope askedCall.state
          (fun decision => decision.kind = .rewrite) askedCall.policy) := by
  obtain ⟨asked, result, run, asks⟩ := @calm_run _ _ sampleHost askedCall (·.decision.kind)
    .requestConfirmation (by decide +kernel)
  have finite (start now : JsNumber) (first : start = 0) (second : now = 0) :
      (now.sub start).isFinite = true := by
    rw [first, second]
    decide +kernel
  have again := runs_interpret calmResponse (adjudicateAndAudit sampleHost
    { askedCall with deps := confirmingDeps askedCall.envelope })
  exact ⟨_, _, again, confirmed_executes_iff sampleHost run asks
    (confirmingDeps_confirms askedCall.envelope) nofun nofun nofun finite again
    (calm_interpret _)⟩

/-- The first guard rewrites retrieved content, and the second asks about what it rewrote. -/
def rewrittenCall : Call Unit :=
  { sampleCall with
    envelope := retrievedEnvelope
    policy := openPolicy [relabellingGuard, askingGuard] }

/-- A receipt for the given envelope never ends the request for its rewriting. -/
theorem confirmed_asks_again :
    ∃ asked result confirmed again,
      Runs (adjudicateAndAudit replayHost rewrittenCall) asked (.ok result) ∧
      result.decision.kind = .requestConfirmation ∧
      (confirmingDeps rewrittenCall.envelope).Confirms rewrittenCall.envelope ∧
      Runs (adjudicateAndAudit replayHost
        { rewrittenCall with deps := confirmingDeps rewrittenCall.envelope }) confirmed
          (.ok again) ∧
      again.ledgerHit = none ∧ ¬again.Executing := by
  obtain ⟨asked, result, run, asks⟩ := @calm_run _ _ replayHost rewrittenCall (·.decision.kind)
    .requestConfirmation (by decide +kernel)
  obtain ⟨confirmed, again, rerun, repeats⟩ := @calm_run _ _ replayHost
    { rewrittenCall with deps := confirmingDeps rewrittenCall.envelope }
    (fun again => (again.decision.kind, again.ledgerHit)) (.requestConfirmation, none)
    (by decide +kernel)
  obtain ⟨kind, missed⟩ := Prod.mk.inj repeats
  refine ⟨asked, result, confirmed, again, run, asks, confirmingDeps_confirms _, rerun, missed, ?_⟩
  rw [executing_iff_kind replayHost _ rerun, kind]
  exact nofun

end Adjudicate.Shell
