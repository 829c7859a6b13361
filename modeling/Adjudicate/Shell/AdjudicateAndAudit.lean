/-
This file models the audited entry point with its ledger, telemetry and cleanup.
-/

import Adjudicate.Shell.Dependencies

namespace Adjudicate.Shell

open Js Canonical Adjudicate.Core Adjudicate.Kernel Adjudicate.Audit Adjudicate.Effect
open Program (ofExcept tryCatch ensuring)

def failClosedKillState (reason : JsString) : KillSwitchState where
  active := true
  reason := reason
  toggledAt := "1970-01-01T00:00:00.000Z"

/-- A missing or unreadable tenant switch counts as active. -/
def readTenantKillState (usable : Bool) : ShellProgram (Option KillSwitchState) :=
  if usable then
    tryCatch
      (do
        if !(← invoke .isKilled) then return none
        return some (← invoke .killState))
      fun _ => return some (failClosedKillState "kill_switch_control_unreadable")
  else return some (failClosedKillState "kill_switch_control_absent")

/-- Without a context only the process-wide switch applies. -/
def tenantGate (context : Option RuntimeContext) :
    ShellProgram (Option (RuntimeContext × KillSwitchState)) :=
  match context with
  | none => return none
  | some context => do return (← readTenantKillState context.killSwitch).map (context, ·)

def tenantKillRefusal (context : RuntimeContext) (kill : KillSwitchState) : Decision :=
  .refuse
    (refuse .security "kill_switch_active" "System is temporarily unavailable."
      (some (utf16 "Tenant kill switch active: " ++ kill.reason ++ utf16 " (toggledAt " ++
        kill.toggledAt ++ utf16 ")")))
    [basis .kill BasisCodes.killActive
      (some [("reason", .str kill.reason), ("toggledAt", .str kill.toggledAt),
        ("tenant", .str context.id)])]

def replaySuppressedRefusal (intentHash : JsString) (hit : LedgerHit) : Decision :=
  .refuse
    (refuse .state "ledger_replay_suppressed" "This action has already been processed."
      (some (utf16 "intentHash=" ++ intentHash ++ utf16 " previousAt=" ++ hit.at)))
    [basis .ledger BasisCodes.replaySuppressed
      (some [("previousAt", .str hit.at), ("sessionId", .str hit.sessionId),
        ("kind", .str hit.kind), ("resourceVersion", .str hit.resourceVersion)])]

/-- The refusal of a rewrite that asks for another rewrite. -/
def rewriteLoopRefusal (accumulated : List DecisionBasis) : Decision :=
  .refuse
    (refuse .security "guard_panic" "System is temporarily unavailable."
      (some "REWRITE re-adjudicated to a second REWRITE; bounded to a single pass (refused)"))
    (accumulated ++ [basis .kernel BasisCodes.guardPanic
      (some [("phase", .str "rewrite"), ("reason", .str "rewrite_loop_bounded")])])

/-- A failing metadata provider leaves the record without metadata. -/
def applyMeta (deps : AdjudicateAndAuditDeps) (record : AuditRecord) : ShellProgram AuditRecord :=
  if deps.metadataProvider then
    tryCatch
      (do
        match ← invoke (.metadataProvider record) with
        | some metadata => return record.attachMetadata metadata
        | none => return record)
      fun err => do
        invoke (.recordSinkFailure (sinkFailure "metadata" record.intentHash err))
        return record
  else return record

/-- The rollback reports its own failure instead of throwing it. -/
def rollBackRateLimit (deps : AdjudicateAndAuditDeps) (intentHash : JsString) : ShellProgram Unit :=
  if deps.rateLimitRollback then
    tryCatch (invoke .rateLimitRollback) fun err =>
      invoke (.recordSinkFailure (sinkFailure "rate-limit" intentHash err))
  else return ()

def emitDecision (envelope : IntentEnvelope) (decision : Decision) (durationMs : JsNumber) :
    ShellProgram Unit := do
  invoke (.recordDecision
    { intentKind := envelope.kind
      decision := decision.kind
      latencyMs := durationMs
      basisCount := decision.basis.length
      intentHash := envelope.intentHash })
  match decision with
  | .refuse refusal _ =>
      invoke (.recordRefusal
        { intentKind := envelope.kind, refusal, intentHash := envelope.intentHash })
  | _ => return ()

/-- The kill path knows no matched guard and no plan. -/
def emitOutcome (host : Host) (envelope : IntentEnvelope) (decision : Decision)
    (durationMs : JsNumber) (trace : List AdjudicationTraceEntry) (plan : Option PlanSnapshot) :
    ShellProgram Unit :=
  tryCatch
    (do
      let planFingerprint ← ofExcept (plan.mapM (planFingerprintOf host))
      let instant ← invoke .nowIso
      invoke (.recordOutcome
        { intentKind := envelope.kind
          decisionKind := decision.kind
          basisCodes := flattenBasis decision.basis
          taint := envelope.taint
          durationMs := durationMs
          intentHash := envelope.intentHash
          guardId := matchedGuardIdFromTrace trace
          guardName := matchedGuardIdFromTrace trace
          guardPhase := matchedGuardPhaseFromTrace trace
          planFingerprint := planFingerprint
          «at» := instant }))
    fun err => invoke (.recordSinkFailure (sinkFailure "learning" envelope.intentHash err))

def readPlan (planned : Bool) : ShellProgram (Option PlanSnapshot) :=
  if planned then invoke .plan else return none

/-- The record is built and emitted together, so a throwing signer counts as a failed emit. -/
def emitRecord (host : Host) (deps : AdjudicateAndAuditDeps) (input : JsString → BuildAuditInput) :
    ShellProgram AuditRecord := do
  let instant ← invoke .nowIso
  let built ← ofExcept (buildAuditRecord host instant (input instant))
  let record ← applyMeta deps built
  invoke (.emit record)
  return record

/-- These are the inputs that both audit rows of the shell share. -/
def auditInput (deps : AdjudicateAndAuditDeps) (envelope : IntentEnvelope) (decision : Decision)
    (durationMs : JsNumber) (instant : JsString) : BuildAuditInput where
  envelope := envelope
  decision := decision
  durationMs := durationMs
  resourceVersion := none
  «at» := some instant
  plan := none
  supersedes := deps.supersedes
  policyVersion := deps.policyVersion
  kernelVersion := deps.kernelVersion
  kernelIdentity := none
  authoritySnapshot := none
  aggregateSnapshot := deps.aggregateSnapshot
  metadata := none
  prevAuditHash := none
  signer := deps.signer

/-- This is everything the decision stages hand to the reporting stages. -/
structure Computed where
  decision : Decision
  trace : List AdjudicationTraceEntry
  rewritten : Option IntentEnvelope
  supersedes : Option Supersession
  ledgerAcquired : Bool
  ledgerHit : Option LedgerHit

/-- A validated rewrite runs the rewritten envelope in place of the given one. -/
def executedEnvelope (envelope : IntentEnvelope) (rewritten : Option IntentEnvelope) :
    IntentEnvelope := rewritten.getD envelope

/-- The decision runs the envelope it was made for or the rewritten one. -/
def executing (decision : Decision) (rewritten : Option IntentEnvelope) : Bool :=
  match decision with
  | .execute _ => true
  | .rewrite _ _ _ => rewritten.isSome
  | _ => false

section

variable {S : Type} (host : Host) (call : Call S)

/-- Only the failures of the learning sink are caught here. -/
def emitTelemetry (start : JsNumber) (decision : Decision) (trace : List AdjudicationTraceEntry)
    (planned : Bool) : ShellProgram (JsNumber × Option PlanSnapshot) := do
  let durationMs := (← invoke .nowMs).sub start
  emitDecision call.envelope decision durationMs
  let plan ← readPlan planned
  emitOutcome host call.envelope decision durationMs trace plan
  return (durationMs, plan)

/-- The kill path never reads the plan and claims no key. -/
def killPath (start : JsNumber) (context : RuntimeContext) (kill : KillSwitchState) :
    ShellProgram AdjudicateAndAuditResult := do
  let decision := tenantKillRefusal context kill
  let (durationMs, _) ← emitTelemetry host call start decision [] false
  let record ← ensuring
    (emitRecord host call.deps (auditInput call.deps call.envelope decision durationMs))
    (rollBackRateLimit call.deps call.envelope.intentHash)
  return { decision, record, ledgerHit := none }

def consultLedger : ShellProgram (Option LedgerHit) :=
  match call.deps.ledger with
  | none => return none
  | some _ => do
      let checkStart ← invoke .nowMs
      let ledgerHit ← invoke (.checkLedger call.envelope.intentHash)
      let latencyMs := (← invoke .nowMs).sub checkStart
      invoke (.recordLedgerOp
        { op := .check
          outcome := if ledgerHit.isSome then .hit else .miss
          intentKind := call.envelope.kind
          latencyMs := latencyMs
          intentHash := call.envelope.intentHash })
      return ledgerHit

def confirmationSupersession (receipt : ConfirmationReceipt) : Supersession where
  predecessorIntentHash := receipt.intentHash
  predecessorAt := receipt.originalAt.getD receipt.at
  reason := .confirmationResolved
  token := receipt.token
  binding := confirmationBindingRecord receipt.binding

/-- The receipt is for this envelope and every requested field of its binding is confirmed. -/
def receiptMatches (envelope : IntentEnvelope) (receipt : ConfirmationReceipt) : Bool :=
  receipt.intentHash = envelope.intentHash && confirmationBindingMatches receipt.binding

/-- A matching receipt turns a request for confirmation into an execution. -/
def confirmationOverride (decision : Decision) : Decision × Option Supersession :=
  match decision, call.deps.confirmationReceipt with
  | .requestConfirmation prompt bases, some receipt =>
      if receiptMatches call.envelope receipt then
        (.execute (bases ++ [basis .confirmation BasisCodes.confirmationReceived
          (some [("confirmedAt", .str receipt.at), ("originalPrompt", .str prompt)])]),
          some (confirmationSupersession receipt))
      else (decision, none)
  | _, _ => (decision, none)

/-- The budget that covers a request for confirmation of this kind of intent. -/
def budgetFor (decision : Decision) : Option (BudgetGrant × Decision) :=
  match decision, call.deps.budgetGrant with
  | .requestConfirmation prompt bases, some grant =>
      if grant.intentKind = call.envelope.kind then
        some (grant, .execute (bases ++ [basis .budget BasisCodes.budgetSatisfied
          (some [("budgetId", .str grant.budgetId), ("intentKind", .str grant.intentKind),
            ("limit", .num grant.limit), ("windowSeconds", .num grant.windowSeconds),
            ("originalPrompt", .str prompt)])]))
      else none
  | _, _ => none

/-- The clock is read only when the grant does not name its predecessor. -/
def budgetPredecessorAt (grant : BudgetGrant) : ShellProgram JsString :=
  match grant.originalAt with
  | some originalAt => return originalAt
  | none => invoke .nowIso

def budgetOverride (decision : Decision) : ShellProgram (Decision × Option Supersession) :=
  match budgetFor call decision with
  | none => return (decision, none)
  | some (grant, executed) => do
      let predecessorAt ← budgetPredecessorAt grant
      return (executed, some
        { predecessorIntentHash := call.envelope.intentHash
          predecessorAt := predecessorAt
          reason := .budgetSatisfied
          token := some grant.budgetId
          binding := none })

/-- The rewritten envelope is adjudicated once more and runs only when that executes. Guards are
functions, so a rewrite to the same envelope can never execute here. -/
def readjudicated (decision : Decision) :
    Except Thrown (Decision × Option IntentEnvelope) :=
  match decision with
  | .rewrite rewritten _ _ => do
      match ← adjudicate host rewritten call.state call.kill call.policy with
      | .execute _ => return (decision, some rewritten)
      | .rewrite _ _ bases => return (rewriteLoopRefusal bases, none)
      | second => return (second, none)
  | _ => .ok (decision, none)

def readjudicate (decision : Decision) :
    ShellProgram (Decision × Option IntentEnvelope × Option Supersession) := do
  match ← ofExcept (readjudicated host call decision) with
  | (second, some rewritten) => do
      let instant ← invoke .nowIso
      return (second, some rewritten,
        some (rewriteExecutedSupersession call.envelope.intentHash instant))
  | (second, none) => return (second, none, none)

def resolveResourceVersion (deps : AdjudicateAndAuditDeps) (executed : IntentEnvelope) :
    ShellProgram (Option JsString) :=
  if deps.resolveResourceVersion then invoke (.resolveResourceVersion executed) else return none

def claimEntry (executed : IntentEnvelope) (resourceVersion : Option JsString) :
    LedgerRecordInput where
  intentHash := executed.intentHash
  resourceVersion := resourceVersion.getD []
  sessionId := executed.actor.sessionId
  kind := executed.kind

/-- A lost claim suppresses the execution. -/
def settleClaim (decision : Decision) (executed : IntentEnvelope) (recordStart : JsNumber)
    (resourceVersion : JsString) (outcome : LedgerRecordOutcome) :
    ShellProgram (Decision × Bool) := do
  let latencyMs := (← invoke .nowMs).sub recordStart
  invoke (.recordLedgerOp
    { op := .record
      outcome := if outcome = .acquired then .ok else .duplicate
      intentKind := executed.kind
      latencyMs := latencyMs
      intentHash := executed.intentHash })
  match outcome with
  | .acquired => return (decision, true)
  | .exists => do
      let instant ← invoke .nowIso
      return (replaySuppressedRefusal executed.intentHash
        { resourceVersion, «at» := instant, sessionId := executed.actor.sessionId,
          kind := executed.kind }, false)

/-- Only the envelope that runs claims its key. -/
def claimKey (decision : Decision) (rewritten : Option IntentEnvelope) :
    ShellProgram (Decision × Bool) :=
  let executed := executedEnvelope call.envelope rewritten
  if executing decision rewritten && call.deps.ledger.isSome then do
    let recordStart ← invoke .nowMs
    let resourceVersion ← resolveResourceVersion call.deps executed
    let outcome ← invoke (.recordExecution (claimEntry executed resourceVersion))
    settleClaim decision executed recordStart (resourceVersion.getD []) outcome
  else return (decision, false)

/-- The explicit link wins over the derived ones. -/
def compute : ShellProgram Computed := do
  match ← consultLedger call with
  | some ledgerHit =>
      return {
        decision := replaySuppressedRefusal call.envelope.intentHash ledgerHit
        trace := []
        rewritten := none
        supersedes := call.deps.supersedes
        ledgerAcquired := false
        ledgerHit := some ledgerHit }
  | none => do
      let traced ← ofExcept
        (adjudicateWithTrace host call.envelope call.state call.kill call.policy)
      let (confirmed, confirmationSupersedes) := confirmationOverride call traced.decision
      let (budgeted, budgetSupersedes) ← budgetOverride call confirmed
      let (settled, rewritten, rewriteSupersedes) ← readjudicate host call budgeted
      let (decision, ledgerAcquired) ← claimKey call settled rewritten
      return {
        decision, trace := traced.trace, rewritten
        supersedes := call.deps.supersedes <|> rewriteSupersedes <|> confirmationSupersedes <|>
          budgetSupersedes
        ledgerAcquired, ledgerHit := none }

/-- A failed emit gives the claimed key back and reports what it cannot give back. -/
def releaseKey (computed : Computed) : ShellProgram Unit :=
  let executed := executedEnvelope call.envelope computed.rewritten
  match call.deps.ledger with
  | some ledger =>
      if computed.ledgerAcquired then
        if ledger.release then
          tryCatch (invoke (.release executed.intentHash)) fun err =>
            invoke (.recordSinkFailure (sinkFailure "ledger" executed.intentHash err))
        else
          invoke (.recordSinkFailure
            { sink := "ledger", subject := executed.intentHash
              errorClass := "ledger_orphaned", consecutiveFailures := 1 })
      else return ()
  | none => return ()

def reportInput (computed : Computed) (durationMs : JsNumber) (plan : Option PlanSnapshot)
    (instant : JsString) : BuildAuditInput :=
  { auditInput call.deps (executedEnvelope call.envelope computed.rewritten) computed.decision
      durationMs instant with
    plan := plan
    supersedes := computed.supersedes
    kernelIdentity := call.deps.context.bind (·.kernelIdentity) }

/-- The record is about the executed envelope, and a failed emit is rethrown after the cleanup. -/
def report (start : JsNumber) (computed : Computed) : ShellProgram AdjudicateAndAuditResult := do
  let (durationMs, plan) ←
    emitTelemetry host call start computed.decision computed.trace call.deps.plan
  let record ← ensuring
    (tryCatch (emitRecord host call.deps (reportInput call computed durationMs plan))
      fun emitErr => do
        releaseKey call computed
        .throw emitErr)
    (if executing computed.decision computed.rewritten then pure ()
      else rollBackRateLimit call.deps call.envelope.intentHash)
  return { decision := computed.decision, record, ledgerHit := computed.ledgerHit }

/-- The tenant switch answers before anything is computed. -/
inductive Verdict where
  | killed (context : RuntimeContext) (kill : KillSwitchState)
  | computed (computed : Computed)

def deliberate : ShellProgram (JsNumber × Verdict) := do
  let start ← invoke .nowMs
  match ← tenantGate call.deps.context with
  | some (context, kill) => return (start, .killed context kill)
  | none => return (start, .computed (← compute host call))

def deliver (start : JsNumber) : Verdict → ShellProgram AdjudicateAndAuditResult
  | .killed context kill => killPath host call start context kill
  | .computed computed => report host call start computed

def adjudicateAndAudit : ShellProgram AdjudicateAndAuditResult := do
  let (start, verdict) ← deliberate host call
  deliver host call start verdict

end

end Adjudicate.Shell
