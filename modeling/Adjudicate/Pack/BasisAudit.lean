/-
This file models the wrapper that an installed pack puts around each of its guards.
-/

import Adjudicate.Kernel.Policy

namespace Adjudicate.Pack

open Js Adjudicate.Core Adjudicate.Kernel

/-- The description is any value of the closed vocabulary or of an extension. -/
structure GuardMetadata where
  name : Option JsString
  author : Option JsString
  since : Option JsString
  description : Option JsValue

/-- A guard is a function with a name and with the two slots that symbols give it. -/
structure PackGuard (S : Type) where
  functionName : JsString
  metadata : Option GuardMetadata
  basisAuditWrapped : Bool
  run : IntentEnvelope → S → Except Thrown (Option Decision)

def readGuardMetadata {S : Type} (guard : PackGuard S) : Option GuardMetadata := guard.metadata

/-- The kernel sees the name and the function. -/
def PackGuard.toGuard {S : Type} (guard : PackGuard S) : Guard S where
  metadataName := (readGuardMetadata guard).bind GuardMetadata.name
  functionName := guard.functionName
  run := guard.run

structure PackPolicy (S : Type) where
  stateGuards : List (PackGuard S)
  authGuards : List (PackGuard S)
  taint : TaintPolicy
  business : List (PackGuard S)
  default : PolicyDefault

def PackPolicy.bundle {S : Type} (policy : PackPolicy S) : PolicyBundle S where
  stateGuards := policy.stateGuards.map PackGuard.toGuard
  authGuards := policy.authGuards.map PackGuard.toGuard
  taint := policy.taint
  business := policy.business.map PackGuard.toGuard
  default := policy.default

structure PackV0 (S : Type) where
  id : JsString
  basisCodes : List JsString
  signals : Option (List JsString)
  policy : PackPolicy S

structure SinkFailureEvent where
  sink : JsString
  subject : JsString
  errorClass : JsString
  consecutiveFailures : Nat
deriving DecidableEq

/-- A sink may throw, and what it does may depend on the events it has seen. -/
abbrev MetricsSink := List SinkFailureEvent → SinkFailureEvent → Except Thrown Unit

def recordAll (sink : MetricsSink) : List SinkFailureEvent → List SinkFailureEvent → Except Thrown Unit
  | _, [] => .ok ()
  | seen, event :: rest => do
      sink seen event
      recordAll sink (seen ++ [event]) rest

def kernelRefusalCodes : List JsString :=
  ["schema_version_unsupported", "taint_level_insufficient", "default_deny", "kill_switch_active",
    "kernel_deadline_exceeded", "ledger_replay_suppressed", "guard_panic"]

/-- This is the vocabulary `BASIS_CODES`, category by category. -/
def knownBasisCodes : BasisCategory → List JsString
  | .state => ["transition_valid", "transition_illegal", "terminal_state", "grant_expired"]
  | .auth => ["scope_sufficient", "scope_insufficient", "identity_missing", "identity_expired"]
  | .taint => ["level_permitted", "level_insufficient", "propagation_violation"]
  | .ledger => ["fresh", "replay_suppressed", "resource_version_stale"]
  | .schema =>
      ["version_supported", "version_unsupported", "payload_invalid", "intent_hash_mismatch"]
  | .business =>
      ["rule_satisfied", "rule_violated", "quantity_capped", "breakglass_granted",
        "breakglass_ttl_invalid"]
  | .validation =>
      ["forbidden_phrase_absent", "homoglyph_normalized", "unicode_normalized", "pii_detected",
        "pii_redacted", "pii_blocked", "command_flag_stripped", "command_sanitized",
        "command_blocked", "groundedness_low", "groundedness_degraded", "session_risk_elevated"]
  | .kill => ["active", "seal_mismatch"]
  | .deadline => ["exceeded"]
  | .confirmation => ["received"]
  | .budget => ["satisfied"]
  | .kernel => ["guard_panic", "intent_dispatched"]

def isKnownBasisCode (entry : DecisionBasis) : Bool :=
  (knownBasisCodes entry.category).contains entry.code

/-- What the wrapper of one pack knows. -/
structure BasisAudit where
  declaredCodes : List JsString
  declaredSignals : Option (List JsString)
  packId : JsString

namespace BasisAudit

def event (audit : BasisAudit) (subject errorClass : JsString) : SinkFailureEvent where
  sink := "console"
  subject := utf16 "pack:" ++ audit.packId ++ utf16 ":" ++ subject
  errorClass := errorClass
  consecutiveFailures := 1

def refusalDrift (audit : BasisAudit) : Decision → List SinkFailureEvent
  | .refuse refusal _ =>
      if !audit.declaredCodes.contains refusal.code && !kernelRefusalCodes.contains refusal.code then
        [audit.event refusal.code "basis_code_drift"]
      else []
  | _ => []

def basisDrift (audit : BasisAudit) (decision : Decision) : List SinkFailureEvent :=
  (decision.basis.filter fun entry => !isKnownBasisCode entry).map fun entry =>
    audit.event (entry.category.text ++ utf16 ":" ++ entry.code) "basis_vocabulary_drift"

/-- A rewrite that elevates the taint ends the audit before the signal of a deferral is looked at. -/
def lastDrift (audit : BasisAudit) (decision : Decision) (envelope : IntentEnvelope) :
    List SinkFailureEvent :=
  match decision with
  | .rewrite rewritten _ _ =>
      if taintRank rewritten.taint > taintRank envelope.taint then
        [audit.event (utf16 "rewrite:" ++ envelope.taint.text ++ utf16 "->" ++ rewritten.taint.text)
          "rewrite_taint_regression"]
      else []
  | .defer signal _ _ =>
      if audit.declaredSignals.any fun signals => !signals.contains signal then
        [audit.event (utf16 "defer:" ++ signal) "defer_signal_drift"]
      else []
  | _ => []

/-- These are the events of one decision in the order in which the sink receives them. -/
def driftEvents (audit : BasisAudit) (decision : Decision) (envelope : IntentEnvelope) :
    List SinkFailureEvent :=
  audit.refusalDrift decision ++ audit.basisDrift decision ++ audit.lastDrift decision envelope

/-- A rewrite that elevates the taint is replaced by a refusal. -/
def substitute (audit : BasisAudit) (decision : Decision) (envelope : IntentEnvelope) :
    Option Decision :=
  match decision with
  | .rewrite rewritten _ bases =>
      if taintRank rewritten.taint > taintRank envelope.taint then
        some (.refuse
          (refuse .security "taint_level_insufficient"
            "I can't perform this action with the information available."
            (some (utf16 "Pack " ++ audit.packId ++ utf16 " REWRITE would elevate taint " ++
              envelope.taint.text ++ utf16 " -> " ++ rewritten.taint.text ++ utf16 " (blocked)")))
          (bases ++ [basis .taint BasisCodes.propagationViolation
            (some [("original", .str envelope.taint.text),
              ("rewritten", .str rewritten.taint.text), ("packId", .str audit.packId)])]))
      else none
  | _ => none

def auditDecision (audit : BasisAudit) (sink : MetricsSink) (decision : Decision)
    (envelope : IntentEnvelope) : Except Thrown (Option Decision) := do
  recordAll sink [] (audit.driftEvents decision envelope)
  return audit.substitute decision envelope

/-- The closure that calls the guard and audits what it decides. -/
def wrapped {S : Type} (audit : BasisAudit) (sink : MetricsSink) (guard : PackGuard S)
    (envelope : IntentEnvelope) (state : S) : Except Thrown (Option Decision) := do
  match ← guard.run envelope state with
  | none => return none
  | some decision =>
      match ← audit.auditDecision sink decision envelope with
      | some substitute => return some substitute
      | none => return some decision

/-- A guard that is wrapped already is returned unchanged. -/
def wrapGuard {S : Type} (audit : BasisAudit) (sink : MetricsSink) (guard : PackGuard S) :
    PackGuard S :=
  if guard.basisAuditWrapped then guard
  else
    { functionName := "wrapped"
      metadata := none
      basisAuditWrapped := true
      run := audit.wrapped sink guard }

def wrapBundle {S : Type} (audit : BasisAudit) (sink : MetricsSink) (policy : PackPolicy S) :
    PackPolicy S where
  stateGuards := policy.stateGuards.map (audit.wrapGuard sink)
  authGuards := policy.authGuards.map (audit.wrapGuard sink)
  taint := policy.taint
  business := policy.business.map (audit.wrapGuard sink)
  default := policy.default

end BasisAudit

def PackV0.audit {S : Type} (pack : PackV0 S) : BasisAudit where
  declaredCodes := pack.basisCodes
  declaredSignals := pack.signals
  packId := pack.id

def withBasisAudit {S : Type} (sink : MetricsSink) (pack : PackV0 S) : PackV0 S :=
  { pack with policy := pack.audit.wrapBundle sink pack.policy }

section

variable {S : Type} (audit : BasisAudit) (sink : MetricsSink) (guard : PackGuard S)

@[simp] theorem wrapGuard_tagged (tagged : guard.basisAuditWrapped = true) :
    audit.wrapGuard sink guard = guard := if_pos tagged

@[simp] theorem wrapGuard_wrapped : (audit.wrapGuard sink guard).basisAuditWrapped = true := by
  unfold BasisAudit.wrapGuard
  split
  · assumption
  · rfl

/-- A wrapped guard stays as it is under any wrapper. -/
@[simp] theorem wrapGuard_wrapGuard (again : BasisAudit) (other : MetricsSink) :
    again.wrapGuard other (audit.wrapGuard sink guard) = audit.wrapGuard sink guard :=
  wrapGuard_tagged again other _ (wrapGuard_wrapped audit sink guard)

theorem withBasisAudit_idempotent (pack : PackV0 S) :
    withBasisAudit sink (withBasisAudit sink pack) = withBasisAudit sink pack := by
  simp [withBasisAudit, BasisAudit.wrapBundle, Function.comp_def]

/-- The wrapper has no metadata of its own. -/
theorem readGuardMetadata_wrapGuard :
    readGuardMetadata (audit.wrapGuard sink guard) = readGuardMetadata guard ↔
      guard.basisAuditWrapped = true ∨ readGuardMetadata guard = none := by
  unfold BasisAudit.wrapGuard
  cases tagged : guard.basisAuditWrapped with
  | true => simp
  | false =>
      simp only [Bool.false_eq_true, if_false, false_or]
      exact eq_comm

end

end Adjudicate.Pack
