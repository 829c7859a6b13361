/-
This file models the schemas that an audit record passes on its way to the admin console.
-/

import Adjudicate.Audit.Record
import Adjudicate.Core.Ownership
import Adjudicate.Js.WireSchema

namespace Adjudicate.AdminSdk

open Js Adjudicate.Core Adjudicate.Audit

def required (name : JsString) (schema : WireSchema) : JsString × Bool × WireSchema :=
  (name, false, schema)

def optional (name : JsString) (schema : WireSchema) : JsString × Bool × WireSchema :=
  (name, true, schema)

def anyText : WireSchema := .text fun _ => true

def oneOf (texts : List JsString) : WireSchema := .text texts.contains

def nonempty : WireSchema := .text fun text => decide (1 ≤ text.length)

def anyNumber : WireSchema := .number JsNumber.isFinite

/-- A count is a safe integer that is not below zero. -/
def isCount : JsNumber → Bool
  | .finite negative magnitude =>
      decide (magnitude.value.den = 1) && decide (magnitude.value < 2 ^ 53) &&
        (!negative || decide (magnitude.value = 0))
  | _ => false

def isText : JsValue → Bool
  | .str _ => true
  | _ => false

def isFiniteNumber : JsValue → Bool
  | .num number => number.isFinite
  | _ => false

def isLowerHex (unit : CodeUnit) : Bool :=
  (0x30 ≤ unit && unit ≤ 0x39) || (0x61 ≤ unit && unit ≤ 0x66)

def intentHashSchema : WireSchema := .text fun text => text.length = 64 && text.all isLowerHex

def taintSchema : WireSchema := oneOf ["SYSTEM", "TRUSTED", "UNTRUSTED"]

def originSchema : WireSchema := oneOf ["Human", "Retrieved", "ExternalAPI", "LLM", "System"]

def resourceRefsSchema : WireSchema := .record isText

/-- The role of an actor is not declared. -/
def intentActorSchema : WireSchema := .object
  [required "principal" (oneOf ["llm", "user", "system"]),
    required "sessionId" nonempty,
    optional "attestation" (.object [required "keyId" anyText, required "sig" anyText])]

def intentEnvelopeSchema : WireSchema := .object
  [required "version" (.number fun number => number = 2),
    required "kind" nonempty,
    required "payload" .unknown,
    required "createdAt" anyText,
    required "nonce" nonempty,
    required "actor" intentActorSchema,
    required "taint" taintSchema,
    required "origin" originSchema,
    optional "resourceRefs" resourceRefsSchema,
    required "intentHash" intentHashSchema]

def authorityPermitsSchema : WireSchema := .object
  [required "actions" (.array anyText), optional "limits" (.record isFiniteNumber)]

def authorityEdgeSchema : WireSchema := .object
  [required "principal" anyText,
    required "relationship" (oneOf ["owns", "joint", "advisor", "custodian"]),
    required "resource" anyText,
    required "permits" authorityPermitsSchema]

def authorityGraphSchema : WireSchema := .object [required "edges" (.array authorityEdgeSchema)]

def recordedAuthoritySnapshotSchema : WireSchema := .object
  [required "graph" authorityGraphSchema, required "snapshotHash" anyText]

def aggregateSnapshotSchema : WireSchema := .object
  [required "windows" (.record isFiniteNumber), required "at" anyText]

def recordedAggregateSnapshotSchema : WireSchema := .object
  [required "snapshot" aggregateSnapshotSchema, required "snapshotHash" anyText]

def refusalSchema : WireSchema := .object
  [required "kind" (oneOf ["SECURITY", "BUSINESS_RULE", "AUTH", "STATE"]),
    required "code" anyText,
    required "userFacing" anyText,
    optional "detail" anyText]

def basisCategorySchema : WireSchema := oneOf
  ["state", "auth", "taint", "ledger", "schema", "business", "validation", "kill", "deadline",
    "confirmation", "budget", "kernel"]

def decisionBasisSchema : WireSchema := .object
  [required "category" basisCategorySchema,
    required "code" anyText,
    optional "detail" (.record fun _ => true)]

def basisArray : WireSchema := .array decisionBasisSchema

def decisionExecuteSchema : WireSchema := .object
  [required "kind" (oneOf ["EXECUTE"]), required "basis" basisArray]

def decisionRefuseSchema : WireSchema := .object
  [required "kind" (oneOf ["REFUSE"]), required "refusal" refusalSchema, required "basis" basisArray]

def decisionEscalateSchema : WireSchema := .object
  [required "kind" (oneOf ["ESCALATE"]), required "to" (oneOf ["human", "supervisor"]),
    required "reason" anyText, required "basis" basisArray]

def decisionRequestConfirmationSchema : WireSchema := .object
  [required "kind" (oneOf ["REQUEST_CONFIRMATION"]), required "prompt" anyText,
    required "basis" basisArray]

def decisionDeferSchema : WireSchema := .object
  [required "kind" (oneOf ["DEFER"]), required "signal" anyText,
    required "timeoutMs" (.number isCount), required "basis" basisArray]

def decisionRewriteSchema : WireSchema := .object
  [required "kind" (oneOf ["REWRITE"]), required "rewritten" intentEnvelopeSchema,
    required "reason" anyText, required "basis" basisArray]

def decisionSchema : WireSchema := .union "kind"
  [("EXECUTE", decisionExecuteSchema),
    ("REFUSE", decisionRefuseSchema),
    ("ESCALATE", decisionEscalateSchema),
    ("REQUEST_CONFIRMATION", decisionRequestConfirmationSchema),
    ("DEFER", decisionDeferSchema),
    ("REWRITE", decisionRewriteSchema)]

def auditPlanSnapshotSchema : WireSchema := .object
  [required "visibleReadTools" (.array anyText),
    required "allowedIntents" (.array anyText),
    required "planFingerprint" anyText]

def supersessionReasonSchema : WireSchema := oneOf
  ["confirmation_resolved", "defer_resumed", "rewrite_executed", "replay", "budget_satisfied",
    "lgpd_scrub"]

def supersessionSchema : WireSchema := .object
  [required "predecessorIntentHash" intentHashSchema,
    required "predecessorAt" anyText,
    required "reason" supersessionReasonSchema,
    optional "token" anyText,
    optional "binding" (.object
      [optional "capability" anyText, optional "approver" anyText, optional "channel" anyText])]

/-- The predicate stands for the check of an ISO instant by the schema library. -/
def auditRecordShape (datetime : JsString → Bool) : List (JsString × Bool × WireSchema) :=
  [required "version" (.number fun number => [(1 : JsNumber), 2, 3, 4, 5].contains number),
    required "intentHash" intentHashSchema,
    required "envelope" intentEnvelopeSchema,
    required "decision" decisionSchema,
    required "decision_basis" (.array decisionBasisSchema),
    optional "resourceVersion" anyText,
    required "at" (.text datetime),
    required "durationMs" anyNumber,
    optional "plan" auditPlanSnapshotSchema,
    optional "supersedes" supersessionSchema,
    optional "kernelIdentity" (.object [required "id" anyText, required "version" anyText]),
    optional "policyVersion" anyText,
    optional "kernelVersion" anyText,
    optional "auditHash" anyText,
    optional "signature" (.object
      [required "keyId" anyText, required "alg" anyText, required "value" anyText]),
    optional "authoritySnapshot" recordedAuthoritySnapshotSchema,
    optional "aggregateSnapshot" recordedAggregateSnapshotSchema,
    optional "metadata" (.record fun _ => true),
    optional "prevAuditHash" anyText]

def auditRecordSchema (datetime : JsString → Bool) : WireSchema :=
  .object (auditRecordShape datetime)

theorem auditRecordSchema_wellNamed (datetime : JsString → Bool) :
    (auditRecordSchema datetime).wellNamed = true := by
  rfl

end Adjudicate.AdminSdk
