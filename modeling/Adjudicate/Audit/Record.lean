/-
This file models audit records and how they are built, signed and annotated.
-/

import Adjudicate.Core.Decision

namespace Adjudicate.Audit

open Js Canonical Adjudicate.Core

/-- This is `AUDIT_RECORD_VERSION`. -/
def auditRecordVersion : JsNumber := 5

inductive SupersessionReason where
  | confirmationResolved
  | deferResumed
  | rewriteExecuted
  | replay
  | budgetSatisfied
  | lgpdScrub
deriving DecidableEq

def SupersessionReason.text : SupersessionReason → JsString
  | .confirmationResolved => "confirmation_resolved"
  | .deferResumed => "defer_resumed"
  | .rewriteExecuted => "rewrite_executed"
  | .replay => "replay"
  | .budgetSatisfied => "budget_satisfied"
  | .lgpdScrub => "lgpd_scrub"

structure SupersessionBinding where
  capability : Option JsString
  approver : Option JsString
  channel : Option JsString
deriving DecidableEq

structure Supersession where
  predecessorIntentHash : JsString
  predecessorAt : JsString
  reason : SupersessionReason
  token : Option JsString
  binding : Option SupersessionBinding
deriving DecidableEq

/-- This is the plan snapshot before its fingerprint is computed. -/
structure PlanSnapshot where
  visibleReadTools : List JsString
  allowedIntents : List JsString
deriving DecidableEq

structure AuditPlanSnapshot extends PlanSnapshot where
  planFingerprint : JsString
deriving DecidableEq

structure AuditSignature where
  keyId : JsString
  alg : JsString
  value : JsString
deriving DecidableEq

structure KernelIdentity where
  id : JsString
  version : JsString
deriving DecidableEq

structure RecordedAuthoritySnapshot where
  graph : JsValue
  snapshotHash : JsString

structure RecordedAggregateSnapshot where
  snapshot : JsValue
  snapshotHash : JsString

/-- These are the fields of a record that feed its hash. -/
structure BaseRecord where
  version : JsNumber
  intentHash : JsString
  envelope : IntentEnvelope
  decision : Decision
  decisionBasis : List DecisionBasis
  resourceVersion : Option JsString
  «at» : JsString
  durationMs : JsNumber
  plan : Option AuditPlanSnapshot
  supersedes : Option Supersession
  kernelIdentity : Option KernelIdentity
  policyVersion : Option JsString
  kernelVersion : Option JsString
  authoritySnapshot : Option RecordedAuthoritySnapshot
  aggregateSnapshot : Option RecordedAggregateSnapshot

structure AuditRecord extends BaseRecord where
  metadata : Option (Props JsValue)
  auditHash : Option JsString
  signature : Option AuditSignature
  prevAuditHash : Option JsString

def SupersessionBinding.toJs (binding : SupersessionBinding) : JsValue :=
  .obj (optionalProp "capability" (binding.capability.map .str) ++
    optionalProp "approver" (binding.approver.map .str) ++
    optionalProp "channel" (binding.channel.map .str))

def Supersession.toJs (supersession : Supersession) : JsValue :=
  .obj ([(utf16 "predecessorIntentHash", JsValue.str supersession.predecessorIntentHash),
      (utf16 "predecessorAt", .str supersession.predecessorAt),
      (utf16 "reason", .str supersession.reason.text)] ++
    optionalProp "token" (supersession.token.map .str) ++
    optionalProp "binding" (supersession.binding.map SupersessionBinding.toJs))

def PlanSnapshot.toJs (plan : PlanSnapshot) : JsValue :=
  .obj [("visibleReadTools", .arr (plan.visibleReadTools.map .str)),
    ("allowedIntents", .arr (plan.allowedIntents.map .str))]

def AuditPlanSnapshot.toJs (plan : AuditPlanSnapshot) : JsValue :=
  .obj [("visibleReadTools", .arr (plan.visibleReadTools.map .str)),
    ("allowedIntents", .arr (plan.allowedIntents.map .str)),
    ("planFingerprint", .str plan.planFingerprint)]

def AuditSignature.toJs (signature : AuditSignature) : JsValue :=
  .obj [("keyId", .str signature.keyId), ("alg", .str signature.alg),
    ("value", .str signature.value)]

def KernelIdentity.toJs (identity : KernelIdentity) : JsValue :=
  .obj [("id", .str identity.id), ("version", .str identity.version)]

def RecordedAuthoritySnapshot.toJs (recorded : RecordedAuthoritySnapshot) : JsValue :=
  .obj [("graph", recorded.graph), ("snapshotHash", .str recorded.snapshotHash)]

def RecordedAggregateSnapshot.toJs (recorded : RecordedAggregateSnapshot) : JsValue :=
  .obj [("snapshot", recorded.snapshot), ("snapshotHash", .str recorded.snapshotHash)]

/-- The absent optional fields are spread out of the object. -/
def BaseRecord.props (record : BaseRecord) : Props JsValue :=
  [(utf16 "version", JsValue.num record.version),
    (utf16 "intentHash", .str record.intentHash),
    (utf16 "envelope", record.envelope.toJs),
    (utf16 "decision", record.decision.toJs),
    (utf16 "decision_basis", .arr (record.decisionBasis.map DecisionBasis.toJs))] ++
  optionalProp "resourceVersion" (record.resourceVersion.map .str) ++
  [(utf16 "at", JsValue.str record.at), (utf16 "durationMs", .num record.durationMs)] ++
  optionalProp "plan" (record.plan.map AuditPlanSnapshot.toJs) ++
  optionalProp "supersedes" (record.supersedes.map Supersession.toJs) ++
  optionalProp "kernelIdentity" (record.kernelIdentity.map KernelIdentity.toJs) ++
  optionalProp "policyVersion" (record.policyVersion.map .str) ++
  optionalProp "kernelVersion" (record.kernelVersion.map .str) ++
  optionalProp "authoritySnapshot" (record.authoritySnapshot.map RecordedAuthoritySnapshot.toJs) ++
  optionalProp "aggregateSnapshot" (record.aggregateSnapshot.map RecordedAggregateSnapshot.toJs)

def AuditRecord.toJs (record : AuditRecord) : JsValue :=
  .obj (record.props ++
    optionalProp "metadata" (record.metadata.map .obj) ++
    optionalProp "auditHash" (record.auditHash.map .str) ++
    optionalProp "signature" (record.signature.map AuditSignature.toJs) ++
    optionalProp "prevAuditHash" (record.prevAuditHash.map .str))

/-- A signer is a function of the hash and may throw. -/
structure AuditSigner where
  keyId : JsString
  sign : JsString → Except Thrown AuditSignature

structure BuildAuditInput where
  envelope : IntentEnvelope
  decision : Decision
  durationMs : JsNumber
  resourceVersion : Option JsString
  «at» : Option JsString
  plan : Option PlanSnapshot
  supersedes : Option Supersession
  policyVersion : Option JsString
  kernelVersion : Option JsString
  kernelIdentity : Option KernelIdentity
  authoritySnapshot : Option RecordedAuthoritySnapshot
  aggregateSnapshot : Option RecordedAggregateSnapshot
  metadata : Option (Props JsValue)
  prevAuditHash : Option JsString
  signer : Option AuditSigner

def rewriteExecutedSupersession (originalIntentHash instant : JsString) : Supersession where
  predecessorIntentHash := originalIntentHash
  predecessorAt := instant
  reason := .rewriteExecuted
  token := none
  binding := none

/-- This is `AUDIT_HASHBIND_ALG`. -/
def auditHashbindAlg : JsString := "sha256-hashbind"

/-- This is `AUDIT_SIGNATURE_PREIMAGE_VERSION`. -/
def auditSignaturePreimageVersion : JsString := "adjudicate-audit-signature-v1"

def auditSignaturePreimage (host : Host) (auditHash keyId : JsValue) : Except Thrown JsString := do
  let bodyHash ← sha256Canonical host (.obj [("auditHash", auditHash), ("keyId", keyId)])
  return auditSignaturePreimageVersion ++ utf16 "\n" ++ bodyHash

/-- The signer and the verifier hash the same text. -/
def hashBindValue (host : Host) (auditHash keyId : JsValue) : Except Thrown JsString := do
  sha256Canonical host (.str (← auditSignaturePreimage host auditHash keyId))

def bindAuditSignature (host : Host) (auditHash keyId : JsString) :
    Except Thrown AuditSignature := do
  let value ← hashBindValue host (.str auditHash) (.str keyId)
  return { keyId, alg := auditHashbindAlg, value }

def hashBindAuditSigner (host : Host) (keyId : JsString) : AuditSigner where
  keyId := keyId
  sign auditHash := bindAuditSignature host auditHash keyId

def planFingerprintOf (host : Host) (plan : PlanSnapshot) : Except Thrown JsString :=
  sha256Canonical host plan.toJs

def fingerprintedPlan (host : Host) (plan : PlanSnapshot) : Except Thrown AuditPlanSnapshot := do
  let planFingerprint ← planFingerprintOf host plan
  return { plan with planFingerprint }

def BuildAuditInput.baseRecord (input : BuildAuditInput) (clock : JsString)
    (plan : Option AuditPlanSnapshot) : BaseRecord where
  version := auditRecordVersion
  intentHash := input.envelope.intentHash
  envelope := input.envelope
  decision := input.decision
  decisionBasis := input.decision.basis
  resourceVersion := input.resourceVersion
  «at» := input.at.getD clock
  durationMs := input.durationMs
  plan := plan
  supersedes := input.supersedes
  kernelIdentity := input.kernelIdentity
  policyVersion := input.policyVersion
  kernelVersion := input.kernelVersion
  authoritySnapshot := input.authoritySnapshot
  aggregateSnapshot := input.aggregateSnapshot

/-- The metadata, the signature and the chain link come after the hash. -/
def buildAuditRecord (host : Host) (clock : JsString) (input : BuildAuditInput) :
    Except Thrown AuditRecord := do
  let plan ← input.plan.mapM (fingerprintedPlan host)
  let baseRecord := input.baseRecord clock plan
  let auditHash ← sha256Canonical host (.obj baseRecord.props)
  let signature ← input.signer.mapM fun signer => signer.sign auditHash
  return { baseRecord with
    metadata := input.metadata, auditHash := some auditHash, signature,
    prevAuditHash := input.prevAuditHash }

theorem buildAuditRecord_eq_ok {host : Host} {clock : JsString} {input : BuildAuditInput}
    {record : AuditRecord} :
    buildAuditRecord host clock input = .ok record ↔
      ∃ plan stored signature, input.plan.mapM (fingerprintedPlan host) = .ok plan ∧
        sha256Canonical host (.obj (input.baseRecord clock plan).props) = .ok stored ∧
        (input.signer.mapM fun signer => signer.sign stored) = .ok signature ∧
        record = { input.baseRecord clock plan with
          metadata := input.metadata, auditHash := some stored, signature,
          prevAuditHash := input.prevAuditHash } := by
  simp only [buildAuditRecord, bind_eq_ok]
  constructor
  · rintro ⟨plan, fingerprinted, stored, hash, signature, signed, ⟨⟩⟩
    exact ⟨plan, stored, signature, fingerprinted, hash, signed, rfl⟩
  · rintro ⟨plan, stored, signature, fingerprinted, hash, signed, rfl⟩
    exact ⟨plan, fingerprinted, stored, hash, signature, signed, rfl⟩

/-- The record is about the envelope and the decision it was built from. -/
theorem buildAuditRecord_subject {host : Host} {clock : JsString} {input : BuildAuditInput}
    {record : AuditRecord} (recorded : buildAuditRecord host clock input = .ok record) :
    record.envelope = input.envelope ∧ record.intentHash = input.envelope.intentHash ∧
      record.decision = input.decision := by
  obtain ⟨plan, stored, signature, -, -, -, rfl⟩ := buildAuditRecord_eq_ok.mp recorded
  exact ⟨rfl, rfl, rfl⟩

/-- This is `attachAuditMetadata` on a record of the program. -/
def AuditRecord.attachMetadata (record : AuditRecord) (metadata : Props JsValue) : AuditRecord :=
  { record with metadata := some (spreadInto (spreadInto [] (record.metadata.getD [])) metadata) }

/-- A minimal record with a hash, an instant and an exact link. -/
def linkedRecord (hash instant : JsString) (link : Option (JsString × JsString)) : AuditRecord where
  version := auditRecordVersion
  intentHash := hash
  envelope :=
    { version := intentEnvelopeVersion, kind := "pay", payload := .null, createdAt := instant,
      nonce := "n", actor := { principal := .user, sessionId := "s", role := none, attestation := none },
      taint := .trusted, origin := .llm, resourceRefs := none, intentHash := hash }
  decision := .execute []
  decisionBasis := []
  resourceVersion := none
  «at» := instant
  durationMs := 0
  plan := none
  supersedes := link.map fun link =>
    { predecessorIntentHash := link.1, predecessorAt := link.2, reason := .replay, token := none,
      binding := none }
  kernelIdentity := none
  policyVersion := none
  kernelVersion := none
  authoritySnapshot := none
  aggregateSnapshot := none
  metadata := none
  auditHash := none
  signature := none
  prevAuditHash := none

end Adjudicate.Audit
