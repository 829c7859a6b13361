/-
This file models the reconstruction of envelopes from audit records.
-/

import Adjudicate.Audit.BuiltRecord

namespace Adjudicate.Audit

open Js Canonical Adjudicate.Core

/-- The reconstruction forwards neither the origin nor the resource references.
A stored envelope of the program always has a nonce, so the fallback to `createdAt` is left out. -/
def replayInput (envelope : IntentEnvelope) : BuildEnvelopeInput where
  kind := envelope.kind
  payload := envelope.payload
  actor := envelope.actor
  taint := envelope.taint
  nonce := envelope.nonce
  createdAt := some envelope.createdAt
  origin := none
  resourceRefs := none

def replayMismatchError (derived stored : JsString) : Thrown :=
  .error "Error" (utf16 "replayEnvelopeFromAudit: envelope_intent_mismatch — reconstructed " ++
    utf16 "intentHash " ++ derived ++ utf16 " does not match stored " ++ stored)

def replayEnvelopeFromAudit (host : Host) (clock : JsString) (record : AuditRecord) :
    Except Thrown IntentEnvelope := do
  let env ← buildEnvelope host clock (replayInput record.envelope)
  if !timingSafeHexEqual (.str env.intentHash) (.str record.envelope.intentHash) then
    throw (replayMismatchError env.intentHash record.envelope.intentHash)
  return env

/-- A reconstruction that returns has the stored hash and is built from the forwarded fields. -/
theorem replayEnvelopeFromAudit_eq_ok {host : Host} {clock : JsString} {record : AuditRecord}
    {env : IntentEnvelope} :
    replayEnvelopeFromAudit host clock record = .ok env ↔
      buildEnvelope host clock (replayInput record.envelope) = .ok env ∧
        env.intentHash = record.envelope.intentHash := by
  rw [replayEnvelopeFromAudit, bind_eq_ok]
  constructor
  · rintro ⟨built, run, same⟩
    cases equal : timingSafeHexEqual (.str built.intentHash) (.str record.envelope.intentHash) with
    | false =>
        rw [equal] at same
        cases same
    | true =>
        rw [equal] at same
        cases same
        exact ⟨run, (timingSafeHexEqual_iff _ _).mp equal⟩
  · rintro ⟨run, same⟩
    refine ⟨env, run, ?_⟩
    rw [(timingSafeHexEqual_iff _ _).mpr same]
    rfl

/-- Anything else that builds is refused as a mismatch. -/
theorem replayEnvelopeFromAudit_mismatch {host : Host} {clock : JsString} {record : AuditRecord}
    {env : IntentEnvelope}
    (replayed : buildEnvelope host clock (replayInput record.envelope) = .ok env)
    (different : env.intentHash ≠ record.envelope.intentHash) :
    replayEnvelopeFromAudit host clock record =
      .error (replayMismatchError env.intentHash record.envelope.intentHash) := by
  have unequal : timingSafeHexEqual (.str env.intentHash) (.str record.envelope.intentHash) =
      false := by
    rw [Bool.eq_false_iff, Ne, timingSafeHexEqual_iff]
    exact different
  rw [replayEnvelopeFromAudit, replayed, ok_bind, unequal]
  rfl

/-- The reconstruction gives the built envelope back exactly when it has the default origin and
no resource references. -/
theorem replayEnvelope_inverts_iff {host : Host} {envelopeClock recordClock : JsString}
    (replayClock : JsString) {envelopeInput : BuildEnvelopeInput} {input : BuildAuditInput}
    {record : AuditRecord}
    (built : buildEnvelope host envelopeClock envelopeInput = .ok input.envelope)
    (recorded : buildAuditRecord host recordClock input = .ok record) :
    replayEnvelopeFromAudit host replayClock record = .ok input.envelope ↔
      envelopeInput.origin.getD defaultOrigin = defaultOrigin ∧
        envelopeInput.resourceRefs = none := by
  obtain ⟨fields, createdAt, hash⟩ := buildEnvelope_eq_ok.mp built
  rw [replayEnvelopeFromAudit_eq_ok, (buildAuditRecord_subject recorded).1, buildEnvelope_eq_ok]
  constructor
  · rintro ⟨⟨replayed, -, -⟩, -⟩
    have forwarded := fields.symm.trans replayed
    exact ⟨congrArg HashedFields.origin forwarded, congrArg HashedFields.resourceRefs forwarded⟩
  · rintro ⟨origin, resourceRefs⟩
    have replayed : input.envelope.toHashedFields = (replayInput input.envelope).hashedFields := by
      rw [replayInput, BuildEnvelopeInput.hashedFields, fields, BuildEnvelopeInput.hashedFields,
        origin, resourceRefs]
      rfl
    refine ⟨⟨replayed, rfl, ?_⟩, rfl⟩
    rw [← replayed, fields, hash]

/-- This payment was read from retrieved content. -/
def retrievedPayment : BuildEnvelopeInput := { samplePayment 1 with origin := some .retrieved }

def retrievedIntentHash : JsString :=
  "7c383c1476285536559ef514c314136fb273b163c4285b5d5e58ebbe63f753df"

def retrievedHash : JsString := "d3ec4d7467cad3608271a21a80be85c9c048ca1f111058589b7404079f112b60"

def retrievedEnvelope : IntentEnvelope := auditedEnvelope .retrieved retrievedIntentHash

/-- The digests of both envelopes and of the record are their SHA-256 digests. -/
def replayHost : Host := .ofDigests
  [(samplePaymentText "1", auditedIntentHash),
    (utf16 "\x7b\"actor\":\x7b\"principal\":\"llm\",\"sessionId\":\"s-1\"\x7d,\"kind\":" ++
        utf16 "\"payment.send\",\"nonce\":\"n-1\",\"origin\":\"Retrieved\",\"payload\":" ++
        utf16 "\x7b\"amount\":1\x7d,\"taint\":\"UNTRUSTED\",\"version\":2\x7d",
      retrievedIntentHash),
    (auditedRecordText "Retrieved" retrievedIntentHash, retrievedHash)]

theorem retrievedEnvelope_built :
    buildEnvelope replayHost "2026-01-01T00:00:00.000Z" retrievedPayment =
      .ok retrievedEnvelope := by
  have hash : sha256Canonical replayHost (intentHashInput retrievedPayment.hashedFields) =
      .ok retrievedIntentHash := by
    unfold replayHost samplePaymentText auditedRecordText auditedIntentHash retrievedIntentHash
      retrievedHash
    repeat rw [utf16_ofList]
    decide +kernel
  exact buildEnvelope_eq_ok.mpr ⟨rfl, rfl, hash⟩

theorem retrievedEnvelope_recorded :
    ∃ record, buildAuditRecord replayHost [] (auditedInput retrievedEnvelope none) = .ok record := by
  obtain ⟨record, -, recorded, -⟩ := @buildAuditRecord_sealed replayHost [] _ retrievedPayment
    (auditedInput retrievedEnvelope none) retrievedEnvelope_built (auditedInput_isJson _ _ _) nofun
  exact ⟨record, recorded⟩

theorem replayEnvelope_inverts_iff_retrievedPayment :
    ∃ record, buildAuditRecord replayHost [] (auditedInput retrievedEnvelope none) = .ok record ∧
      (replayEnvelopeFromAudit replayHost [] record = .ok retrievedEnvelope ↔
        retrievedPayment.origin.getD defaultOrigin = defaultOrigin ∧
          retrievedPayment.resourceRefs = none) := by
  obtain ⟨record, recorded⟩ := retrievedEnvelope_recorded
  exact ⟨record, recorded, replayEnvelope_inverts_iff [] retrievedEnvelope_built recorded⟩

/-- The record of the retrieved payment cannot be replayed. -/
theorem retrievedPayment_replay_throws :
    buildEnvelope replayHost "2026-01-01T00:00:00.000Z" retrievedPayment = .ok retrievedEnvelope ∧
      ∃ record, buildAuditRecord replayHost [] (auditedInput retrievedEnvelope none) = .ok record ∧
        replayEnvelopeFromAudit replayHost [] record =
          .error (replayMismatchError auditedIntentHash retrievedIntentHash) := by
  obtain ⟨record, recorded⟩ := retrievedEnvelope_recorded
  refine ⟨retrievedEnvelope_built, record, recorded, ?_⟩
  have subject : record.envelope = retrievedEnvelope := (buildAuditRecord_subject recorded).1
  have hash : sha256Canonical replayHost
      (intentHashInput (replayInput retrievedEnvelope).hashedFields) = .ok auditedIntentHash := by
    decide +kernel
  have replayed : buildEnvelope replayHost [] (replayInput record.envelope) =
      .ok (auditedEnvelope .llm auditedIntentHash) := by
    rw [subject]
    exact buildEnvelope_eq_ok.mpr ⟨rfl, rfl, hash⟩
  have different : auditedIntentHash ≠ retrievedIntentHash := by decide
  have mismatch := replayEnvelopeFromAudit_mismatch replayed (by rw [subject]; exact different)
  rw [mismatch, subject]
  rfl

end Adjudicate.Audit
