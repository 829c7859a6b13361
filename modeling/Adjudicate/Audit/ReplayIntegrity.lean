/-
This file models the replay of audit records with the check of their integrity.
-/

import Adjudicate.Audit.BuiltRecord
import Adjudicate.Chain.Links

namespace Adjudicate.Audit

open Js Canonical Chain Adjudicate.Core

inductive ReplayMismatchKind where
  | decisionKind
  | basisDrift
  | refusalCodeDrift
deriving DecidableEq

structure ReplayBasisDelta where
  missing : List JsString
  extra : List JsString
deriving DecidableEq

structure ReplayMismatch where
  intentHash : JsString
  kind : ReplayMismatchKind
  expected : Decision
  actual : Decision
  basisDelta : Option ReplayBasisDelta

def flattenBasis (basis : List DecisionBasis) : List JsString :=
  basis.map fun entry => entry.category.text ++ utf16 ":" ++ entry.code

/-- A set lists each text once; the default sort compares UTF-16 code units. -/
def symmetricDifference (left right : List JsString) : ReplayBasisDelta where
  missing := (left.eraseDups.filter (· ∉ right)).insertionSort (· ≤ ·)
  extra := (right.eraseDups.filter (· ∉ left)).insertionSort (· ≤ ·)

def classify (intentHash : JsString) (expected actual : Decision) : Option ReplayMismatch :=
  if expected.kind ≠ actual.kind then
    some { intentHash, kind := .decisionKind, expected, actual, basisDelta := none }
  else
    let delta := symmetricDifference (flattenBasis expected.basis) (flattenBasis actual.basis)
    if delta.missing ≠ [] ∨ delta.extra ≠ [] then
      some { intentHash, kind := .basisDrift, expected, actual, basisDelta := some delta }
    else
      match expected, actual with
      | .refuse expectedRefusal _, .refuse actualRefusal _ =>
          if expectedRefusal.code ≠ actualRefusal.code then
            some { intentHash, kind := .refusalCodeDrift, expected, actual, basisDelta := none }
          else none
      | _, _ => none

inductive IntegrityFailureKind where
  | auditHashTampered
  | intentHashMismatch
  | auditSignatureInvalid
  | auditChainBroken
deriving DecidableEq

structure IntegrityFailure where
  intentHash : JsString
  kind : IntegrityFailureKind
  stored : JsValue
  derived : JsValue

structure ReplayIntegrityReport where
  total : Nat
  matched : Nat
  mismatches : List ReplayMismatch
  integrityFailures : List IntegrityFailure
  preV4Records : Nat

/-- The adjudicator of a replay is deterministic and has no effects. -/
abbrev Adjudicator := AuditRecord → Decision

/-- A stream that is absent from the cursor and one without a hash read alike. -/
structure ReplayState where
  mismatches : List ReplayMismatch
  integrityFailures : List IntegrityFailure
  matched : Nat
  preV4 : Nat
  chainTip : JsString → Option JsString

def ReplayState.initial : ReplayState where
  mismatches := []
  integrityFailures := []
  matched := 0
  preV4 := 0
  chainTip := fun _ => none

/-- A mismatch of the envelope was already reported by the first axis. -/
def verificationFailure (record : AuditRecord) :
    AuditRecordVerification → Option IntegrityFailure
  | .invalidSignature keyId alg =>
      some ⟨record.intentHash, .auditSignatureInvalid, keyId, alg⟩
  | .tampered derived stored =>
      some ⟨record.intentHash, .auditHashTampered, stored, .str derived⟩
  | .verified | .envelopeIntentMismatch _ _ | .missingHash => none

def AuditRecord.stream (record : AuditRecord) : JsString := record.envelope.actor.sessionId

/-- A record without a link and a stream without a tip are not checked. -/
def chainFailure (chainTip : JsString → Option JsString) (record : AuditRecord) :
    Option IntegrityFailure :=
  match record.prevAuditHash, chainTip record.stream with
  | some prevLink, some expectedTip =>
      if timingSafeHexEqual (.str prevLink) (.str expectedTip) then none
      else some ⟨record.intentHash, .auditChainBroken, .str prevLink, .str expectedTip⟩
  | _, _ => none

def auditHashOk : AuditRecordVerification → Bool
  | .verified | .missingHash => true
  | _ => false

/-- This is one iteration of the loop over the records. -/
def replayRecord (host : Host) (adjudicator : Adjudicator) (state : ReplayState)
    (record : AuditRecord) : Except Thrown ReplayState := do
  let derivedEnvHash ← deriveIntentHash host record.envelope
  let intentHashOk := derivedEnvHash == record.envelope.intentHash
  let intentFailure := if intentHashOk then none
    else some ⟨record.intentHash, .intentHashMismatch, .str record.envelope.intentHash,
      .str derivedEnvHash⟩
  let auditVerification ← verifyAuditRecord host none record.ownProps
  let preV4 := match auditVerification with
    | .missingHash => state.preV4 + 1
    | _ => state.preV4
  let chain := chainFailure state.chainTip record
  let mismatch := classify record.intentHash record.decision (adjudicator record)
  let whole := mismatch.isNone && intentHashOk && auditHashOk auditVerification && chain.isNone
  return {
    mismatches := state.mismatches ++ mismatch.toList
    integrityFailures := state.integrityFailures ++ intentFailure.toList ++
      (verificationFailure record auditVerification).toList ++ chain.toList
    matched := if whole then state.matched + 1 else state.matched
    preV4
    chainTip := Function.update state.chainTip record.stream record.auditHash }

def replayWithIntegrity (host : Host) (adjudicator : Adjudicator) (records : List AuditRecord) :
    Except Thrown ReplayIntegrityReport := do
  let state ← records.foldlM (replayRecord host adjudicator) ReplayState.initial
  return {
    total := records.length
    matched := state.matched
    mismatches := state.mismatches
    integrityFailures := state.integrityFailures
    preV4Records := state.preV4 }

end Adjudicate.Audit
