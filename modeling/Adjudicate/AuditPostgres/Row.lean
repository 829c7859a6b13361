/-
This file models the rows of the audit table and how a record becomes one.
-/

import Adjudicate.Audit.Record
import Adjudicate.Js.NumberText

namespace Adjudicate.AuditPostgres

open Js Canonical Adjudicate.Core Audit

/-- A driver returns a JSON column as its text or as the parsed value. -/
structure IntentAuditRow where
  intentHash : JsString
  sessionId : JsString
  kind : JsString
  principal : JsString
  taint : JsString
  decisionKind : JsString
  refusalKind : Option JsString
  refusalCode : Option JsString
  decisionBasis : List JsString
  resourceVersion : Option JsString
  envelopeJsonb : JsValue
  decisionJsonb : JsValue
  recordedAt : JsString
  durationMs : JsNumber
  partitionMonth : JsString
  recordVersion : JsNumber
  planJsonb : Option JsValue
  nonce : Option JsString
  supersedesJsonb : Option JsValue
  kernelIdentityJsonb : Option JsValue
  policyVersion : Option JsString
  kernelVersion : Option JsString
  auditHash : Option JsString
  signatureJsonb : Option JsValue
  metadataJsonb : Option JsValue
  prevAuditHash : Option JsString
  authoritySnapshotJsonb : Option JsValue
  aggregateSnapshotJsonb : Option JsValue

/-- This is `JSON.stringify` of a value that has a text. -/
def jsonText (value : JsValue) : JsValue := .str (value.stringify.getD [])

/-- The month routes the row to its partition. -/
def partitionMonthOf (isoTimestamp : JsString) : Except Thrown JsString :=
  let quoted := ((JsValue.str isoTimestamp).stringify.getD [])
  match isoTimestamp with
  | y₁ :: y₂ :: y₃ :: y₄ :: 0x2D :: m₁ :: m₂ :: _ =>
      if [y₁, y₂, y₃, y₄, m₁, m₂].all isDigit then
        let month := digitsValue [m₁, m₂]
        if month < 1 ∨ 12 < month then
          .error (.error "Error" (utf16 "partitionMonthOf: invalid month " ++ [m₁, m₂] ++
            utf16 " in timestamp " ++ quoted ++ utf16 " — must be 01-12"))
        else .ok [y₁, y₂, y₃, y₄, 0x2D, m₁, m₂]
      else .error (.error "Error" (utf16 "partitionMonthOf: unparseable timestamp — " ++
        utf16 "expected ISO-8601 beginning with YYYY-MM, got: " ++ quoted))
  | _ => .error (.error "Error" (utf16 "partitionMonthOf: unparseable timestamp — " ++
      utf16 "expected ISO-8601 beginning with YYYY-MM, got: " ++ quoted))

def recordToRow (record : AuditRecord) : Except Thrown IntentAuditRow := do
  let partitionMonth ← partitionMonthOf record.at
  let refusal := match record.decision with
    | .refuse refusal _ => some refusal
    | _ => none
  return {
    intentHash := record.intentHash
    sessionId := record.envelope.actor.sessionId
    kind := record.envelope.kind
    principal := record.envelope.actor.principal.text
    taint := record.envelope.taint.text
    decisionKind := record.decision.kind.text
    refusalKind := refusal.map (·.kind.text)
    refusalCode := refusal.map (·.code)
    decisionBasis := record.decisionBasis.map fun entry =>
      entry.category.text ++ utf16 ":" ++ entry.code
    resourceVersion := record.resourceVersion
    envelopeJsonb := jsonText record.envelope.toJs
    decisionJsonb := jsonText record.decision.toJs
    recordedAt := record.at
    durationMs := record.durationMs
    partitionMonth
    recordVersion := record.version
    planJsonb := record.plan.map fun plan => jsonText plan.toJs
    nonce := some record.envelope.nonce
    supersedesJsonb := record.supersedes.map fun supersedes => jsonText supersedes.toJs
    kernelIdentityJsonb := record.kernelIdentity.map fun identity => jsonText identity.toJs
    policyVersion := record.policyVersion
    kernelVersion := record.kernelVersion
    auditHash := record.auditHash
    signatureJsonb := record.signature.map fun signature => jsonText signature.toJs
    metadataJsonb := record.metadata.map fun metadata => jsonText (.obj metadata)
    prevAuditHash := record.prevAuditHash
    authoritySnapshotJsonb := record.authoritySnapshot.map fun recorded => jsonText recorded.toJs
    aggregateSnapshotJsonb := record.aggregateSnapshot.map fun recorded => jsonText recorded.toJs }

/-- A driver may parse the envelope column. -/
def IntentAuditRow.parsed (row : IntentAuditRow) (envelope : JsValue) : IntentAuditRow :=
  { row with envelopeJsonb := envelope }

theorem recordToRow_eq_ok {record : AuditRecord} {row : IntentAuditRow}
    (mapped : recordToRow record = .ok row) :
    row.envelopeJsonb = jsonText record.envelope.toJs ∧ row.nonce = some record.envelope.nonce ∧
      row.recordVersion = record.version := by
  obtain ⟨month, -, returned⟩ := bind_eq_ok.mp mapped
  cases returned
  exact ⟨rfl, rfl, rfl⟩

end Adjudicate.AuditPostgres
