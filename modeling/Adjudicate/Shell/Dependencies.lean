/-
This file models the injected dependencies of the audited entry point.
-/

import Adjudicate.Audit.Record
import Adjudicate.Effect.Program
import Adjudicate.Kernel.Adjudicate

namespace Adjudicate.Shell

open Js Canonical Adjudicate.Core Adjudicate.Kernel Adjudicate.Audit Adjudicate.Effect

structure LedgerHit where
  resourceVersion : JsString
  «at» : JsString
  sessionId : JsString
  kind : JsString
deriving DecidableEq

structure LedgerRecordInput where
  intentHash : JsString
  resourceVersion : JsString
  sessionId : JsString
  kind : JsString
deriving DecidableEq

inductive LedgerRecordOutcome where
  | acquired
  | exists
deriving DecidableEq

inductive LedgerOp where
  | check
  | record
deriving DecidableEq

inductive LedgerOpOutcome where
  | hit
  | miss
  | ok
  | duplicate
deriving DecidableEq

structure LedgerOpEvent where
  op : LedgerOp
  outcome : LedgerOpOutcome
  intentKind : JsString
  latencyMs : JsNumber
  intentHash : JsString

structure DecisionEvent where
  intentKind : JsString
  decision : DecisionKind
  latencyMs : JsNumber
  basisCount : Nat
  intentHash : JsString

structure RefusalEvent where
  intentKind : JsString
  refusal : Refusal
  intentHash : JsString

structure LearningEvent where
  intentKind : JsString
  decisionKind : DecisionKind
  basisCodes : List JsString
  taint : Taint
  durationMs : JsNumber
  intentHash : JsString
  guardId : Option JsString
  guardName : Option JsString
  guardPhase : Option TracePhase
  planFingerprint : Option JsString
  «at» : JsString

structure SinkFailureEvent where
  sink : JsString
  subject : JsString
  errorClass : JsString
  consecutiveFailures : Nat
deriving DecidableEq

/-- The metrics and the learning events go through the tenant context or the module default. -/
inductive Op where
  | nowMs
  | nowIso
  | isKilled
  | killState
  | checkLedger (intentHash : JsString)
  | recordExecution (entry : LedgerRecordInput)
  | release (intentHash : JsString)
  | recordLedgerOp (event : LedgerOpEvent)
  | recordDecision (event : DecisionEvent)
  | recordRefusal (event : RefusalEvent)
  | recordOutcome (event : LearningEvent)
  | recordSinkFailure (event : SinkFailureEvent)
  | plan
  | resolveResourceVersion (envelope : IntentEnvelope)
  | metadataProvider (record : AuditRecord)
  | emit (record : AuditRecord)
  | rateLimitRollback

abbrev Op.Response : Op → Type
  | nowMs => JsNumber
  | nowIso => JsString
  | isKilled => Bool
  | killState => KillSwitchState
  | checkLedger _ => Option LedgerHit
  | recordExecution _ => LedgerRecordOutcome
  | plan => Option PlanSnapshot
  | resolveResourceVersion _ => Option JsString
  | metadataProvider _ => Option (Props JsValue)
  | _ => Unit

/-- Every dependency may throw or reject. -/
abbrev ShellProgram (A : Type) := Program Op Op.Response Thrown A

abbrev invoke (op : Op) : ShellProgram (Op.Response op) := Program.perform op

abbrev ShellEvent := Event Op Op.Response Thrown

structure ConfirmationBindingField where
  confirmed : JsString
  requested : Option JsString
deriving DecidableEq

structure ConfirmationBinding where
  capability : Option ConfirmationBindingField
  approver : Option ConfirmationBindingField
  channel : Option ConfirmationBindingField
deriving DecidableEq

structure ConfirmationReceipt where
  intentHash : JsString
  «at» : JsString
  originalAt : Option JsString
  token : Option JsString
  binding : Option ConfirmationBinding
deriving DecidableEq

structure BudgetGrant where
  budgetId : JsString
  intentKind : JsString
  limit : JsNumber
  windowSeconds : JsNumber
  originalAt : Option JsString
deriving DecidableEq

/-- A tenant context may lack a usable kill switch. -/
structure RuntimeContext where
  id : JsString
  killSwitch : Bool
  kernelIdentity : Option KernelIdentity
deriving DecidableEq

/-- A ledger may lack the release operation. -/
structure LedgerPort where
  release : Bool
deriving DecidableEq

/-- A flag says that the optional operation of its name is supplied. -/
structure AdjudicateAndAuditDeps where
  metadataProvider : Bool
  signer : Option AuditSigner
  ledger : Option LedgerPort
  resolveResourceVersion : Bool
  plan : Bool
  context : Option RuntimeContext
  policyVersion : Option JsString
  kernelVersion : Option JsString
  aggregateSnapshot : Option RecordedAggregateSnapshot
  rateLimitRollback : Bool
  confirmationReceipt : Option ConfirmationReceipt
  budgetGrant : Option BudgetGrant
  supersedes : Option Supersession

/-- These are the arguments of one call with the process-wide kill switch it reads. -/
structure Call (S : Type) where
  envelope : IntentEnvelope
  state : S
  policy : PolicyBundle S
  kill : KillSwitchState
  deps : AdjudicateAndAuditDeps

structure AdjudicateAndAuditResult where
  decision : Decision
  record : AuditRecord
  ledgerHit : Option LedgerHit

def Thrown.errorClass : Thrown → JsString
  | .error name _ => name
  | _ => "Error"

def sinkFailure (sink subject : JsString) (err : Thrown) : SinkFailureEvent where
  sink := sink
  subject := subject
  errorClass := Thrown.errorClass err
  consecutiveFailures := 1

/-- A field without a requested value is recorded but not gated. -/
def fieldOk : Option ConfirmationBindingField → Bool
  | none => true
  | some field =>
      match field.requested with
      | none => true
      | some requested => requested = field.confirmed

def confirmationBindingMatches : Option ConfirmationBinding → Bool
  | none => true
  | some binding =>
      fieldOk binding.capability && fieldOk binding.approver && fieldOk binding.channel

/-- The record carries the confirmed values and is absent when there are none. -/
def confirmationBindingRecord (binding : Option ConfirmationBinding) :
    Option SupersessionBinding :=
  match binding with
  | none => none
  | some binding =>
      let record : SupersessionBinding :=
        { capability := binding.capability.map (·.confirmed)
          approver := binding.approver.map (·.confirmed)
          channel := binding.channel.map (·.confirmed) }
      if record.capability.isSome || record.approver.isSome || record.channel.isSome then
        some record
      else none

def flattenBasis (bases : List DecisionBasis) : List JsString :=
  bases.map fun entry => entry.category.text ++ utf16 ":" ++ entry.code

def matchedGuardIdFromTrace (trace : List AdjudicationTraceEntry) : Option JsString :=
  (trace.find? fun entry => entry.outcome = .match &&
    (entry.phase = .state || entry.phase = .auth || entry.phase = .business)).bind (·.guardName)

def matchedGuardPhaseFromTrace (trace : List AdjudicationTraceEntry) : Option TracePhase :=
  (trace.find? fun entry => entry.outcome = .match &&
    (entry.phase = .state || entry.phase = .taint || entry.phase = .auth ||
      entry.phase = .business)).map (·.phase)

end Adjudicate.Shell
