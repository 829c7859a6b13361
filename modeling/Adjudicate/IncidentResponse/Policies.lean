/-
This file models the guards of the incident response pack.
-/

import Adjudicate.Primitives.GuardFactories
import Adjudicate.Primitives.RewriteGuards

namespace Adjudicate.IncidentResponse

open Js Canonical Adjudicate.Core Adjudicate.Kernel Adjudicate.Primitives
open Adjudicate.Audit (readProp)

inductive IncidentStatus where
  | «open»
  | investigating
  | remediating
  | resolved
  | escalated
deriving DecidableEq

inductive DependencyStatus where
  | up
  | down
  | degraded
deriving DecidableEq

/-- Of a dependency only the status is read. -/
structure Incident where
  status : IncidentStatus
  dependencies : List DependencyStatus

/-- The incidents are keyed by their ids. -/
structure IncidentState where
  incidents : Props Incident
  authority : Option InjectedAuthority

/-- A key that is no string finds nothing. -/
def IncidentState.incidentOf (state : IncidentState) (incidentId : JsValue) : Option Incident :=
  match incidentId with
  | .str id => state.incidents.lookup id
  | _ => none

def incidentDependencyRestoredSignal : JsString := "incident.dependency.restored"

def incidentDefaultDeferTimeoutMs : JsNumber := 600000

def autoRemediationBlastCap : JsNumber := 5

def confirmBlastRadius : JsNumber := 10

def escalateBlastRadius : JsNumber := 25

def isTerminal (status : IncidentStatus) : Bool := status = .resolved

def remediationKind : JsString := "incident.remediation.execute"

def escalationKind : JsString := "incident.escalate"

def monitorKind : JsString := "incident.monitor.callback"

def refuseIncidentNotFound (id : JsValue) : Except Thrown Refusal := do
  return refuse .state "incident.not_found" "That incident doesn't exist."
    (some (utf16 "no incident " ++ (← id.toText)))

def refuseIncidentResolved (id : JsValue) : Except Thrown Refusal := do
  return refuse .state "incident.already_resolved" "That incident is already resolved."
    (some (utf16 "incident " ++ (← id.toText) ++ utf16 " is terminal"))

def refuseInvalidBlastRadius (seen : JsValue) : Except Thrown Refusal := do
  return refuse .businessRule "incident.blast_radius_invalid" "That remediation scope is invalid."
    (some (utf16 "blastRadius must be a non-negative integer (got " ++ (← seen.toText) ++
      utf16 ")"))

/-- A missing id counts as the empty text. -/
def targetId (payload : JsValue) : Except Thrown JsValue := do
  match ← readProp payload "incidentId" with
  | .undefined => return .str []
  | .null => return .str []
  | id => return id

def validateRemediationTarget : Guard IncidentState :=
  named "validateRemediationTarget" fun envelope state => do
    if envelope.kind ≠ remediationKind ∧ envelope.kind ≠ escalationKind then return none
    let id ← targetId envelope.payload
    match state.incidentOf id with
    | none =>
        return some (.refuse (← refuseIncidentNotFound id)
          [basis .state "transition_illegal" (some [("incidentId", id)])])
    | some incident =>
        if isTerminal incident.status then
          return some (.refuse (← refuseIncidentResolved id)
            [basis .state "terminal_state" (some [("incidentId", id)])])
        return none

def isBlastRadius : JsValue → Bool
  | .num number => isInteger number && !number.below 0
  | _ => false

def validateBlastRadius : Guard IncidentState :=
  named "validateBlastRadius" fun envelope _ => do
    if envelope.kind ≠ remediationKind then return none
    let br ← readProp envelope.payload "blastRadius"
    if !isBlastRadius br then
      return some (.refuse (← refuseInvalidBlastRadius br)
        [basis .business "rule_violated" (some [("rule", "blast_radius")])])
    return none

def deferOnDependencyDown : Guard IncidentState :=
  { createStateDeferGuard
      { applies := fun envelope state => do
          if envelope.kind ≠ remediationKind then return false
          match state.incidentOf (← readProp envelope.payload "incidentId") with
          | none => return false
          | some incident => return incident.dependencies.contains .down
        signal := incidentDependencyRestoredSignal
        timeoutMs := incidentDefaultDeferTimeoutMs
        basis := [basis .state "transition_valid"
          (some [("reason", "dependency_down"),
            ("waitFor", .str incidentDependencyRestoredSignal)])] } with
    metadataName := some "deferOnDependencyDown" }

/-- The state guards let only numbers through to the clamp. -/
def requestedRadius (payload : JsValue) : Except Thrown (Option JsNumber) := do
  match ← readProp payload "blastRadius" with
  | .num number => return some number
  | .undefined => return none
  | .null => return none
  | _ => return some .nan

def clampOptions : RewriteGuardOptions IncidentState where
  applies envelope _ := .ok (envelope.kind = remediationKind && envelope.taint ≠ .trusted)
  extract envelope _ := requestedRadius envelope.payload
  cap := .fixed autoRemediationBlastCap
  mutateField := "blastRadius"
  reason := "Clamped auto-remediation blast radius to the safe ceiling."
  basis := none

/-- What an operator proposes is not clamped. -/
def clampAutoRemediationScope (host : Host) (clock : JsString) : Guard IncidentState :=
  { createRewriteGuard host clock clampOptions with
    metadataName := some "clampAutoRemediationScope" }

def escalateLargeBlastRadius : Guard IncidentState :=
  { createEscalateGuard
      { applies := fun envelope _ => .ok (envelope.kind = remediationKind)
        extract := fun envelope _ => readProp envelope.payload "blastRadius"
        threshold := escalateBlastRadius
        comparator := .atLeast
        «to» := .supervisor
        reason := fun value _ _ _ => do
          return utf16 "Remediation blast radius " ++ (← value.toText) ++
            utf16 " exceeds the escalation threshold."
        basis := none } with
    metadataName := some "escalateLargeBlastRadius" }

def confirmDestructiveRemediation : Guard IncidentState :=
  { createConfirmGuard
      { applies := fun envelope _ => .ok (envelope.kind = remediationKind)
        extract := fun envelope _ => readProp envelope.payload "blastRadius"
        threshold := confirmBlastRadius
        comparator := .atLeast
        prompt := fun value _ _ _ => do
          return utf16 "Confirm remediation affecting " ++ (← value.toText) ++
            utf16 " hosts? This is destructive."
        basis := none } with
    metadataName := some "confirmDestructiveRemediation" }

/-- The three executing guards differ in the kind and in the basis. -/
def executeKind (name kind : JsString) (entry : DecisionBasis) : Guard IncidentState :=
  named name fun envelope _ =>
    if envelope.kind = kind then .ok (some (.execute [entry])) else .ok none

def executeMonitorCallback : Guard IncidentState :=
  executeKind "executeMonitorCallback" monitorKind
    (basis .state "transition_valid" (some [("source", "monitor")]))

def executeRemediation : Guard IncidentState :=
  executeKind "executeRemediation" remediationKind
    (basis .business "rule_satisfied" (some [("rule", "in_bounds_remediation")]))

def executeEscalate : Guard IncidentState :=
  executeKind "executeEscalate" escalationKind
    (basis .business "rule_satisfied" (some [("rule", "manual_escalation")]))

def incidentAuthorityGatedKinds : List JsString := [remediationKind, escalationKind]

def enforceResourceOwnership : Guard IncidentState :=
  createInjectedAuthorityGuard IncidentState.authority incidentAuthorityGatedKinds

def incidentTaintPolicy : TaintPolicy := createSystemTaintPolicy [monitorKind]

def incidentPolicyBundle (host : Host) (clock : JsString) : PolicyBundle IncidentState where
  stateGuards := [validateRemediationTarget, validateBlastRadius]
  authGuards := [enforceResourceOwnership]
  taint := incidentTaintPolicy
  business := [deferOnDependencyDown, clampAutoRemediationScope host clock, escalateLargeBlastRadius,
    confirmDestructiveRemediation, executeMonitorCallback, executeRemediation, executeEscalate]
  default := .refuse

end Adjudicate.IncidentResponse
