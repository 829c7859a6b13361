/-
This file models the guards of the deployments pack.
-/

import Adjudicate.Deployments.Types
import Adjudicate.Js.Sorting
import Adjudicate.Primitives.RewriteGuards
import Mathlib.Data.List.Lex

namespace Adjudicate.Deployments

open Js Canonical Adjudicate.Core Adjudicate.Kernel Adjudicate.Primitives
open Adjudicate.Audit (readProp)

def highRampThreshold : JsNumber := 50

def deploymentCiGreenSignal : JsString := "ci.green"

def deploymentDefaultDeferTimeoutMs : JsNumber := 300000

def isEnvironment (value : JsValue) : Bool := isText value "staging" || isText value "production"

def environmentInvalid : Decision :=
  .refuse (refuse .state "deployment.environment_invalid" "Unknown deployment environment." none) []

/-- Only a resolution must name its environment here. -/
def refuseUnknownEnvironment : Guard DeploymentState :=
  constant "refuseUnknownEnvironment" fun envelope _ => do
    let environment ← readProp envelope.payload "environment"
    if envelope.kind = utf16 "deployment.approval.resolve" then
      return if isEnvironment environment then none else some environmentInvalid
    if environment.isUndefined then return none
    return if isEnvironment environment then none else some environmentInvalid

/-- This is `!sha || sha.length === 0`. -/
def isEmptySha (sha : JsValue) : Bool :=
  !sha.truthy ||
    match sha with
    | .arr items => items.isEmpty
    | .obj _ =>
        match sha.getOwn "length" with
        | .num length => length.equals 0
        | _ => false
    | _ => false

def gitShaMissing (detail : JsString) : Decision :=
  .refuse (refuse .state "deployment.git_sha_missing" detail none) []

def refuseEmptyGitSha : Guard DeploymentState := constant "refuseEmptyGitSha" fun envelope _ => do
  if envelope.kind = utf16 "deployment.approval.request" ∨
      envelope.kind = utf16 "deployment.approval.resolve" then
    if isEmptySha (← readProp envelope.payload "gitSha") then
      return some (gitShaMissing "gitSha is required.")
  if envelope.kind = utf16 "deployment.rollback.execute" then
    if isEmptySha (← readProp envelope.payload "toGitSha") then
      return some (gitShaMissing "toGitSha is required.")
  return none

def requestedRamp (payload : JsValue) : Except Thrown JsValue := do
  return (← readProp payload "rampPercent").orElse (.num 100)

def deferHighRampStaging : Guard DeploymentState :=
  named "deferHighRampStaging" fun envelope _ => do
    if envelope.kind ≠ utf16 "deployment.approval.request" then return none
    if !isText (← readProp envelope.payload "environment") "staging" then return none
    let ramp ← requestedRamp envelope.payload
    if (← ramp.toNumber).atMost highRampThreshold then return none
    return some (.defer deploymentCiGreenSignal deploymentDefaultDeferTimeoutMs
      [basis .state "transition_valid" (some [("rampPercent", ramp)])])

/-- The comparison converts whatever the payload holds to a number. -/
def clampProductionRamp (host : Host) (clock : JsString) : Guard DeploymentState :=
  named "clampProductionRamp" fun envelope _ => do
    if envelope.kind ≠ utf16 "deployment.approval.request" then return none
    if !isText (← readProp envelope.payload "environment") "production" then return none
    let ramp ← requestedRamp envelope.payload
    if (← ramp.toNumber).atMost maxProductionRampPercent then return none
    let rewritten ← remint host clock envelope
      (withField envelope.payload "rampPercent" (.num maxProductionRampPercent))
    return some (.rewrite rewritten
      (utf16 "Production ramp clamped from " ++ (← ramp.toText) ++ utf16 "% to " ++
        maxProductionRampPercent.toString ++ utf16 "%.")
      [basis .business "quantity_capped"
        (some [("requested", ramp), ("cap", .num maxProductionRampPercent)])])

/-- This is the lookup of the approval that the payload asks for. -/
def approvalFor (state : DeploymentState) (payload : JsValue) :
    Except Thrown (Option DeploymentApproval) := do
  let key ← approvalKey (← readProp payload "service") (← readProp payload "environment")
    (← readProp payload "gitSha")
  return state.approvals.get key

/-- This is the text of `sha.slice(0, 8)`; only texts and arrays have a `slice`. -/
def shortSha (called : JsString) (sha : JsValue) : Except Thrown JsString :=
  match sha with
  | .str text => .ok (text.take 8)
  | .arr items => (JsValue.arr (items.take 8)).toText
  | _ => .error (.error "TypeError" (called ++ utf16 ".slice is not a function"))

def escalateProductionWithoutApproval : Guard DeploymentState :=
  named "escalateProductionWithoutApproval" fun envelope state => do
    if envelope.kind ≠ utf16 "deployment.approval.request" then return none
    if !isText (← readProp envelope.payload "environment") "production" then return none
    match ← approvalFor state envelope.payload with
    | some approval =>
        match approval.decision with
        | .approved => return none
        | .rejected =>
            return some (.refuse
              (refuse .businessRule "deployment.approval_rejected"
                (utf16 "Approval rejected by " ++ approval.approver ++ utf16 ".") none)
              [basis .business "rule_violated" none])
    | none =>
        let service ← readProp envelope.payload "service"
        let gitSha ← readProp envelope.payload "gitSha"
        return some (.escalate .human
          (utf16 "Production deploy of " ++ (← service.toText) ++ utf16 "@" ++
            (← shortSha "p.gitSha" gitSha) ++ utf16 " requires approval.")
          [basis .business "rule_violated" (some [("service", service), ("gitSha", gitSha)])])

def confirmDestructiveRollback : Guard DeploymentState :=
  named "confirmDestructiveRollback" fun envelope _ => do
    if envelope.kind ≠ utf16 "deployment.rollback.execute" then return none
    let environment ← readProp envelope.payload "environment"
    if !isText environment "production" then return none
    return some (.requestConfirmation
      (utf16 "Confirm rollback of production to " ++
        (← shortSha "p.toGitSha" (← readProp envelope.payload "toGitSha")) ++
        utf16 "? This is destructive.")
      [basis .business "rule_violated" (some [("environment", environment)])])

def allowResolve : Guard DeploymentState := named "allowResolve" fun envelope _ => do
  if envelope.kind ≠ utf16 "deployment.approval.resolve" then return none
  return some (.execute [basis .business "rule_satisfied" none])

def allowStagingNoRampOrLowRamp : Guard DeploymentState :=
  named "allowStagingDeploy" fun envelope _ => do
    if envelope.kind ≠ utf16 "deployment.approval.request" then return none
    if !isText (← readProp envelope.payload "environment") "staging" then return none
    if highRampThreshold.below (← (← requestedRamp envelope.payload).toNumber) then return none
    return some (.execute
      [basis .state "transition_valid" none, basis .business "rule_satisfied" none])

def allowApprovedProduction : Guard DeploymentState :=
  named "allowApprovedProduction" fun envelope state => do
    if envelope.kind ≠ utf16 "deployment.approval.request" then return none
    if !isText (← readProp envelope.payload "environment") "production" then return none
    match ← approvalFor state envelope.payload with
    | some approval =>
        if approval.decision ≠ .approved then return none
        return some (.execute
          [basis .state "transition_valid" none,
            basis .business "rule_satisfied" (some [("approver", .str approval.approver)])])
    | none => return none

def escalateRegressionScore : Guard DeploymentState :=
  { createEscalateGuard
      { applies := fun envelope _ => .ok (envelope.kind = utf16 "deployment.approval.request")
        extract := fun envelope _ => readProp envelope.payload "aiEvalScore"
        threshold := regressionEscalateThreshold
        comparator := .below
        «to» := .human
        reason := fun value threshold _ _ => do
          return utf16 "AI eval score " ++ (← value.toText) ++ utf16 " is below " ++
            threshold.toString ++ utf16 "; release escalated."
        basis := none } with
    metadataName := some "escalateRegressionScore" }

/-- A region without a greener one in its zone stays as it is. -/
def clampToGreenestRegion (host : Host) (clock : JsString) : Guard DeploymentState :=
  named "clampToGreenestRegion" fun envelope _ => do
    if envelope.kind ≠ utf16 "deployment.approval.request" then return none
    let region ← readProp envelope.payload "region"
    if region.isUndefined then return none
    match ← greenestRegionInZone region with
    | none => return none
    | some greenest =>
        let rewritten ← remint host clock envelope
          (withField envelope.payload "region" (.str greenest))
        return some (.rewrite rewritten
          (utf16 "Region clamped from " ++ (← region.toText) ++ utf16 " to " ++ greenest ++
            utf16 " (carbon budget, same residency zone).")
          [basis .business "rule_satisfied"
            (some [("from", region), ("to", .str greenest), ("reason", "carbon_budget")])])

/-- The latest approved release of the service comes first. -/
def priorRelease (state : DeploymentState) (service environment : JsValue) :
    Option DeploymentApproval :=
  (sortBy (fun approval => OrderDual.toDual approval.at)
    ((state.approvals.entries.map Prod.snd).filter fun approval =>
      isText service approval.service && isText environment approval.environment.text &&
        approval.decision = .approved)).head?

/-- The value is given and differs from the one of the prior release. -/
def differs (value : JsValue) (prior : Option JsString) : Bool :=
  match value with
  | .undefined => false
  | .str text => prior ≠ some text
  | _ => true

def shown (value : JsValue) : Except Thrown JsString := (value.orElse (.str "—")).toText

def confirmModelOrPromptChange : Guard DeploymentState :=
  named "confirmModelOrPromptChange" fun envelope state => do
    if envelope.kind ≠ utf16 "deployment.approval.request" then return none
    let modelId ← readProp envelope.payload "modelId"
    let promptVersion ← readProp envelope.payload "promptVersion"
    if modelId.isUndefined && promptVersion.isUndefined then return none
    let prior := priorRelease state (← readProp envelope.payload "service")
      (← readProp envelope.payload "environment")
    let priorModel := prior.bind DeploymentApproval.modelId
    let priorPrompt := prior.bind DeploymentApproval.promptVersion
    let modelChanged := differs modelId priorModel
    let promptChanged := differs promptVersion priorPrompt
    if !modelChanged && !promptChanged then return none
    return some (.requestConfirmation
      (utf16 "Model/prompt changed (model " ++ priorModel.getD "—" ++ utf16 "→" ++
        (← shown modelId) ++ utf16 ", prompt " ++ priorPrompt.getD "—" ++ utf16 "→" ++
        (← shown promptVersion) ++ utf16 "). Confirm the release gate?")
      [basis .business "rule_violated"
        (some [("modelChanged", .bool modelChanged), ("promptChanged", .bool promptChanged)])])

def deploymentAuthorityGatedKinds : List JsString :=
  ["deployment.approval.request", "deployment.rollback.execute"]

def enforceDeployOwnership : Guard DeploymentState :=
  createInjectedAuthorityGuard DeploymentState.authority deploymentAuthorityGatedKinds

def deploymentPolicyBundle (host : Host) (clock : JsString) : PolicyBundle DeploymentState where
  stateGuards := [refuseUnknownEnvironment, refuseEmptyGitSha]
  authGuards := [enforceDeployOwnership]
  taint := deploymentTaintPolicy
  business := [allowResolve, escalateRegressionScore, deferHighRampStaging,
    clampProductionRamp host clock, clampToGreenestRegion host clock, confirmModelOrPromptChange,
    escalateProductionWithoutApproval, confirmDestructiveRollback, allowStagingNoRampOrLowRamp,
    allowApprovedProduction]
  default := .refuse

end Adjudicate.Deployments
