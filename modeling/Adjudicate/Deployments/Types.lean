/-
This file models the state of the deployments pack with its limits and regions.
-/

import Adjudicate.Js.InsertionMap
import Adjudicate.Primitives.GuardFactories

namespace Adjudicate.Deployments

open Js Adjudicate.Core Adjudicate.Primitives

inductive DeploymentEnvironment where
  | staging
  | production
deriving DecidableEq

def DeploymentEnvironment.text : DeploymentEnvironment → JsString
  | .staging => "staging"
  | .production => "production"

inductive ApprovalDecision where
  | approved
  | rejected
deriving DecidableEq

structure DeploymentApproval where
  service : JsString
  environment : DeploymentEnvironment
  gitSha : JsString
  approver : JsString
  decision : ApprovalDecision
  «at» : JsString
  modelId : Option JsString
  promptVersion : Option JsString

structure DeploymentState where
  approvals : InsertionMap JsString DeploymentApproval
  authority : Option InjectedAuthority

def deploymentTaintPolicy : TaintPolicy := createSystemTaintPolicy ["deployment.approval.resolve"]

def maxProductionRampPercent : JsNumber := 25

def regressionEscalateThreshold : JsNumber := 80

/-- A lower rank is greener. -/
def regionCarbonRank : Props JsNumber :=
  [("us-west-1", 0), ("eu-north-1", 1), ("eu-west-1", 2), ("us-east-1", 5), ("ap-southeast-1", 6)]

def regionResidency : Props JsString :=
  [("us-west-1", "us"), ("us-east-1", "us"), ("eu-north-1", "eu"), ("eu-west-1", "eu"),
    ("ap-southeast-1", "ap")]

/-- The best region so far is none while it is the requested one. -/
def greenerRegion (zone : JsString) (best : Option JsString × JsNumber)
    (entry : JsString × JsNumber) : Option JsString × JsNumber :=
  if regionResidency.lookup entry.1 = some zone && entry.2.below best.2 then (some entry.1, entry.2)
  else best

/-- A region is looked up under its text, where the zone of an inherited name is no text and no region
lies in it. None stands for the region itself. -/
def greenestRegionInZone (region : JsValue) : Except Thrown (Option JsString) := do
  let key ← region.toText
  match regionResidency.lookup key with
  | none => return none
  | some zone =>
      let rank := (regionCarbonRank.lookup key).getD (.infinity false)
      return (regionCarbonRank.foldl (greenerRegion zone) (none, rank)).1

/-- The template converts whatever the payload holds. -/
def approvalKey (service environment gitSha : JsValue) : Except Thrown JsString := do
  return (← environment.toText) ++ utf16 "/" ++ (← service.toText) ++ utf16 "/" ++ (← gitSha.toText)

/-- This is the key of an approval's own fields. -/
def DeploymentApproval.key (approval : DeploymentApproval) : JsString :=
  approval.environment.text ++ utf16 "/" ++ approval.service ++ utf16 "/" ++ approval.gitSha

/-- Every approval is stored under the key of its own fields. -/
def storeApprovals (approvals : List DeploymentApproval) : InsertionMap JsString DeploymentApproval :=
  approvals.foldl (fun stored approval => stored.set approval.key approval) .empty

end Adjudicate.Deployments
