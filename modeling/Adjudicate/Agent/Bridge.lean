/-
This file models the boundary between the tool uses of a provider and intent envelopes.
-/

import Adjudicate.Audit.Record

namespace Adjudicate.Agent

open Js Canonical Adjudicate.Core Audit

/-- The taint is the meet of what entered the session; the origin is the first that did. -/
structure SessionContamination where
  taint : Taint
  origin : Origin
deriving DecidableEq

def applySessionContamination (declaredTaint : Taint) : Option SessionContamination → Taint
  | none => declaredTaint
  | some flag => mergeTaint declaredTaint flag.taint

def contaminateSession (prior : Option SessionContamination) (origin : Origin) (taint : Taint) :
    Option SessionContamination :=
  if isContaminatingOrigin origin then
    match prior with
    | none => some ⟨taint, origin⟩
    | some flag => some ⟨mergeTaint flag.taint taint, flag.origin⟩
  else prior

structure ToolUseRequest where
  id : JsString
  name : JsString
  input : JsValue

inductive ToolUseClassification where
  | read (name : JsString) (input : JsValue)
  | intent (intentKind : JsString) (payload : JsValue)
  | outOfPlan (name : JsString)

/-- Every dot becomes an underscore. -/
def intentKindToApiName (name : JsString) : JsString :=
  name.map fun unit => if [unit] = utf16 "." then 0x5F else unit

def matchesName (incoming candidate : JsString) : Bool :=
  candidate == incoming || intentKindToApiName candidate == incoming

/-- A name that both lists claim belongs to neither. -/
def classifyIncomingToolUse (toolUse : ToolUseRequest) (plan : PlanSnapshot) :
    ToolUseClassification :=
  match plan.visibleReadTools.find? (matchesName toolUse.name),
      plan.allowedIntents.find? (matchesName toolUse.name) with
  | some _, some _ => .outOfPlan toolUse.name
  | some name, none => .read name toolUse.input
  | none, some intentKind => .intent intentKind toolUse.input
  | none, none => .outOfPlan toolUse.name

structure BuildEnvelopeFromToolUseArgs where
  intentKind : JsString
  payload : JsValue
  sessionId : JsString
  taint : Taint
  origin : Origin
  contamination : Option SessionContamination
  nonce : JsString

def BuildEnvelopeFromToolUseArgs.input (args : BuildEnvelopeFromToolUseArgs) :
    BuildEnvelopeInput where
  kind := args.intentKind
  payload := args.payload
  actor := { principal := .llm, sessionId := args.sessionId, role := none, attestation := none }
  taint := applySessionContamination args.taint args.contamination
  nonce := args.nonce
  createdAt := none
  origin := some ((args.contamination.map SessionContamination.origin).getD args.origin)
  resourceRefs := none

def buildEnvelopeFromToolUse (host : Host) (clock : JsString)
    (args : BuildEnvelopeFromToolUseArgs) : Except Thrown IntentEnvelope :=
  buildEnvelope host clock args.input

/-- A read is only ever served under a name that the plan shows. -/
theorem classifyIncomingToolUse_read {toolUse : ToolUseRequest} {plan : PlanSnapshot}
    {name : JsString} {input : JsValue}
    (read : classifyIncomingToolUse toolUse plan = .read name input) :
    name ∈ plan.visibleReadTools ∧ input = toolUse.input := by
  rw [classifyIncomingToolUse] at read
  split at read
  · cases read
  · next found _ =>
      cases read
      exact ⟨List.mem_of_find?_eq_some found, rfl⟩
  · cases read
  · cases read

/-- An intent is only ever minted for a kind that the plan allows. -/
theorem classifyIncomingToolUse_intent {toolUse : ToolUseRequest} {plan : PlanSnapshot}
    {intentKind : JsString} {payload : JsValue}
    (intent : classifyIncomingToolUse toolUse plan = .intent intentKind payload) :
    intentKind ∈ plan.allowedIntents ∧ payload = toolUse.input := by
  rw [classifyIncomingToolUse] at intent
  split at intent
  · cases intent
  · cases intent
  · next found =>
      cases intent
      exact ⟨List.mem_of_find?_eq_some found, rfl⟩
  · cases intent

theorem mergeTaint_untrusted (taint : Taint) : mergeTaint .untrusted taint = .untrusted := by
  cases taint <;> rfl

end Adjudicate.Agent
