/-
This file models the orchestrator that turns signals into adjudicated remediations.
-/

import Adjudicate.Adjutant.ProposalStore
import Adjudicate.Agent.StoredEnvelope
import Adjudicate.Approval.Governance
import Adjudicate.Effect.Precondition
import Adjudicate.IncidentResponse.Policies
import Adjudicate.Shell.AdjudicateAndAudit

namespace Adjudicate.Adjutant

open Js Canonical Adjudicate.Core Audit Adjudicate.Effect Adjudicate.IncidentResponse
open Adjudicate.Agent (ResourceBindingResult verifyResourceBinding)
open Adjudicate.Approval (ApprovalRequest ApprovalStatus Identity)
open Adjudicate.Kernel (KillSwitchState)
open Adjudicate.Shell (AdjudicateAndAuditDeps AdjudicateAndAuditResult ConfirmationBinding
  ConfirmationReceipt LedgerPort adjudicateAndAudit)
open Program (ofExcept)

structure RemediationSignal where
  incidentId : JsString
  action : JsString
  blastRadius : JsNumber
  disposition : RemediationDisposition
  reason : Option JsString
  nonce : JsString
  «at» : Option JsString

/-- A confirmation, an escalation or a park is left to wait for. -/
inductive PendingAction where
  | review (prompt : JsString)
  | escalation (reason : JsString)
  | defer (signal : JsString) (timeoutMs : JsNumber)

structure RemediationOutcome where
  disposition : RemediationDisposition
  decisions : List Decision
  records : List AuditRecord
  executedEnvelope : Option IntentEnvelope
  executed : Bool
  executorResult : JsValue
  pending : Option PendingAction

structure ResolveArgs where
  token : JsString
  accepted : Bool
  «by» : Option Identity
  «at» : JsString

structure RemediationResolution where
  resolved : Bool
  accepted : Bool
  executed : Bool
  decision : Option Decision
  executorResult : JsValue
  request : Option ApprovalRequest

abbrev Proposal := RemediationProposal IntentEnvelope JsString

/-- These are the effects of the orchestrator, and a crossing performs those of the kernel. -/
inductive Op where
  | now
  | killSwitch
  | getState
  | crossing (call : Shell.Call IncidentState) (op : Shell.Op)
  | invokeIntent (envelope : IntentEnvelope) (state : IncidentState)
  | generateToken
  | putApproval (request : ApprovalRequest) (ttlSeconds : JsNumber)
  | putProposal (proposal : Proposal)
  | getByToken (token : JsString)
  | markProposal (proposalId : JsString) (status : RemediationProposalStatus) (instant : JsString)
  | markApproval (token : JsString) (status : ApprovalStatus) (resolvedBy : Option Identity)
      (instant : JsString)

abbrev Op.Response : Op → Type
  | now => JsString
  | killSwitch => KillSwitchState
  | getState => IncidentState
  | crossing _ op => op.Response
  | invokeIntent _ _ => JsValue
  | generateToken => JsString
  | getByToken _ => Option Proposal
  | markApproval _ _ _ _ => Option ApprovalRequest
  | _ => Unit

/-- Every dependency may throw or reject. -/
abbrev RemediationProgram (A : Type) := Program Op Op.Response Thrown A

abbrev invoke (op : Op) : RemediationProgram op.Response := Program.perform op

abbrev RemediationEvent := Event Op Op.Response Thrown

/-- A flag says that the optional dependency of its name is wired. -/
structure RemediationOrchestratorOptions where
  ledger : Option LedgerPort
  actor : Option IntentActor
  maxPasses : Option Int
  approvalRegistry : Bool
  proposalStore : Bool

def defaultMaxPasses : Int := 4

def approvalTtlSeconds : JsNumber := 86400

def adjutantChannel : JsString := "adjutant"

def RemediationOrchestratorOptions.passes (options : RemediationOrchestratorOptions) : Nat :=
  (max 1 (options.maxPasses.getD defaultMaxPasses)).toNat

/-- Beside the sink the orchestrator hands the kernel its ledger alone. -/
def RemediationOrchestratorOptions.deps (options : RemediationOrchestratorOptions) :
    AdjudicateAndAuditDeps where
  metadataProvider := false
  signer := none
  ledger := options.ledger
  resolveResourceVersion := false
  plan := false
  context := none
  policyVersion := none
  kernelVersion := none
  aggregateSnapshot := none
  rateLimitRollback := false
  confirmationReceipt := none
  budgetGrant := none
  supersedes := none

def bindingError (derived stored : JsString) : Thrown :=
  .error "Error" (utf16 "[adjutant] resource-binding mismatch — refusing to execute (intentHash " ++
    stored ++ utf16 " does not re-derive from the envelope content; derived " ++
    (if derived = [] then utf16 "<uncanonicalizable>" else derived) ++
    utf16 "). Anti-IDOR fence (023).")

/-- What passed the adapter in some other way is bound here again. -/
def assertResourceBound (host : Host) (envelope : IntentEnvelope) : Except Thrown Unit :=
  match verifyResourceBinding host envelope with
  | .bound => .ok ()
  | .unbound derived stored => .error (bindingError derived stored)

def escalationPayload (signal : RemediationSignal) : JsValue :=
  .obj [("incidentId", .str signal.incidentId),
    ("reason", .str (signal.reason.getD "manual escalation requested"))]

def remediationPayload (signal : RemediationSignal) : JsValue :=
  .obj [("incidentId", .str signal.incidentId), ("action", .str signal.action),
    ("blastRadius", .num signal.blastRadius)]

def mintActor (options : RemediationOrchestratorOptions) (signal : RemediationSignal) : IntentActor :=
  options.actor.getD
    { principal := if signal.disposition = .safe then .llm else .user
      sessionId := signal.incidentId
      role := none
      attestation := none }

/-- A model proposes what is safe, and an operator everything else. -/
def mintInput (options : RemediationOrchestratorOptions) (signal : RemediationSignal) :
    BuildEnvelopeInput where
  kind := if signal.disposition = .manual then escalationKind else remediationKind
  payload :=
    if signal.disposition = .manual then escalationPayload signal else remediationPayload signal
  actor := mintActor options signal
  taint := if signal.disposition = .safe then .untrusted else .trusted
  nonce := signal.nonce
  createdAt := none
  origin := none
  resourceRefs := none

def mintEnvelope (host : Host) (clock : JsString) (options : RemediationOrchestratorOptions)
    (signal : RemediationSignal) : Except Thrown IntentEnvelope :=
  buildEnvelope host clock (mintInput options signal)

section

variable (host : Host) (options : RemediationOrchestratorOptions)

/-- The clamp keeps the time of its envelope, so no guard of the pack reads the clock. -/
def policyOf : Kernel.PolicyBundle IncidentState := incidentPolicyBundle host []

/-- The process-wide switch is read by the kernel of this crossing. -/
def cross (envelope : IntentEnvelope) (state : IncidentState) (deps : AdjudicateAndAuditDeps) :
    RemediationProgram AdjudicateAndAuditResult := do
  let kill ← invoke .killSwitch
  let call : Shell.Call IncidentState := ⟨envelope, state, policyOf host, kill, deps⟩
  (adjudicateAndAudit host call).lift (.crossing call)

/-- The executor only gets an envelope whose hash covers what it carries. -/
def invokeBound (envelope : IntentEnvelope) (state : IncidentState) : RemediationProgram JsValue := do
  ofExcept (assertResourceBound host envelope)
  invoke (.invokeIntent envelope state)

/-- This is what the passes of one signal have come to. -/
structure Passed where
  envelope : IntentEnvelope
  decisions : List Decision
  records : List AuditRecord
  executedEnvelope : Option IntentEnvelope
  executed : Bool
  executorResult : JsValue
  pending : Option PendingAction

/-- A rewrite asks for another pass, and every other decision ends them. -/
def runPasses (state : IncidentState) : Nat → Passed → RemediationProgram Passed
  | 0, passed => return passed
  | count + 1, passed => do
      let result ← cross host passed.envelope state options.deps
      let seen : Passed :=
        { passed with
          decisions := passed.decisions ++ [result.decision]
          records := passed.records ++ [result.record] }
      match result.decision with
      | .rewrite rewritten _ _ => runPasses state count { seen with envelope := rewritten }
      | .execute _ => do
          let executorResult ← invokeBound host passed.envelope state
          return { seen with executed := true, executedEnvelope := some passed.envelope, executorResult }
      | .requestConfirmation prompt _ => return { seen with pending := some (.review prompt) }
      | .escalate _ reason _ => return { seen with pending := some (.escalation reason) }
      | .defer signal timeoutMs _ => return { seen with pending := some (.defer signal timeoutMs) }
      | .refuse _ _ => return seen

def approvalRequest (signal : RemediationSignal) (token prompt : JsString)
    (finalEnvelope : IntentEnvelope) : ApprovalRequest where
  token := token
  sessionId := signal.incidentId
  intentHash := finalEnvelope.intentHash
  intentKind := finalEnvelope.kind
  prompt := prompt
  taint := finalEnvelope.taint
  channel := adjutantChannel
  requestedBy := some ⟨finalEnvelope.actor.sessionId, some finalEnvelope.actor.principal.text⟩
  status := .pending
  resolvedAt := none
  resolvedBy := none
  approvals := none

/-- Only a review that waits for an approval registers a token. -/
def proposalStatus (signal : RemediationSignal) (finalEnvelope : IntentEnvelope)
    (finalDecisionKind : Option DecisionKind) (executed : Bool) (pending : Option PendingAction) :
    RemediationProgram (RemediationProposalStatus × Option JsString) :=
  if executed then return (.executed, none)
  else
    match pending with
    | some (.review prompt) =>
        if options.approvalRegistry then do
          let approvalToken ← invoke .generateToken
          invoke (.putApproval (approvalRequest signal approvalToken prompt finalEnvelope)
            approvalTtlSeconds)
          return (.pendingReview, some approvalToken)
        else return (.pendingReview, none)
    | some (.escalation _) => return (.pendingEscalation, none)
    | some (.defer _ _) => return (.deferred, none)
    | none => return (if finalDecisionKind = some .defer then .deferred else .refused, none)

/-- The proposal carries its envelope only while it awaits a resolution. -/
def recordProposal (signal : RemediationSignal) (finalEnvelope : IntentEnvelope)
    (finalDecisionKind : Option DecisionKind) (executed : Bool) (pending : Option PendingAction) :
    RemediationProgram Unit :=
  match signal.at with
  | none => return ()
  | some instant =>
      if options.proposalStore then do
        let (status, approvalToken) ←
          proposalStatus options signal finalEnvelope finalDecisionKind executed pending
        invoke (.putProposal
          { proposalId := signal.nonce
            incidentId := signal.incidentId
            action := signal.action
            blastRadius := signal.blastRadius
            disposition := signal.disposition
            status := status
            approvalToken := approvalToken
            intentHash := some finalEnvelope.intentHash
            envelope := if status = .pendingReview then some finalEnvelope else none
            createdAt := instant
            updatedAt := instant })
      else return ()

def handle (signal : RemediationSignal) : RemediationProgram RemediationOutcome := do
  let state ← invoke .getState
  let clock ← invoke .now
  let envelope ← ofExcept (mintEnvelope host clock options signal)
  let passed ← runPasses host options state options.passes
    ⟨envelope, [], [], none, false, .undefined, none⟩
  recordProposal options signal (passed.executedEnvelope.getD passed.envelope)
    (passed.decisions.getLast?.map Decision.kind) passed.executed passed.pending
  return {
    disposition := signal.disposition
    decisions := passed.decisions
    records := passed.records
    executedEnvelope := passed.executedEnvelope
    executed := passed.executed
    executorResult := passed.executorResult
    pending := passed.pending }

/-- The approver is bound when there is one, and the channel is recorded only. -/
def resolveBinding (args : ResolveArgs) : ConfirmationBinding where
  capability := none
  approver := args.by.map fun approver => ⟨approver.id, none⟩
  channel := some ⟨adjutantChannel, none⟩

def resolveReceipt (args : ResolveArgs) (envelope : IntentEnvelope) : ConfirmationReceipt where
  intentHash := envelope.intentHash
  «at» := args.at
  originalAt := none
  token := some args.token
  binding := some (resolveBinding args)

/-- The kernel sees the stored envelope again with a receipt for it. -/
def readjudicateProposal (args : ResolveArgs) (envelope : IntentEnvelope) :
    RemediationProgram (Decision × Bool × JsValue) := do
  let state ← invoke .getState
  let deps := { options.deps with confirmationReceipt := some (resolveReceipt args envelope) }
  let result ← cross host envelope state deps
  match result.decision with
  | .execute _ => return (result.decision, true, ← invokeBound host envelope state)
  | _ => return (result.decision, false, .undefined)

def resolvedStatus (accepted executed : Bool) : RemediationProposalStatus :=
  if !accepted then .declined else if executed then .executed else .refused

/-- The read models are updated after the executor ran. -/
def settleProposal (args : ResolveArgs) (proposalId : JsString) (decision : Option Decision)
    (executed : Bool) (executorResult : JsValue) : RemediationProgram RemediationResolution := do
  invoke (.markProposal proposalId (resolvedStatus args.accepted executed) args.at)
  let request ←
    if options.approvalRegistry then
      invoke (.markApproval args.token (if args.accepted then .approved else .declined) args.by args.at)
    else pure none
  return { resolved := true, accepted := args.accepted, executed, decision, executorResult, request }

def unresolved (args : ResolveArgs) : RemediationResolution where
  resolved := false
  accepted := args.accepted
  executed := false
  decision := none
  executorResult := .undefined
  request := none

/-- The envelope of a proposal that still awaits its resolution. -/
def awaiting (proposal : Option Proposal) : Option (JsString × IntentEnvelope) := do
  let proposal ← proposal
  let envelope ← proposal.envelope
  if proposal.status = .pendingReview then some (proposal.proposalId, envelope) else none

def lookUp (token : JsString) : RemediationProgram (Option Proposal) :=
  if options.proposalStore then invoke (.getByToken token) else return none

def resolve (args : ResolveArgs) : RemediationProgram RemediationResolution := do
  match awaiting (← lookUp options args.token) with
  | none => return unresolved args
  | some (proposalId, envelope) =>
      if args.accepted then do
        let (decision, executed, executorResult) ← readjudicateProposal host options args envelope
        settleProposal options args proposalId (some decision) executed executorResult
      else settleProposal options args proposalId none false .undefined

end

end Adjudicate.Adjutant
