/-
This file models the resolution of approval requests by the approval engine.
-/

import Adjudicate.Approval.Governance
import Adjudicate.Effect.Program
import Adjudicate.Shell.Dependencies

namespace Adjudicate.Approval

open Js Adjudicate.Core Adjudicate.Effect
open Adjudicate.Shell (ConfirmationBinding ConfirmationBindingField)
open Program (ofExcept tryCatch)

inductive ApprovalErrorCode where
  | unknownToken
  | alreadyResolved
  | confirmRejected
  | attestationInvalid
  | quorumVoterRequired
  | selfApprovalForbidden
  | channelFailed
deriving DecidableEq

/-- A resolution throws an `ApprovalError` or what a dependency throws. -/
inductive ApprovalThrown where
  | approvalError (code : ApprovalErrorCode) (message : JsString)
  | other (raised : Thrown)
deriving DecidableEq

/-- This is `err instanceof Error ? err.message : String(err)`. -/
def errText : ApprovalThrown → Except ApprovalThrown JsString
  | .approvalError _ message => .ok message
  | .other (.error _ message) => .ok message
  | .other (.other text) => .ok text
  | .other (.unprintable raised) => .error (.other raised)

/-- The agent receives the state and the context that were fetched for it. -/
structure ConfirmInput where
  confirmationToken : JsString
  accepted : Bool
  state : JsValue
  context : JsValue
  binding : Option ConfirmationBinding

structure Resolution where
  status : ApprovalStatus
  resolvedBy : Option Identity

inductive Op where
  | get (token : JsString)
  | put (request : ApprovalRequest)
  | markResolved (token : JsString) (status : ApprovalStatus) (resolvedBy : Option Identity)
  | now
  | verifyAttestation (claim : AttestationClaim)
  | resolveStateContext (sessionId : JsString)
  | confirm (input : ConfirmInput)
  | notifyResolved (request : ApprovalRequest) (resolution : Resolution)

/-- A turn of the agent is passed through unread. -/
abbrev Op.Response : Op → Type
  | get _ => Option ApprovalRequest
  | markResolved _ _ _ => Option ApprovalRequest
  | now => JsString
  | verifyAttestation _ => Bool
  | resolveStateContext _ => JsValue × JsValue
  | confirm _ => JsValue
  | _ => Unit

abbrev EngineProgram (A : Type) := Program Op Op.Response ApprovalThrown A

abbrev invoke (op : Op) : EngineProgram (Op.Response op) := Program.perform op

abbrev EngineEvent := Event Op Op.Response ApprovalThrown

/-- The verifier and the channels are effects; these are the other options of the engine. -/
structure ApprovalEngineOptions where
  quorum : Option QuorumPolicy
  attestationVerifier : Bool
  enforceSeparationOfDuty : Bool
  agentIdentity : Option JsString
  notifies : JsString → Bool

structure ResolveInput where
  token : JsString
  accepted : Bool
  claimed : Option Identity
  attestation : Option Attestation
  channel : Option JsString

section Resolve

variable (opts : ApprovalEngineOptions) (input : ResolveInput)

def approvalText (rest : String) : JsString :=
  utf16 "approval " ++ input.token ++ utf16 rest

/-- A display name comes from the claim and only counts when it is not empty. -/
def shownName : Option JsString := (input.claimed.bind (·.displayName)).filter (· ≠ [])

/-- A missing attestation fails without a call of the verifier. -/
def attestationGate (existing : ApprovalRequest) : EngineProgram Unit := do
  if opts.attestationVerifier then
    let ok ← match input.attestation with
      | none => pure false
      | some att => invoke (.verifyAttestation
          ⟨att.approverId, input.token, input.accepted, existing.intentHash, att.signature⟩)
    if !ok then
      .throw (.approvalError .attestationInvalid
        (approvalText input ": missing or invalid attestation"))

/-- The attested identity wins only when attestation is enforced. -/
def approverId : Option JsString :=
  if opts.attestationVerifier then
    match input.attestation with
    | some att => some att.approverId
    | none => input.claimed.map (·.id)
  else input.claimed.map (·.id)

/-- The approver of an accepted resolution must be known to differ from the proposer. -/
def separationOfDuty (existing : ApprovalRequest) : Except ApprovalThrown Unit :=
  let forbidden (message : JsString) : Except ApprovalThrown Unit :=
    .error (.approvalError .selfApprovalForbidden message)
  if opts.enforceSeparationOfDuty && input.accepted then
    match approverId opts input, existing.requestedBy with
    | none, _ => forbidden (approvalText input
        ": separation-of-duty requires an identified approver distinct from the proposer")
    | some _, none => forbidden (approvalText input
        ": separation-of-duty requires a recorded proposer (requestedBy) to compare against the approver")
    | some id, some proposer =>
        if id = proposer.id then
          forbidden (approvalText input ": the proposer (" ++ proposer.id ++
            utf16 ") cannot approve their own request")
        else if opts.agentIdentity = some id then
          forbidden (approvalText input ": the agent identity (" ++ id ++
            utf16 ") cannot approve its own proposal")
        else .ok ()
  else .ok ()

/-- The voter is the attested identity whether or not it was verified. -/
def voter : Option Identity :=
  match input.attestation with
  | some att => some ⟨att.approverId, shownName input⟩
  | none => input.claimed

/-- A repeated voter adds no vote while only distinct ones count. -/
def accumulate (policy : QuorumPolicy) (existing : ApprovalRequest) (voter : Identity) :
    EngineProgram (List Vote) := do
  let prior := existing.approvals.getD []
  if policy.distinct && prior.any (·.id == voter.id) then return prior
  return prior ++ [⟨voter.id, ← invoke .now, voter.displayName.filter (· ≠ [])⟩]

/-- A vote below the quorum gives the request that is still pending. -/
def castVote (policy : QuorumPolicy) (existing : ApprovalRequest) :
    EngineProgram (Option ApprovalRequest) := do
  match voter input with
  | none => .throw (.approvalError .quorumVoterRequired
      (approvalText input ": quorum requires an identified approver"))
  | some voter =>
      if voter.id = [] then
        .throw (.approvalError .quorumVoterRequired
          (approvalText input ": quorum requires an identified approver"))
      else
        let approvals ← accumulate policy existing voter
        let updated := { existing with approvals := some approvals }
        invoke (.put updated)
        if quorumMet (some approvals) policy (existing.requestedBy.map (·.id)) then return none
        return some updated

/-- This is the identity that is recorded and bound. -/
def effectiveBy : Option Identity :=
  match opts.attestationVerifier, input.attestation with
  | true, some att => some ⟨att.approverId, shownName input⟩
  | _, attestation => input.claimed.or (attestation.map fun att => ⟨att.approverId, none⟩)

/-- Only an accepted resolution binds its approver and both of its channels. -/
def confirmationBinding (existing : ApprovalRequest) : Option ConfirmationBinding :=
  if input.accepted then
    some {
      capability := none
      approver := (effectiveBy opts input).map fun approver => ⟨approver.id, none⟩
      channel := some ⟨input.channel.getD existing.channel, some existing.channel⟩ }
  else none

def resolvedStatus : ApprovalStatus := if input.accepted then .approved else .declined

/-- A rejected confirmation closes the projection under the claimed identity. -/
def confirmRejected (err : ApprovalThrown) : EngineProgram JsValue := do
  let _ ← invoke (.markResolved input.token .expired input.claimed)
  let message ← ofExcept (errText err)
  .throw (.approvalError .confirmRejected message)

/-- The agent decides, and only then the projection and the channel learn about it. -/
def settle (existing : ApprovalRequest) :
    EngineProgram (Option ApprovalRequest × Option JsValue) := do
  let (state, context) ← invoke (.resolveStateContext existing.sessionId)
  let turn ← tryCatch
    (invoke (.confirm ⟨input.token, input.accepted, state, context,
      confirmationBinding opts input existing⟩))
    (confirmRejected input)
  let request ← invoke (.markResolved input.token (resolvedStatus input) (effectiveBy opts input))
  if opts.notifies existing.channel then
    invoke (.notifyResolved existing ⟨resolvedStatus input, effectiveBy opts input⟩)
  return (request, some turn)

/-- Only an accepted resolution under a quorum has to wait for other votes. -/
def countAndSettle (existing : ApprovalRequest) :
    EngineProgram (Option ApprovalRequest × Option JsValue) := do
  match opts.quorum, input.accepted with
  | some policy, true =>
      match ← castVote input policy existing with
      | some updated => return (some updated, none)
      | none => settle opts input existing
  | _, _ => settle opts input existing

/-- This is the body of `resolve`, which the token lock runs for one resolution at a time. -/
def resolve : EngineProgram (Option ApprovalRequest × Option JsValue) := do
  match ← invoke (.get input.token) with
  | none => .throw (.approvalError .unknownToken (utf16 "unknown approval token " ++ input.token))
  | some existing =>
      if existing.status ≠ .pending then
        .throw (.approvalError .alreadyResolved
          (utf16 "approval " ++ input.token ++ utf16 " already " ++ existing.status.text))
      else
        attestationGate opts input existing
        ofExcept (separationOfDuty opts input existing)
        countAndSettle opts input existing

end Resolve

end Adjudicate.Approval
