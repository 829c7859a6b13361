/-
This file models the options and the injected dependencies of the adjudicated agent.
-/

import Adjudicate.Agent.Bridge
import Adjudicate.Agent.StoredEnvelope
import Adjudicate.Effect.Precondition
import Adjudicate.Runtime.DeferSession
import Adjudicate.Shell.Dependencies

namespace Adjudicate.Agent

open Js Canonical Adjudicate.Core Audit Adjudicate.Runtime Adjudicate.Effect
open Adjudicate.Kernel (PolicyBundle KillSwitchState)
open Adjudicate.Shell (AdjudicateAndAuditDeps BudgetGrant ConfirmationBinding LedgerPort RuntimeContext)

structure ToolResultBlock where
  toolUseId : JsString
  content : JsString
  isError : Bool
deriving DecidableEq

structure AssistantTurn where
  textBlocks : List JsString
  toolUses : List ToolUseRequest

/-- The bridge appends one entry for a user message, a turn of the model or a batch of results. -/
inductive HistoryEntry where
  | user (text : JsString)
  | assistant (turn : AssistantTurn)
  | toolResults (results : List ToolResultBlock)

abbrev History := List HistoryEntry

namespace Bridge

def emptyHistory : History := []

def appendUserMessage (history : History) (text : JsString) : History := history ++ [.user text]

def appendToolResults (history : History) (results : List ToolResultBlock) : History :=
  history ++ [.toolResults results]

/-- This is the history that `send` gives back beside the turn. -/
def appendTurn (history : History) (turn : AssistantTurn) : History := history ++ [.assistant turn]

end Bridge

structure RenderedPrompt where
  systemPrompt : JsString
  maxTokens : JsNumber
  toolSchemas : List JsValue

structure PendingConfirmation where
  envelope : IntentEnvelope
  sessionId : JsString
  assistantHistorySnapshot : History
  toolUseId : JsString
  prompt : JsString

structure CapabilitySignature where
  keyId : JsString
  alg : JsString
  value : JsString
deriving DecidableEq

structure UnsignedCapability where
  intentHash : JsString
  kernelId : JsString
deriving DecidableEq

structure Capability extends UnsignedCapability where
  signature : CapabilitySignature
deriving DecidableEq

inductive AdapterTracePhase where
  | iterationStart
  | decisionEmitted
  | paused
  | completed
  | maxIterationsExceeded
  | configSealViolation
deriving DecidableEq

inductive AdapterPauseReason where
  | deferred
  | awaitingConfirmation
  | escalated
deriving DecidableEq

structure AdapterTraceEvent where
  phase : AdapterTracePhase
  sessionId : JsString
  iteration : Nat
  decisionKind : Option DecisionKind
  pauseReason : Option AdapterPauseReason
deriving DecidableEq

/-- This names the place of the agent from which a proposal crosses the kernel. -/
inductive Crossing where
  | read
  | intent
  | budget
  | resume
  | confirm
deriving DecidableEq

/-- A verified seal is answered with nothing, a drifted one with the detail of its errors. A Redis
command belongs to the park or resume call that sends it. -/
inductive Op (S C : Type) where
  | now
  | killSwitch
  | verifyConfigSeal
  | engageKillSwitch (reason : JsString)
  | onTrace (event : AdapterTraceEvent)
  | readMemory (sessionId : JsString)
  | enrichContext (base : C) (memory : JsValue)
  | plan (state : S) (context : C)
  | render (state : S) (context : C) (plan : PlanSnapshot)
  | send (history : History) (request : RenderedPrompt)
  | deriveNonce (sessionId toolUseId : JsString) (payload : JsValue)
  | crossing (source : Crossing) (call : Shell.Call S) (op : Shell.Op)
  | invokeRead (name : JsString) (input : JsValue) (state : S)
  | invokeIntent (envelope : IntentEnvelope) (state : S)
  | generateToken
  | putConfirmation (token : JsString) (pending : PendingConfirmation)
  | takeConfirmation (token : JsString)
  | redis (sessionId : JsString) (call : Runtime.Call) (phase : Phase Unit)
  | getContamination (sessionId : JsString)
  | putContamination (sessionId : JsString) (flag : SessionContamination)
  | clearContamination (sessionId : JsString)
  | mintCapability (body : UnsignedCapability)
  | storeCapability (nonce : JsString) (capability : Capability) (ttlSeconds : JsNumber)
  | burnCapability (nonce : JsString)
  | verifyCapability (capability : Capability)
  | resolveGrant (intentKind : JsString)
  | evalIncrCheck (counterKey : JsString) (ttlSeconds max : JsNumber)

abbrev Op.Response {S C : Type} : Op S C → Type
  | now => JsString
  | killSwitch => KillSwitchState
  | verifyConfigSeal => Option JsString
  | readMemory _ => JsValue
  | enrichContext _ _ => C
  | plan _ _ => PlanSnapshot
  | render _ _ _ => RenderedPrompt
  | send _ _ => AssistantTurn
  | deriveNonce _ _ _ => JsString
  | crossing _ _ op => op.Response
  | invokeRead _ _ _ => JsValue
  | invokeIntent _ _ => JsValue
  | generateToken => JsString
  | takeConfirmation _ => Option PendingConfirmation
  | redis _ _ _ => Phase Unit
  | getContamination _ => Option SessionContamination
  | mintCapability _ => Capability
  | storeCapability _ _ _ => Bool
  | burnCapability _ => Option Capability
  | verifyCapability _ => Bool
  | resolveGrant _ => Option BudgetGrant
  | evalIncrCheck _ _ _ => JsNumber
  | _ => Unit

/-- Every dependency may throw or reject. -/
abbrev AgentProgram (S C A : Type) := Program (Op S C) Op.Response Thrown A

abbrev invoke {S C : Type} (op : Op S C) : AgentProgram S C op.Response := Program.perform op

abbrev AgentEvent (S C : Type) := Event (Op S C) Op.Response Thrown

inductive ResourceBindingPolicy where
  | strict
  | warn
  | off
deriving DecidableEq

structure AgentConfigSealOptions where
  engageKillSwitchOnMismatch : Bool

structure CapabilityGate where
  kernelId : JsString
  ttlSeconds : Option JsNumber

/-- A client may lack the atomic primitive. -/
structure BudgetConfig where
  evalIncrCheck : Bool

structure DeferStore where
  evalIncrCheck : Bool
  incr : Bool
  decr : Bool

/-- A flag says that the optional operations of its name are supplied. -/
structure AdjudicatedAgentOptions (S : Type) where
  policy : PolicyBundle S
  ledger : Option LedgerPort
  runtimeContext : RuntimeContext
  deferStore : DeferStore
  maxIterations : Option Nat
  rk : JsString → JsString
  deriveNonce : Bool
  memory : Bool
  configSeal : Option AgentConfigSealOptions
  verifyParkedHash : Option VerifyHash
  resourceBindingPolicy : Option ResourceBindingPolicy
  capabilityGate : Option CapabilityGate
  budget : Option BudgetConfig
  contaminationEnabled : Bool
  contaminationStore : Bool

namespace AdjudicatedAgentOptions

variable {S : Type} (options : AdjudicatedAgentOptions S)

def iterations : Nat := options.maxIterations.getD 8

def bindingPolicy : ResourceBindingPolicy := options.resourceBindingPolicy.getD .strict

/-- The store is only consulted when contamination is enabled. -/
def persistsContamination : Bool := options.contaminationEnabled && options.contaminationStore

/-- Every crossing of the agent shares these dependencies. -/
def deps : AdjudicateAndAuditDeps where
  metadataProvider := false
  signer := none
  ledger := options.ledger
  resolveResourceVersion := false
  plan := true
  context := some options.runtimeContext
  policyVersion := none
  kernelVersion := none
  aggregateSnapshot := none
  rateLimitRollback := false
  confirmationReceipt := none
  budgetGrant := none
  supersedes := none

end AdjudicatedAgentOptions

/-- A later call may carry the history that an earlier one returned. -/
structure SendInput (S C : Type) where
  sessionId : JsString
  userMessage : JsString
  state : S
  context : C
  history : Option History

structure ResumeArgs (S C : Type) where
  sessionId : JsString
  signal : JsString
  state : S
  context : C
  history : Option History

structure ConfirmArgs (S C : Type) where
  confirmationToken : JsString
  accepted : Bool
  state : S
  context : C
  binding : Option ConfirmationBinding

inductive AgentOutcome where
  | completed (assistantText : JsString)
  | deferred (signal intentHash : JsString)
  | awaitingConfirmation (prompt confirmationToken : JsString)
  | escalated (target : EscalationTarget) (reason : JsString)
  | maxIterationsExceeded (lastDecision : Option Decision)
  | refused (reason detail : JsString)

structure AgentTurnResult where
  history : History
  outcome : AgentOutcome

/-- The code and the details of an `AdapterError` are further properties beside its message. -/
def adapterError (message : JsString) : Thrown := .error "AdapterError" message

end Adjudicate.Agent
