/-
This file models how the agent turns decisions and read tools into tool results.
-/

import Adjudicate.Agent.Dependencies
import Adjudicate.Shell.AdjudicateAndAudit

namespace Adjudicate.Agent

open Js Canonical Adjudicate.Core Audit Adjudicate.Runtime Adjudicate.Effect
open Adjudicate.Kernel (PolicyBundle)
open Adjudicate.Shell (AdjudicateAndAuditDeps AdjudicateAndAuditResult BudgetGrant adjudicateAndAudit)
open Program (ofExcept tryCatch)

inductive LoopAction where
  | «continue»
  | pauseForUserConfirmation (prompt token : JsString)
  | pauseForDefer (signal intentHash : JsString)
  | completeForEscalation (target : EscalationTarget) (reason : JsString)

structure DecisionTranslation where
  toolResult : Option ToolResultBlock
  loopAction : LoopAction

/-- A thrown value that is no `Error` has no message of its own. -/
def errorMessage (otherwise : JsString) : Thrown → JsString
  | .error _ message => message
  | _ => otherwise

def successText (result : JsValue) (note : Option JsString) : JsString :=
  (JsValue.obj ([(utf16 "ok", JsValue.bool true), (utf16 "result", result)] ++
    optionalProp "note" (note.map .str))).stringify.getD []

section

variable {S C : Type}

def failed (toolUseId content : JsString) : DecisionTranslation where
  toolResult := some ⟨toolUseId, content, true⟩
  loopAction := .continue

def answered (toolUseId content : JsString) (loopAction : LoopAction) : DecisionTranslation where
  toolResult := some ⟨toolUseId, content, false⟩
  loopAction := loopAction

/-- The process-wide switch is read by the kernel of this crossing. -/
def cross (host : Host) (source : Crossing) (envelope : IntentEnvelope) (state : S)
    (policy : PolicyBundle S) (deps : AdjudicateAndAuditDeps) :
    AgentProgram S C AdjudicateAndAuditResult := do
  let kill ← invoke .killSwitch
  let call : Shell.Call S := ⟨envelope, state, policy, kill, deps⟩
  (adjudicateAndAudit host call).lift (.crossing source call)

/-- A client without the atomic primitive and a failing one never grant. -/
def runBudgetBurnDown (rk : JsString → JsString) (store : BudgetConfig) (grant : BudgetGrant) :
    AgentProgram S C Bool :=
  if store.evalIncrCheck then
    let counterKey := rk (utf16 "budget:" ++ grant.budgetId ++ utf16 ":" ++ grant.intentKind)
    tryCatch
      (do
        let result ← invoke (.evalIncrCheck counterKey grant.windowSeconds grant.limit)
        return !result.equals 0)
      fun _ => return false
  else return false

/-- The call goes on when one of these commands fails. -/
def ignoredFailure : Runtime.Call → Phase Unit → Option (Phase Unit)
  | .park args, .refusing count => some (.refused (JsNumber.ofInt count) args.quota)
  | .resume args, .clearing held => some (if args.decr then .releasing held else .resumed held)
  | .resume _, .releasing held => some (.resumed held)
  | _, _ => none

def sendCommand (sessionId : JsString) (call : Runtime.Call) (phase : Phase Unit) :
    AgentProgram S C (Phase Unit) :=
  tryCatch (invoke (.redis sessionId call phase)) fun err =>
    match ignoredFailure call phase with
    | some later => return later
    | none => .throw err

def isOver : Phase Unit → Bool
  | .refused _ _ => true
  | .parked _ => true
  | .resumed _ => true
  | .unresumed _ => true
  | .threw _ => true
  | _ => false

def sendCommands (sessionId : JsString) (call : Runtime.Call) :
    Nat → Phase Unit → AgentProgram S C (Phase Unit)
  | 0, phase => return phase
  | count + 1, phase =>
      if isOver phase then return phase
      else do sendCommands sessionId call count (← sendCommand sessionId call phase)

/-- A park call sends at most two commands and a resume call at most five. -/
def complete (sessionId : JsString) (call : Runtime.Call) : AgentProgram S C (Phase Unit) := do
  match ← sendCommands sessionId call 5 .start with
  | .threw raised => .throw raised
  | phase => return phase

/-- The burned capability has to be signed and bound to this envelope. -/
def redeemCapability (effectiveEnvelope : IntentEnvelope) : AgentProgram S C Bool := do
  match ← tryCatch (invoke (.burnCapability effectiveEnvelope.nonce)) fun _ => return none with
  | none => return false
  | some burned =>
      if ← invoke (.verifyCapability burned) then
        return timingSafeHexEqual (.str burned.intentHash) (.str effectiveEnvelope.intentHash)
      else return false

variable (host : Host) (options : AdjudicatedAgentOptions S)

/-- These are the arguments that each decision of the agent is translated with. -/
structure TranslationArgs (S : Type) where
  decision : Decision
  envelope : IntentEnvelope
  toolUseId : JsString
  sessionId : JsString
  state : S
  historySnapshot : History

/-- The executor only gets an envelope that passed the binding check and the capability gate. -/
def invokeBound (args : TranslationArgs S) (effectiveEnvelope : IntentEnvelope)
    (rewriteReason : Option JsString) : AgentProgram S C DecisionTranslation :=
  tryCatch
    (do
      let executorResult ← invoke (.invokeIntent effectiveEnvelope args.state)
      let note := rewriteReason.map (utf16 "Note: kernel rewrote your proposal — " ++ ·)
      return answered args.toolUseId (successText executorResult note) .continue)
    fun err =>
      let message := errorMessage "executor threw a non-Error value" err
      return failed args.toolUseId (utf16 "Executor failed: " ++ message)

def runExecute (args : TranslationArgs S) (effectiveEnvelope : IntentEnvelope)
    (rewriteReason : Option JsString) : AgentProgram S C DecisionTranslation := do
  if options.bindingPolicy ≠ .off && verifyResourceBinding host effectiveEnvelope ≠ .bound then
    return failed args.toolUseId
      (if rewriteReason.isSome then "Rewritten action could not be verified and was not executed."
      else "Action could not be verified (resource binding mismatch) and was not executed.")
  if options.capabilityGate.isSome then
    if !(← redeemCapability effectiveEnvelope) then
      return failed args.toolUseId
        "Action could not be authorized (capability gate) and was not executed."
  invokeBound args effectiveEnvelope rewriteReason

def requestConfirmation (args : TranslationArgs S) (prompt : JsString) :
    AgentProgram S C DecisionTranslation := do
  let token ← invoke .generateToken
  invoke (.putConfirmation token
    { envelope := args.envelope
      sessionId := args.sessionId
      assistantHistorySnapshot := args.historySnapshot
      toolUseId := args.toolUseId
      prompt := prompt })
  return answered args.toolUseId (utf16 "Confirmation required: " ++ prompt)
    (.pauseForUserConfirmation prompt token)

/-- Only the quota keeps a deferred intent from being parked. -/
def deferIntent (args : TranslationArgs S) (signal : JsString) (timeoutMs : JsNumber) :
    AgentProgram S C DecisionTranslation := do
  let parkedAt ← invoke .now
  let call : Runtime.Call := .park
    { envelope := deferredEnvelope args.envelope
      signal := signal
      parkedAt := parkedAt
      quotaPerSession := none
      transformEnvelopeBeforePark := none
      evalIncrCheck := options.deferStore.evalIncrCheck }
  match ← complete args.envelope.actor.sessionId call with
  | .refused observed limit =>
      return failed args.toolUseId
        (utf16 "This action could not be queued (per-session quota exceeded; " ++
          observed.toString ++ utf16 "/" ++ limit.toString ++ utf16 ").")
  | _ =>
      return answered args.toolUseId
        (utf16 "Action queued. Waiting for signal \"" ++ signal ++ utf16 "\" (timeout " ++
          timeoutMs.toString ++ utf16 "ms).")
        (.pauseForDefer signal args.envelope.intentHash)

/-- A rewrite runs the rewritten envelope. -/
def translateDecision (args : TranslationArgs S) : AgentProgram S C DecisionTranslation :=
  match args.decision with
  | .execute _ => runExecute host options args args.envelope none
  | .rewrite rewritten reason _ => runExecute host options args rewritten (some reason)
  | .refuse refusal _ => return failed args.toolUseId refusal.userFacing
  | .requestConfirmation prompt _ => requestConfirmation args prompt
  | .escalate target reason _ =>
      return answered args.toolUseId
        (utf16 "Escalated to " ++ target.text ++ utf16 ": " ++ reason)
        (.completeForEscalation target reason)
  | .defer signal timeoutMs _ => deferIntent options args signal timeoutMs

def makeOutOfPlanToolResult (toolUseId toolName : JsString) : ToolResultBlock where
  toolUseId := toolUseId
  content := utf16 "Tool \"" ++ toolName ++ utf16 "\" is not available in the current plan."
  isError := true

/-- A visible read that passes the taint gate is authorized. -/
def readAuthorizationPolicy (taint : TaintPolicy) : PolicyBundle S where
  stateGuards := []
  authGuards := []
  taint := taint
  business := []
  default := .execute

structure ReadRouted where
  toolResult : ToolResultBlock
  served : Bool

def unserved (toolUseId content : JsString) : ReadRouted where
  toolResult := ⟨toolUseId, content, true⟩
  served := false

/-- The executor only serves a read that the kernel lets execute. -/
def serveRead (toolUseId name : JsString) (input : JsValue) (state : S) :
    AgentProgram S C ReadRouted :=
  tryCatch
    (do
      let readResult ← invoke (.invokeRead name input state)
      return { toolResult := ⟨toolUseId, successText readResult none, false⟩, served := true })
    fun err =>
      return unserved toolUseId (utf16 "Tool failed: " ++ errorMessage "executor read failed" err)

def routeReadThroughKernel (toolUseId sessionId name : JsString) (input : JsValue) (state : S)
    (nonce : JsString) : AgentProgram S C ReadRouted := do
  let clock ← invoke .now
  let envelope ← ofExcept (buildEnvelopeFromToolUse host clock
    { intentKind := name
      payload := input
      sessionId := sessionId
      taint := .untrusted
      origin := .llm
      contamination := none
      nonce := nonce })
  let adjudicated ← cross host .read envelope state (readAuthorizationPolicy options.policy.taint)
    options.deps
  match adjudicated.decision with
  | .execute _ => serveRead toolUseId name input state
  | .refuse refusal _ => return unserved toolUseId refusal.userFacing
  | other =>
      return unserved toolUseId (utf16 "Read not authorized (" ++ other.kind.text ++ utf16 ").")

end

end Adjudicate.Agent
