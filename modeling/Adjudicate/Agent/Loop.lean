/-
This file models the loop of the agent and its three public calls.
-/

import Adjudicate.Agent.Decisions
import Adjudicate.Agent.ResumeRounds

namespace Adjudicate.Agent

open Js Canonical Adjudicate.Core Audit Adjudicate.Runtime Adjudicate.Effect
open Adjudicate.Kernel (PolicyBundle)
open Adjudicate.Shell (AdjudicateAndAuditResult BudgetGrant ConfirmationReceipt)
open Program (ofExcept tryCatch)

structure SeedDecision where
  decision : Decision
  envelope : IntentEnvelope
  toolUseId : JsString

/-- These are the arguments that every iteration of one turn shares. -/
structure Turn (S C : Type) where
  sessionId : JsString
  state : S
  context : C

structure LoopState where
  history : History
  lastDecision : Option Decision
  contamination : Option SessionContamination

/-- These are the variables of one pass over the tool uses of a turn. -/
structure Pass where
  toolResults : List ToolResultBlock
  pauseAction : Option LoopAction
  lastDecision : Option Decision
  contamination : Option SessionContamination

def Pass.push (pass : Pass) (result : ToolResultBlock) : Pass :=
  { pass with toolResults := pass.toolResults ++ [result] }

def pauseActionToReason : LoopAction → Option AdapterPauseReason
  | .pauseForDefer _ _ => some .deferred
  | .pauseForUserConfirmation _ _ => some .awaitingConfirmation
  | .completeForEscalation _ _ => some .escalated
  | .continue => none

def pauseToOutcome (action : LoopAction) (lastDecision : Option Decision) : AgentOutcome :=
  match action with
  | .continue => .maxIterationsExceeded lastDecision
  | .pauseForUserConfirmation prompt token => .awaitingConfirmation prompt token
  | .pauseForDefer signal intentHash => .deferred signal intentHash
  | .completeForEscalation target reason => .escalated target reason

def LoopAction.pause : LoopAction → Option LoopAction
  | .continue => none
  | action => some action

def notProcessed (toolUseId : JsString) : ToolResultBlock where
  toolUseId := toolUseId
  content := "Not processed: prior tool_use paused this turn."
  isError := true

section

variable {S C : Type} (host : Host) (options : AdjudicatedAgentOptions S)

def onTrace (phase : AdapterTracePhase) (sessionId : JsString) (iteration : Nat)
    (decisionKind : Option DecisionKind) (pauseReason : Option AdapterPauseReason) :
    AgentProgram S C Unit :=
  invoke (.onTrace ⟨phase, sessionId, iteration, decisionKind, pauseReason⟩)

/-- A drifted seal refuses the turn with an empty history. -/
def checkConfigSeal (sessionId : JsString) : AgentProgram S C (Option AgentTurnResult) :=
  match options.configSeal with
  | none => return none
  | some config => do
      match ← invoke .verifyConfigSeal with
      | none => return none
      | some detail =>
          if config.engageKillSwitchOnMismatch then
            invoke (.engageKillSwitch "config_seal_mismatch")
          onTrace .configSealViolation sessionId 0 none none
          return some ⟨Bridge.emptyHistory, .refused "config_seal_mismatch" detail⟩

def resolveContext (turn : Turn S C) : AgentProgram S C C :=
  if options.memory then do
    let memory ← invoke (.readMemory turn.sessionId)
    invoke (.enrichContext turn.context memory)
  else return turn.context

def deriveNonce (sessionId toolUseId : JsString) (payload : JsValue) : AgentProgram S C JsString :=
  if options.deriveNonce then invoke (.deriveNonce sessionId toolUseId payload)
  else return toolUseId

/-- This is `DEFAULT_CAPABILITY_TTL_SECONDS`. -/
def defaultCapabilityTtlSeconds : JsNumber := JsNumber.ofNat 60

/-- Without a stored capability the executor seam stops the execution later. -/
def mintCapability (gate : CapabilityGate) (effective : IntentEnvelope) : AgentProgram S C Unit :=
  tryCatch
    (do
      let capability ← invoke (.mintCapability ⟨effective.intentHash, gate.kernelId⟩)
      let _ ← invoke (.storeCapability effective.nonce capability
        (gate.ttlSeconds.getD defaultCapabilityTtlSeconds))
      return ())
    fun _ => return ()

def mintCapabilityForDecision (gate : CapabilityGate) (decision : Decision)
    (envelope : IntentEnvelope) : AgentProgram S C Unit :=
  match decision with
  | .execute _ => mintCapability gate envelope
  | .rewrite rewritten _ _ => mintCapability gate rewritten
  | _ => return ()

def processSingleDecision (args : TranslationArgs S) : AgentProgram S C DecisionTranslation := do
  match options.capabilityGate with
  | some gate => mintCapabilityForDecision gate args.decision args.envelope
  | none => pure ()
  translateDecision host options args

/-- A resolver that fails or answers for another kind grants nothing. -/
def resolveGrant (intentKind : JsString) : AgentProgram S C (Option BudgetGrant) := do
  let grant ← tryCatch (invoke (.resolveGrant intentKind)) fun _ => return none
  return grant.filter (·.intentKind = intentKind)

/-- Only a burned budget asks the kernel again. -/
def tryBudgetSubstitution (budget : BudgetConfig) (envelope : IntentEnvelope) (state : S)
    (originalAt : JsString) : AgentProgram S C (Option Decision) := do
  match ← resolveGrant envelope.kind with
  | none => return none
  | some grant =>
      if ← runBudgetBurnDown options.rk budget grant then
        let substituted ← cross host .budget envelope state options.policy
          { options.deps with budgetGrant := some { grant with originalAt := some originalAt } }
        return some substituted.decision
      else return none

/-- A budget can only replace a request for confirmation. -/
def effectiveDecision (envelope : IntentEnvelope) (state : S) (first : AdjudicateAndAuditResult) :
    AgentProgram S C Decision :=
  match first.decision, options.budget with
  | .requestConfirmation _ _, some budget => do
      return (← tryBudgetSubstitution host options budget envelope state first.record.at).getD
        first.decision
  | decision, _ => return decision

/-- The folded flag is a new object, so it is always written back, and a failing store leaves it
standing for this turn. -/
def writeBack (sessionId : JsString) (next : Option SessionContamination) :
    AgentProgram S C Unit :=
  match options.persistsContamination, next with
  | true, some flag => tryCatch (invoke (.putContamination sessionId flag)) fun _ => return ()
  | _, _ => return ()

/-- A served read lowers the session. -/
def contaminate (sessionId : JsString) (served : Bool) (flag : Option SessionContamination) :
    AgentProgram S C (Option SessionContamination) :=
  if options.contaminationEnabled && served then do
    let next := contaminateSession flag .retrieved .untrusted
    writeBack options sessionId next
    return next
  else return flag

def processRead (turn : Turn S C) (pass : Pass) (toolUseId name : JsString) (input : JsValue) :
    AgentProgram S C Pass := do
  let nonce ← deriveNonce options turn.sessionId toolUseId input
  let readRouted ←
    routeReadThroughKernel host options toolUseId turn.sessionId name input turn.state nonce
  let contamination ← contaminate options turn.sessionId readRouted.served pass.contamination
  return { pass.push readRouted.toolResult with contamination }

/-- What the model proposes is declared untrusted. -/
def proposalArgs (sessionId intentKind : JsString) (payload : JsValue)
    (contamination : Option SessionContamination) (nonce : JsString) :
    BuildEnvelopeFromToolUseArgs where
  intentKind := intentKind
  payload := payload
  sessionId := sessionId
  taint := mergeTaint .untrusted ((contamination.map SessionContamination.taint).getD .untrusted)
  origin := .llm
  contamination := contamination
  nonce := nonce

def adjudicateProposal (turn : Turn S C) (iteration : Nat) (envelope : IntentEnvelope) :
    AgentProgram S C Decision := do
  let first ← cross host .intent envelope turn.state options.policy options.deps
  let decision ← effectiveDecision host options envelope turn.state first
  onTrace .decisionEmitted turn.sessionId iteration (some decision.kind) none
  return decision

def processIntent (turn : Turn S C) (iteration : Nat) (history : History) (pass : Pass)
    (toolUseId intentKind : JsString) (payload : JsValue) : AgentProgram S C Pass := do
  let nonce ← deriveNonce options turn.sessionId toolUseId payload
  let clock ← invoke .now
  let envelope ← ofExcept (buildEnvelopeFromToolUse host clock
    (proposalArgs turn.sessionId intentKind payload pass.contamination nonce))
  let decision ← adjudicateProposal host options turn iteration envelope
  let single ← processSingleDecision host options
    ⟨decision, envelope, toolUseId, turn.sessionId, turn.state, history⟩
  let results := pass.toolResults ++ single.toolResult.toList
  return { pass with
    toolResults := results
    pauseAction := single.loopAction.pause
    lastDecision := some decision }

/-- A pause leaves the tool uses after it unprocessed. -/
def processToolUse (turn : Turn S C) (iteration : Nat) (history : History) (plan : PlanSnapshot)
    (pass : Pass) (toolUse : ToolUseRequest) : AgentProgram S C Pass :=
  if pass.pauseAction.isSome then return pass.push (notProcessed toolUse.id)
  else
    match classifyIncomingToolUse toolUse plan with
    | .outOfPlan _ => return pass.push (makeOutOfPlanToolResult toolUse.id toolUse.name)
    | .read name input => processRead host options turn pass toolUse.id name input
    | .intent intentKind payload =>
        processIntent host options turn iteration history pass toolUse.id intentKind payload

/-- A batch without results is not appended. -/
def appendResults (history : History) (results : List ToolResultBlock) : History :=
  if results.isEmpty then history else Bridge.appendToolResults history results

/-- The turn of the model is part of the history that its tool uses see. -/
def runIteration (turn : Turn S C) (iteration : Nat) (loop : LoopState) :
    AgentProgram S C (AgentTurnResult ⊕ LoopState) := do
  onTrace .iterationStart turn.sessionId iteration none none
  let effectiveContext ← resolveContext options turn
  let plan ← invoke (.plan turn.state effectiveContext)
  let rendered ← invoke (.render turn.state effectiveContext plan)
  let sent ← invoke (.send loop.history rendered)
  let history := Bridge.appendTurn loop.history sent
  if sent.toolUses.isEmpty then
    onTrace .completed turn.sessionId iteration none none
    return .inl ⟨history, .completed sent.textBlocks.flatten⟩
  let pass ← sent.toolUses.foldlM (processToolUse host options turn iteration history plan)
    ⟨[], none, loop.lastDecision, loop.contamination⟩
  let history := appendResults history pass.toolResults
  match pass.pauseAction with
  | some action =>
      onTrace .paused turn.sessionId iteration (pass.lastDecision.map Decision.kind)
        (pauseActionToReason action)
      return .inl ⟨history, pauseToOutcome action pass.lastDecision⟩
  | none => return .inr ⟨history, pass.lastDecision, pass.contamination⟩

/-- The iterations that remain are counted down. -/
def runIterations (turn : Turn S C) : Nat → LoopState → AgentProgram S C AgentTurnResult
  | 0, loop => do
      onTrace .maxIterationsExceeded turn.sessionId options.iterations
        (loop.lastDecision.map Decision.kind) none
      return ⟨loop.history, .maxIterationsExceeded loop.lastDecision⟩
  | count + 1, loop => do
      match ← runIteration host options turn (options.iterations - count) loop with
      | .inl result => return result
      | .inr loop => runIterations turn count loop

def loadContamination (sessionId : JsString) : AgentProgram S C (Option SessionContamination) :=
  if options.persistsContamination then invoke (.getContamination sessionId) else return none

/-- The result of a seed joins the history before the model is asked again. -/
def spliceSeed (turn : Turn S C) (history : History) (seed : SeedDecision) :
    AgentProgram S C (LoopAction × History) := do
  let single ← processSingleDecision host options
    ⟨seed.decision, seed.envelope, seed.toolUseId, turn.sessionId, turn.state, history⟩
  return (single.loopAction, appendResults history single.toolResult.toList)

def runLoop (turn : Turn S C) (initialHistory : History) (seedDecision : Option SeedDecision) :
    AgentProgram S C AgentTurnResult := do
  match ← checkConfigSeal options turn.sessionId with
  | some refused => return refused
  | none =>
      let contamination ← loadContamination options turn.sessionId
      match seedDecision with
      | none =>
          runIterations host options turn options.iterations ⟨initialHistory, none, contamination⟩
      | some seed =>
          let (loopAction, history) ← spliceSeed host options turn initialHistory seed
          match loopAction.pause with
          | some action => return ⟨history, pauseToOutcome action (some seed.decision)⟩
          | none =>
              runIterations host options turn options.iterations
                ⟨history, some seed.decision, contamination⟩

def send (input : SendInput S C) : AgentProgram S C AgentTurnResult :=
  runLoop host options ⟨input.sessionId, input.state, input.context⟩
    (Bridge.appendUserMessage (input.history.getD Bridge.emptyHistory) input.userMessage) none

def resumeRefusalText : ResumeRefusal → JsString
  | .noParkedEnvelope => "no_parked_envelope"
  | .malformedEnvelope => "malformed_envelope"
  | .signalMismatch => "signal_mismatch"
  | .parkBlobTampered => "park_blob_tampered"
  | .parkBlobUnverifiable => "park_blob_unverifiable"
  | .cycleCapExceeded => "cycle_cap_exceeded"
  | .duplicateResumeSuppressed => "duplicate_resume_suppressed"

def noParkedError (args : ResumeArgs S C) (reason : JsString) : Thrown :=
  adapterError (utf16 "No parked envelope for session \"" ++ args.sessionId ++
    utf16 "\" and signal \"" ++ args.signal ++ utf16 "\" (reason: " ++ reason ++ utf16 ")")

def resumeCall (args : ResumeArgs S C) : Runtime.Call :=
  .resume
    { signal := args.signal
      maxResumeCycles := none
      verifyHash := some (options.verifyParkedHash.getD .strict)
      incr := options.deferStore.incr
      decr := options.deferStore.decr }

/-- The parked intent is claimed for this call alone. -/
def claimParked (args : ResumeArgs S C) : AgentProgram S C (Held Unit) := do
  match ← complete args.sessionId (resumeCall options args) with
  | .resumed held => return held
  | .unresumed reason => .throw (noParkedError args (resumeRefusalText reason))
  | _ => .throw (noParkedError args "unknown")

def deferSupersession (held : Held Unit) : Supersession where
  predecessorIntentHash := held.intentHash
  predecessorAt := textOf (held.parked.getOwn "parkedAt")
  reason := .deferResumed
  token := none
  binding := none

/-- A system envelope takes the place of the parked one. -/
def adjudicateResumed (args : ResumeArgs S C) (held : Held Unit) :
    AgentProgram S C SeedDecision := do
  let clock ← invoke .now
  let envelope ← ofExcept (resumedEnvelope host clock held.parked)
  let _ ← invoke (.plan args.state args.context)
  let adjudicated ← cross host .resume envelope args.state options.policy
    { options.deps with supersedes := some (deferSupersession held) }
  return ⟨adjudicated.decision, envelope, utf16 "resume-" ++ held.intentHash.take 8⟩

/-- A failing store leaves the flag standing. -/
def clearContamination (sessionId : JsString) : AgentProgram S C Unit :=
  if options.persistsContamination then
    tryCatch (invoke (.clearContamination sessionId)) fun _ => return ()
  else return ()

def resume (args : ResumeArgs S C) : AgentProgram S C AgentTurnResult := do
  match ← checkConfigSeal options args.sessionId with
  | some refused => return refused
  | none =>
      let held ← claimParked options args
      let seed ← adjudicateResumed host options args held
      clearContamination options args.sessionId
      runLoop host options ⟨args.sessionId, args.state, args.context⟩
        (args.history.getD Bridge.emptyHistory) (some seed)

def invalidToken (token : JsString) (rest : String) : Thrown :=
  adapterError (utf16 "Confirmation token \"" ++ token ++ utf16 rest)

/-- The token is single-use. -/
def takePending (args : ConfirmArgs S C) : AgentProgram S C PendingConfirmation := do
  match ← invoke (.takeConfirmation args.confirmationToken) with
  | some pending => return pending
  | none => .throw (invalidToken args.confirmationToken "\" is unknown or expired.")

def verifyPending (args : ConfirmArgs S C) (pending : PendingConfirmation) :
    Except Thrown Unit :=
  if options.verifyParkedHash.getD .strict = .off then .ok ()
  else do
    if !(← confirmRederives host pending.envelope.toJs) then
      throw (invalidToken args.confirmationToken
        "\" failed hash verification (envelope was modified after persistence).")

def declinedText : JsString := "User declined the confirmation. Action skipped."

def confirmationReceipt (args : ConfirmArgs S C) (pending : PendingConfirmation)
    (instant : JsString) : ConfirmationReceipt where
  intentHash := pending.envelope.intentHash
  «at» := instant
  originalAt := none
  token := some args.confirmationToken
  binding := args.binding

def adjudicateConfirmed (args : ConfirmArgs S C) (pending : PendingConfirmation) :
    AgentProgram S C SeedDecision := do
  let _ ← invoke (.plan args.state args.context)
  let instant ← invoke .now
  let adjudicated ← cross host .confirm pending.envelope args.state options.policy
    { options.deps with confirmationReceipt := some (confirmationReceipt args pending instant) }
  return ⟨adjudicated.decision, pending.envelope, pending.toolUseId⟩

def confirm (args : ConfirmArgs S C) : AgentProgram S C AgentTurnResult := do
  let pending ← takePending args
  match ← checkConfigSeal options pending.sessionId with
  | some refused => return refused
  | none =>
      ofExcept (verifyPending host options args pending)
      if !args.accepted then
        return ⟨pending.assistantHistorySnapshot, .completed declinedText⟩
      let seed ← adjudicateConfirmed host options args pending
      runLoop host options ⟨pending.sessionId, args.state, args.context⟩
        pending.assistantHistorySnapshot (some seed)

/-- One public call of the agent. -/
inductive PublicCall (S C : Type) where
  | send (input : SendInput S C)
  | resume (args : ResumeArgs S C)
  | confirm (args : ConfirmArgs S C)

def PublicCall.program : PublicCall S C → AgentProgram S C AgentTurnResult
  | .send input => Agent.send host options input
  | .resume args => Agent.resume host options args
  | .confirm args => Agent.confirm host options args

end

end Adjudicate.Agent
