/-
This file models the pure decision core with its evaluation trace.
-/

import Adjudicate.Kernel.Policy

namespace Adjudicate.Kernel

open Js Canonical Adjudicate.Core

inductive TracePhase where
  | kill
  | schema
  | state
  | taint
  | auth
  | business
  | default
deriving DecidableEq

def TracePhase.text : TracePhase → JsString
  | .kill => "kill"
  | .schema => "schema"
  | .state => "state"
  | .taint => "taint"
  | .auth => "auth"
  | .business => "business"
  | .default => "default"

inductive TraceOutcome where
  | pass
  | match
deriving DecidableEq

structure AdjudicationTraceEntry where
  phase : TracePhase
  index : Option Nat
  guardName : Option JsString
  outcome : TraceOutcome
deriving DecidableEq

structure AdjudicationTraceResult where
  decision : Decision
  trace : List AdjudicationTraceEntry

/-- An active kill switch overrides every policy. -/
structure KillSwitchState where
  active : Bool
  reason : JsString
  toggledAt : JsString

/-- The trace is an optional accumulator; without one a push does nothing. -/
def push (traceOut : Option (List AdjudicationTraceEntry)) (entry : AdjudicationTraceEntry) :
    Option (List AdjudicationTraceEntry) :=
  traceOut.map (· ++ [entry])

def phaseEntry (phase : TracePhase) (outcome : TraceOutcome) : AdjudicationTraceEntry :=
  { phase, index := none, guardName := none, outcome }

def traceEntry {S : Type} (phase : TracePhase) (index : Nat) (guard : Guard S)
    (outcome : TraceOutcome) : AdjudicationTraceEntry :=
  { phase, index := some index, guardName := guard.name, outcome }

def makePassBasis : TracePhase → List DecisionBasis
  | .state => [basis .state BasisCodes.transitionValid none]
  | .auth => [basis .auth BasisCodes.scopeSufficient none]
  | .taint => [basis .taint BasisCodes.levelPermitted none]
  | .business => [basis .business BasisCodes.ruleSatisfied none]
  | _ => []

/-- Reading the text of a thrown value throws for an unprintable one. -/
def thrownText : Thrown → Except Thrown (JsString × JsString)
  | .error name message => .ok (name, message)
  | .other text => .ok ("Error", text)
  | .unprintable raised => .error raised

/-- A thrown value becomes a security refusal. -/
def guardPanicRefusal (phase : TracePhase) (guardIndex : Option Nat) (guardName : Option JsString)
    (err : Thrown) (accumulated : List DecisionBasis) : Except Thrown Decision := do
  let (errorName, message) ← thrownText err
  return .refuse
    (refuse .security "guard_panic" "System is temporarily unavailable."
      (some (utf16 "Guard panic in " ++ phase.text ++ utf16 " phase" ++
        (match guardIndex with
          | some index => utf16 "[" ++ digitsText index ++ utf16 "]"
          | none => []) ++
        (match guardName with
          | some name => utf16 " (" ++ name ++ utf16 ")"
          | none => []) ++
        utf16 ": " ++ errorName ++ utf16 ": " ++ message)))
    (accumulated ++ [basis .kernel BasisCodes.guardPanic
      (some ([(utf16 "phase", JsValue.str phase.text)] ++
        optionalProp "index" (guardIndex.map fun index => .num (JsNumber.ofNat index)) ++
        optionalProp "guardName" (guardName.map .str) ++
        [(utf16 "errorName", JsValue.str errorName), (utf16 "message", .str message)]))])

/-- A rewrite must carry its own content hash and may not raise the taint. -/
def gateRewrite (host : Host) (decision : Decision) (envelope : IntentEnvelope) :
    Except Thrown Decision :=
  match decision with
  | .rewrite rewritten _ _ =>
      match deriveIntentHash host rewritten with
      | .error err => guardPanicRefusal .schema none none err []
      | .ok derived =>
          if derived ≠ rewritten.intentHash then
            .ok (.refuse
              (refuse .security "intent_hash_mismatch"
                "This action cannot be processed at the moment."
                (some "decision.rewritten.intentHash does not match the canonical content hash"))
              [basis .schema BasisCodes.intentHashMismatch
                (some [("subject", .str "rewritten")])])
          else if taintRank rewritten.taint > taintRank envelope.taint then
            .ok (.refuse
              (refuse .security "taint_level_insufficient"
                "I can't perform this action with the information available."
                (some (utf16 "Rewrite would elevate taint " ++ envelope.taint.text ++
                  utf16 " -> " ++ rewritten.taint.text)))
              [basis .taint BasisCodes.propagationViolation
                (some [("original", .str envelope.taint.text),
                  ("rewritten", .str rewritten.taint.text)])])
          else .ok decision
  | _ => .ok decision

/-- The passed bases come before the basis of the guard's own decision. -/
def enrichBasis (decision : Decision) (passed : List DecisionBasis) : Decision :=
  let merged := passed ++ decision.basis
  match decision with
  | .execute _ => .execute merged
  | .refuse refusal _ => .refuse refusal merged
  | .escalate target reason _ => .escalate target reason merged
  | .requestConfirmation prompt _ => .requestConfirmation prompt merged
  | .defer signal timeoutMs _ => .defer signal timeoutMs merged
  | .rewrite rewritten reason _ => .rewrite rewritten reason merged

/-- A phase either answers with a decision or continues with more passed bases. -/
inductive Outcome where
  | answered (decision : Decision) (traceOut : Option (List AdjudicationTraceEntry))
  | continues (accumulated : List DecisionBasis) (traceOut : Option (List AdjudicationTraceEntry))

/-- The next phase runs only when the earlier one has not answered. -/
def andThen (outcome : Except Thrown Outcome)
    (next : List DecisionBasis → Option (List AdjudicationTraceEntry) → Except Thrown Outcome) :
    Except Thrown Outcome := do
  match ← outcome with
  | .answered decision traceOut => return .answered decision traceOut
  | .continues accumulated traceOut => next accumulated traceOut

def killRefusal (kill : KillSwitchState) : Decision :=
  .refuse
    (refuse .security "kill_switch_active" "System is temporarily unavailable."
      (some (utf16 "Kill switch active: " ++ kill.reason ++ utf16 " (toggled at " ++
        kill.toggledAt ++ utf16 ")")))
    [basis .kill BasisCodes.killActive
      (some [("reason", .str kill.reason), ("toggledAt", .str kill.toggledAt)])]

def versionRefusal (envelope : IntentEnvelope) : Decision :=
  .refuse
    (refuse .security "schema_version_unsupported"
      "This action cannot be processed at the moment."
      (some (utf16 "Unknown envelope version: " ++ envelope.version.toString)))
    [basis .schema BasisCodes.versionUnsupported
      (some [("seen", .num envelope.version), ("supported", .num intentEnvelopeVersion)])]

def hashMismatchRefusal (accumulated : List DecisionBasis) : Decision :=
  .refuse
    (refuse .security "intent_hash_mismatch" "This action cannot be processed at the moment."
      (some "envelope.intentHash does not match the canonical content hash"))
    (accumulated ++ [basis .schema BasisCodes.intentHashMismatch none])

/-- The refusal names the origin when propagation caused it. -/
def taintRefusal (envelope : IntentEnvelope) (rankAllowed : Bool)
    (accumulated : List DecisionBasis) : Decision :=
  let originBranchFired := rankAllowed
  let propagationCaused := originBranchFired || isContaminatingOrigin envelope.origin
  .refuse
    (refuse .security "taint_level_insufficient"
      "I can't perform this action with the information available."
      (some (if originBranchFired then
          utf16 "Origin-required intent kind " ++ envelope.kind ++
            utf16 " refused: proposal traces to contaminating origin " ++ envelope.origin.text
        else if propagationCaused then
          utf16 "Contaminated proposal (origin " ++ envelope.origin.text ++
            utf16 ") lowered taint " ++ envelope.taint.text ++
            utf16 " below the minimum for intent kind " ++ envelope.kind
        else
          utf16 "Taint " ++ envelope.taint.text ++ utf16 " insufficient for intent kind " ++
            envelope.kind)))
    (accumulated ++ [basis .taint
      (if propagationCaused then BasisCodes.propagationViolation else BasisCodes.levelInsufficient)
      (some ([(utf16 "actual", JsValue.str envelope.taint.text),
          (utf16 "kind", .str envelope.kind)] ++
        optionalProp "origin" (if propagationCaused then some (.str envelope.origin.text) else none) ++
        optionalProp "branch" (if originBranchFired then some "origin_required" else none)))])

section

variable {S : Type} (host : Host) (envelope : IntentEnvelope) (state : S)

def killStep (kill : KillSwitchState) (traceOut : Option (List AdjudicationTraceEntry)) :
    Except Thrown Outcome :=
  if kill.active then
    .ok (.answered (killRefusal kill) (push traceOut (phaseEntry .kill .match)))
  else .ok (.continues [] (push traceOut (phaseEntry .kill .pass)))

def versionStep (accumulated : List DecisionBasis)
    (traceOut : Option (List AdjudicationTraceEntry)) : Except Thrown Outcome :=
  if envelope.version ≠ intentEnvelopeVersion then
    .ok (.answered (versionRefusal envelope) (push traceOut (phaseEntry .schema .match)))
  else
    .ok (.continues (accumulated ++ [basis .schema BasisCodes.versionSupported none])
      (push traceOut (phaseEntry .schema .pass)))

/-- The hash check records its match although the version check has recorded its pass. -/
def hashStep (accumulated : List DecisionBasis)
    (traceOut : Option (List AdjudicationTraceEntry)) : Except Thrown Outcome :=
  match deriveIntentHash host envelope with
  | .error err => do
      let decision ← guardPanicRefusal .schema none none err accumulated
      return .answered decision (push traceOut (phaseEntry .schema .match))
  | .ok derivedHash =>
      if derivedHash ≠ envelope.intentHash then
        .ok (.answered (hashMismatchRefusal accumulated)
          (push traceOut (phaseEntry .schema .match)))
      else .ok (.continues accumulated traceOut)

/-- This is what the kernel returns when the guard at the index throws or answers. -/
def guardAnswer (phase : TracePhase) (index : Nat) (guard : Guard S)
    (accumulated : List DecisionBasis) : Except Thrown (Option Decision) :=
  match guard.run envelope state with
  | .error err => do
      return some (← guardPanicRefusal phase (some index) guard.name err accumulated)
  | .ok (some decision) => do
      return some (enrichBasis (← gateRewrite host decision envelope) accumulated)
  | .ok none => .ok none

/-- The three guard lists run through the same loop. -/
def guardsLoop (phase : TracePhase) (accumulated : List DecisionBasis) :
    List (Guard S) → Nat → Option (List AdjudicationTraceEntry) → Except Thrown Outcome
  | [], _, traceOut => .ok (.continues (accumulated ++ makePassBasis phase) traceOut)
  | guard :: guards, index, traceOut => do
      match ← guardAnswer host envelope state phase index guard accumulated with
      | some decision =>
          return .answered decision (push traceOut (traceEntry phase index guard .match))
      | none =>
          guardsLoop phase accumulated guards (index + 1)
            (push traceOut (traceEntry phase index guard .pass))

def taintGate (policy : TaintPolicy) : Except Thrown (Bool × Bool) := do
  let rankAllowed ← canPropose envelope.taint envelope.kind policy
  let taintAllowed ← canProposeWithOrigin envelope.taint envelope.kind envelope.origin policy
  return (rankAllowed, taintAllowed)

def taintStep (policy : TaintPolicy) (accumulated : List DecisionBasis)
    (traceOut : Option (List AdjudicationTraceEntry)) : Except Thrown Outcome :=
  match taintGate envelope policy with
  | .error err => do
      let decision ← guardPanicRefusal .taint none none err accumulated
      return .answered decision (push traceOut (phaseEntry .taint .match))
  | .ok (rankAllowed, taintAllowed) =>
      if !taintAllowed then
        .ok (.answered (taintRefusal envelope rankAllowed accumulated)
          (push traceOut (phaseEntry .taint .match)))
      else
        .ok (.continues (accumulated ++ makePassBasis .taint)
          (push traceOut (phaseEntry .taint .pass)))

def defaultDecision (policyDefault : PolicyDefault) (accumulated : List DecisionBasis) : Decision :=
  match policyDefault with
  | .execute => .execute accumulated
  | .refuse =>
      .refuse (refuse .businessRule "default_deny" "This action is not permitted right now." none)
        accumulated

/-- This is `_adjudicateImpl`: every phase runs in its fixed order until one answers. -/
def adjudicateImpl (kill : KillSwitchState) (policy : PolicyBundle S)
    (traceOut : Option (List AdjudicationTraceEntry)) :
    Except Thrown (Decision × Option (List AdjudicationTraceEntry)) := do
  let phases :=
    andThen (andThen (andThen (andThen (andThen (andThen (killStep kill traceOut)
      (versionStep envelope))
      (hashStep host envelope))
      fun accumulated => guardsLoop host envelope state .state accumulated policy.stateGuards 0)
      (taintStep envelope policy.taint))
      fun accumulated => guardsLoop host envelope state .auth accumulated policy.authGuards 0)
      fun accumulated => guardsLoop host envelope state .business accumulated policy.business 0
  match ← phases with
  | .answered decision traceOut => return (decision, traceOut)
  | .continues accumulated traceOut =>
      return (defaultDecision policy.default accumulated,
        push traceOut (phaseEntry .default .match))

/-- The hot path passes no trace. -/
def adjudicate (kill : KillSwitchState) (policy : PolicyBundle S) : Except Thrown Decision := do
  let (decision, _) ← adjudicateImpl host envelope state kill policy none
  return decision

def adjudicateWithTrace (kill : KillSwitchState) (policy : PolicyBundle S) :
    Except Thrown AdjudicationTraceResult := do
  let (decision, trace) ← adjudicateImpl host envelope state kill policy (some [])
  return { decision, trace := trace.getD [] }

end

end Adjudicate.Kernel
