/-
This file models the guards of the PIX payments pack.
-/

import Adjudicate.Primitives.GuardFactories
import Adjudicate.Primitives.RewriteGuards

namespace Adjudicate.PaymentsPix

open Js Canonical Adjudicate.Core Adjudicate.Kernel Adjudicate.Primitives
open Adjudicate.Audit (readProp)

inductive PixChargeStatus where
  | pending
  | confirmed
  | refunded
  | expired
  | failed
deriving DecidableEq

def PixChargeStatus.text : PixChargeStatus → JsString
  | .pending => "pending"
  | .confirmed => "confirmed"
  | .refunded => "refunded"
  | .expired => "expired"
  | .failed => "failed"

structure PixCharge where
  amountCentavos : JsNumber
  status : PixChargeStatus

/-- The charges are keyed by their ids. -/
structure PixState where
  charges : Props PixCharge
  authority : Option InjectedAuthority

/-- A key that is no string finds nothing. -/
def PixState.chargeOf (state : PixState) (chargeId : JsValue) : Option PixCharge :=
  match chargeId with
  | .str id => state.charges.lookup id
  | _ => none

def escalateRefundThresholdCentavos : JsNumber := 100000

def confirmRefundThresholdCentavos : JsNumber := 50000

def pixConfirmationSignal : JsString := "payment.confirmed"

def pixDefaultDeferTimeoutMs : JsNumber := 900000

def refuseChargeNotFound (chargeId : JsValue) : Except Thrown Refusal := do
  return refuse .state "pix.charge.not_found" "We couldn't find a PIX charge with that ID."
    (some (utf16 "chargeId=" ++ (← chargeId.toText)))

def refuseChargeAlreadyRefunded (chargeId : JsValue) : Except Thrown Refusal := do
  return refuse .state "pix.charge.already_refunded" "That PIX charge has already been refunded."
    (some (utf16 "chargeId=" ++ (← chargeId.toText)))

def refuseChargeNotConfirmed (chargeId : JsValue) (status : PixChargeStatus) :
    Except Thrown Refusal := do
  return refuse .state "pix.charge.not_confirmed"
    "That PIX charge isn't in the right state for this action."
    (some (utf16 "chargeId=" ++ (← chargeId.toText) ++ utf16 " status=" ++ status.text))

def refuseInvalidStateForConfirm (chargeId : JsValue) (status : PixChargeStatus) :
    Except Thrown Refusal := do
  return refuse .state "pix.charge.invalid_state_for_confirm"
    "That PIX charge can't be confirmed in its current state."
    (some (utf16 "chargeId=" ++ (← chargeId.toText) ++ utf16 " status=" ++ status.text))

def refuseInvalidAmount (amount : JsValue) : Except Thrown Refusal := do
  return refuse .businessRule "pix.charge.amount_invalid"
    "The charge amount must be a positive integer in centavos."
    (some (utf16 "amount=" ++ (← amount.toText)))

def escalateFailedConfirm : Guard PixState :=
  constant "escalateFailedConfirm" fun envelope state => do
    if envelope.kind ≠ utf16 "pix.charge.confirm" then return none
    let chargeId ← readProp envelope.payload "chargeId"
    match state.chargeOf chargeId with
    | some ⟨_, .failed⟩ =>
        return some (.escalate .human
          (utf16 "Confirm event arrived for charge " ++ (← chargeId.toText) ++
            utf16 " marked as failed; manual review required.")
          [basis .state "terminal_state" (some [("reason", "confirm_on_failed_charge"),
            ("chargeId", chargeId), ("status", .str PixChargeStatus.failed.text)])])
    | _ => return none

def validateConfirmTarget : Guard PixState :=
  constant "validateConfirmTarget" fun envelope state => do
    if envelope.kind ≠ utf16 "pix.charge.confirm" then return none
    let chargeId ← readProp envelope.payload "chargeId"
    match state.chargeOf chargeId with
    | none =>
        return some (.refuse (← refuseChargeNotFound chargeId)
          [basis .state "transition_illegal"
            (some [("kind", .str envelope.kind), ("chargeId", chargeId)])])
    | some charge =>
        if charge.status ≠ .pending then
          return some (.refuse (← refuseInvalidStateForConfirm chargeId charge.status)
            [basis .state "transition_illegal"
              (some [("kind", .str envelope.kind), ("chargeId", chargeId),
                ("status", .str charge.status.text)])])
        return none

def validateRefundTarget : Guard PixState :=
  constant "validateRefundTarget" fun envelope state => do
    if envelope.kind ≠ utf16 "pix.charge.refund" then return none
    let chargeId ← readProp envelope.payload "chargeId"
    match state.chargeOf chargeId with
    | none =>
        return some (.refuse (← refuseChargeNotFound chargeId)
          [basis .state "transition_illegal"
            (some [("kind", .str envelope.kind), ("chargeId", chargeId)])])
    | some charge =>
        if charge.status = .refunded then
          return some (.refuse (← refuseChargeAlreadyRefunded chargeId)
            [basis .state "terminal_state"
              (some [("kind", .str envelope.kind), ("chargeId", chargeId)])])
        if charge.status ≠ .confirmed then
          return some (.refuse (← refuseChargeNotConfirmed chargeId charge.status)
            [basis .state "transition_illegal"
              (some [("kind", .str envelope.kind), ("chargeId", chargeId),
                ("status", .str charge.status.text)])])
        return none

def isPositiveInteger : JsValue → Bool
  | .num number => isInteger number && !number.atMost 0
  | _ => false

def validateChargeAmount : Guard PixState :=
  constant "validateChargeAmount" fun envelope _ => do
    if envelope.kind ≠ utf16 "pix.charge.create" then return none
    let amountCentavos ← readProp envelope.payload "amountCentavos"
    if !isPositiveInteger amountCentavos then
      return some (.refuse (← refuseInvalidAmount amountCentavos)
        [basis .business "rule_violated"
          (some [("rule", "positive_integer_centavos"), ("seen", amountCentavos)])])
    return none

/-- The comparison converts whatever the payload holds to a number. -/
def clampRefundToOriginal (host : Host) (clock : JsString) : Guard PixState :=
  constant "clampRefundToOriginal" fun envelope state => do
    if envelope.kind ≠ utf16 "pix.charge.refund" then return none
    let chargeId ← readProp envelope.payload "chargeId"
    match state.chargeOf chargeId with
    | none => return none
    | some charge =>
        let refundCentavos ← readProp envelope.payload "refundCentavos"
        if (← refundCentavos.toNumber).atMost charge.amountCentavos then return none
        let rewritten ← remint host clock envelope
          (withField envelope.payload "refundCentavos" (.num charge.amountCentavos))
        return some (.rewrite rewritten "Refund clamped to original charge amount."
          [basis .business "quantity_capped"
            (some [("chargeId", chargeId), ("requested", refundCentavos),
              ("cappedTo", .num charge.amountCentavos)])])

/-- Both threshold guards on refunds differ in the threshold and in what they ask for. -/
def refundThreshold (threshold : JsNumber) (onCross : JsValue → JsNumber → Except Thrown Decision) :
    ThresholdGuardOptions PixState where
  applies envelope _ := .ok (envelope.kind = utf16 "pix.charge.refund")
  extract envelope _ := readProp envelope.payload "refundCentavos"
  threshold := threshold
  comparator := .atLeast
  onCross := fun requested threshold _ _ => onCross requested threshold

def escalateLargeRefunds : Guard PixState :=
  { createThresholdGuard (refundThreshold escalateRefundThresholdCentavos
      fun requested threshold => do
        return .escalate .supervisor
          (utf16 "Refund of " ++ (← requested.toText) ++
            utf16 " centavos exceeds the supervisor threshold.")
          [basis .business "rule_satisfied"
            (some [("rule", "supervisor_threshold_reached"), ("threshold", .num threshold),
              ("requested", requested)])]) with
    metadataName := some "escalateLargeRefunds" }

def requestConfirmForMediumRefund : Guard PixState :=
  { createThresholdGuard (refundThreshold confirmRefundThresholdCentavos
      fun requested threshold => do
        return .requestConfirmation
          (utf16 "You're about to refund R$ " ++
            ((← requested.toNumber).div 100).toFixed 2 ++ utf16 ". Confirm?")
          [basis .business "rule_satisfied"
            (some [("rule", "confirm_threshold_reached"), ("threshold", .num threshold),
              ("requested", requested)])]) with
    metadataName := some "requestConfirmForMediumRefund" }

def deferChargeCreate : Guard PixState :=
  { createStateDeferGuard
      { applies := fun envelope _ => .ok (envelope.kind = utf16 "pix.charge.create")
        signal := pixConfirmationSignal
        timeoutMs := pixDefaultDeferTimeoutMs
        basis := [basis .state "transition_valid"
          (some [("reason", "awaiting_provider_confirmation"),
            ("waitFor", .str pixConfirmationSignal)])] } with
    metadataName := some "deferChargeCreate" }

def executeConfirmedCharge : Guard PixState :=
  constant "executeConfirmedCharge" fun envelope state => do
    if envelope.kind ≠ utf16 "pix.charge.confirm" then return none
    let chargeId ← readProp envelope.payload "chargeId"
    match state.chargeOf chargeId with
    | some ⟨_, .pending⟩ =>
        return some (.execute [basis .business "rule_satisfied"
          (some [("kind", .str envelope.kind), ("chargeId", chargeId)])])
    | _ => return none

def agentSessionNamespace : JsString := "agent:"

def isAgentSession (envelope : IntentEnvelope) : Bool :=
  agentSessionNamespace.isPrefixOf envelope.actor.sessionId

def confirmAgentRefund : Guard PixState :=
  constant "confirmAgentRefund" fun envelope _ => do
    if envelope.kind ≠ utf16 "pix.charge.refund" then return none
    if !isAgentSession envelope then return none
    return some (.requestConfirmation
      "Reembolso proposto por agente — confirmação humana obrigatória."
      [basis .business "rule_satisfied"
        (some [("rule", "agent_refund_confirm"), ("sessionId", .str envelope.actor.sessionId)])])

def executeValidRefund : Guard PixState :=
  constant "executeValidRefund" fun envelope state => do
    if envelope.kind ≠ utf16 "pix.charge.refund" then return none
    let chargeId ← readProp envelope.payload "chargeId"
    let refundCentavos ← readProp envelope.payload "refundCentavos"
    match state.chargeOf chargeId with
    | some ⟨_, .confirmed⟩ =>
        return some (.execute [basis .business "rule_satisfied"
          (some [("kind", .str envelope.kind), ("chargeId", chargeId),
            ("refundCentavos", refundCentavos)])])
    | _ => return none

def pixAuthorityGatedKinds : List JsString := ["pix.charge.create", "pix.charge.refund"]

def enforceResourceOwnership : Guard PixState :=
  createInjectedAuthorityGuard PixState.authority pixAuthorityGatedKinds

def pixTaintPolicy : TaintPolicy := createSystemTaintPolicy ["pix.charge.confirm"]

def pixPolicyBundle (host : Host) (clock : JsString) : PolicyBundle PixState where
  stateGuards := [escalateFailedConfirm, validateConfirmTarget, validateRefundTarget]
  authGuards := [enforceResourceOwnership]
  taint := pixTaintPolicy
  business := [validateChargeAmount, clampRefundToOriginal host clock, confirmAgentRefund,
    escalateLargeRefunds, requestConfirmForMediumRefund, deferChargeCreate, executeConfirmedCharge,
    executeValidRefund]
  default := .refuse

end Adjudicate.PaymentsPix
