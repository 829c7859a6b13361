/-
This file shows when an executing refund moves an amount that the charge and the limits allow.
-/

import Adjudicate.Kernel.ListedGuards
import Adjudicate.PaymentsPix.Policies

namespace Adjudicate.PaymentsPix

open Js Canonical Adjudicate.Core Adjudicate.Kernel Adjudicate.Primitives Adjudicate.Shell
open Adjudicate.Audit (readProp)
open Adjudicate.Effect

/-- This is the amount that the payload asks for. -/
def refundOf (envelope : IntentEnvelope) : JsValue := envelope.payload.getOwn "refundCentavos"

def chargeIdOf (envelope : IntentEnvelope) : JsValue := envelope.payload.getOwn "chargeId"

theorem chargeOf_eq_some {state : PixState} {chargeId : JsValue} {charge : PixCharge} :
    state.chargeOf chargeId = some charge ↔
      ∃ id, chargeId = .str id ∧ state.charges.lookup id = some charge := by
  cases chargeId with
  | str id =>
      constructor
      · exact fun found => ⟨id, rfl, found⟩
      · rintro ⟨_, ⟨⟩, found⟩
        exact found
  | _ => exact iff_of_false nofun (by rintro ⟨_, ⟨⟩, -⟩)

/-- A payload with a property can be read. -/
theorem readProp_of_charge {state : PixState} {payload : JsValue} {charge : PixCharge}
    (found : state.chargeOf (payload.getOwn "chargeId") = some charge) (key : JsString) :
    readProp payload key = .ok (payload.getOwn key) := by
  cases payload with
  | undefined => cases found
  | null => cases found
  | _ => rfl

section Guards

variable {envelope : IntentEnvelope} {state : PixState} {charge : PixCharge}
  (request : envelope.kind = utf16 "pix.charge.refund")

include request

theorem otherKinds_silent : escalateFailedConfirm.run envelope state = .ok none ∧
    validateConfirmTarget.run envelope state = .ok none ∧
    validateChargeAmount.run envelope state = .ok none ∧
    deferChargeCreate.run envelope state = .ok none ∧
    executeConfirmedCharge.run envelope state = .ok none := by
  have confirm : envelope.kind ≠ utf16 "pix.charge.confirm" := by
    rw [request]
    decide
  have create : envelope.kind ≠ utf16 "pix.charge.create" := by
    rw [request]
    decide
  refine ⟨?_, ?_, ?_, ?_, ?_⟩
  · exact if_pos confirm
  · exact if_pos confirm
  · exact if_pos create
  · simp only [deferChargeCreate, createStateDeferGuard, create, decide_false]
    rfl
  · exact if_pos confirm

theorem validateRefundTarget_refuses (decision : Decision)
    (speaks : validateRefundTarget.run envelope state = .ok (some decision)) :
    decision.kind = .refuse := by
  simp only [validateRefundTarget, constant, request, ne_eq, not_true_eq_false, if_false] at speaks
  obtain ⟨chargeId, -, answered⟩ := bind_eq_ok.mp speaks
  cases found : state.chargeOf chargeId with
  | none =>
      rw [found] at answered
      obtain ⟨refusal, -, ⟨⟩⟩ := bind_eq_ok.mp answered
      rfl
  | some charge =>
      rw [found] at answered
      dsimp only at answered
      split at answered
      · obtain ⟨refusal, -, ⟨⟩⟩ := bind_eq_ok.mp answered
        rfl
      · split at answered
        · obtain ⟨refusal, -, ⟨⟩⟩ := bind_eq_ok.mp answered
          rfl
        · cases answered

/-- The state guard lets a refund of a confirmed charge through and no other one. -/
theorem validateRefundTarget_silent
    (silent : validateRefundTarget.run envelope state = .ok none) :
    ∃ charge, state.chargeOf (chargeIdOf envelope) = some charge ∧ charge.status = .confirmed := by
  simp only [validateRefundTarget, constant, request, ne_eq, not_true_eq_false, if_false] at silent
  obtain ⟨chargeId, read, answered⟩ := bind_eq_ok.mp silent
  obtain rfl : chargeId = chargeIdOf envelope := Audit.readProp_eq_ok read
  cases found : state.chargeOf (chargeIdOf envelope) with
  | none =>
      rw [found] at answered
      obtain ⟨refusal, -, ⟨⟩⟩ := bind_eq_ok.mp answered
  | some charge =>
      rw [found] at answered
      dsimp only at answered
      refine ⟨charge, rfl, ?_⟩
      by_contra other
      split at answered
      · obtain ⟨refusal, -, ⟨⟩⟩ := bind_eq_ok.mp answered
      · obtain ⟨refusal, -, ⟨⟩⟩ := bind_eq_ok.mp answered

/-- The clamp speaks exactly when the converted amount is not at most the charge's. -/
theorem clampRefundToOriginal_run (host : Host) (clock : JsString)
    (found : state.chargeOf (chargeIdOf envelope) = some charge) :
    (clampRefundToOriginal host clock).run envelope state = (do
      if (← (refundOf envelope).toNumber).atMost charge.amountCentavos then return none
      let rewritten ← remint host clock envelope
        (withField envelope.payload "refundCentavos" (.num charge.amountCentavos))
      return some (.rewrite rewritten "Refund clamped to original charge amount."
        [basis .business "quantity_capped"
          (some [("chargeId", chargeIdOf envelope), ("requested", refundOf envelope),
            ("cappedTo", .num charge.amountCentavos)])])) := by
  simp only [clampRefundToOriginal, constant, request, ne_eq, not_true_eq_false, if_false]
  simp only [readProp_of_charge found, ok_bind]
  rw [chargeIdOf] at found
  rw [found]
  rfl

theorem clampRefundToOriginal_silent (host : Host) (clock : JsString)
    (found : state.chargeOf (chargeIdOf envelope) = some charge)
    (silent : (clampRefundToOriginal host clock).run envelope state = .ok none) :
    ∃ requested, (refundOf envelope).toNumber = .ok requested ∧
      requested.atMost charge.amountCentavos = true := by
  rw [clampRefundToOriginal_run request host clock found] at silent
  obtain ⟨requested, converted, answered⟩ := bind_eq_ok.mp silent
  refine ⟨requested, converted, ?_⟩
  by_contra exceeds
  rw [if_neg exceeds] at answered
  obtain ⟨rewritten, -, ⟨⟩⟩ := bind_eq_ok.mp answered

theorem clampRefundToOriginal_speaks (host : Host) (clock : JsString)
    (found : state.chargeOf (chargeIdOf envelope) = some charge) (decision : Decision)
    (speaks : (clampRefundToOriginal host clock).run envelope state = .ok (some decision)) :
    ∃ requested rewritten reason bases, (refundOf envelope).toNumber = .ok requested ∧
      requested.atMost charge.amountCentavos = false ∧
      remint host clock envelope
        (withField envelope.payload "refundCentavos" (.num charge.amountCentavos)) =
          .ok rewritten ∧
      decision = .rewrite rewritten reason bases := by
  rw [clampRefundToOriginal_run request host clock found] at speaks
  obtain ⟨requested, converted, answered⟩ := bind_eq_ok.mp speaks
  cases exceeds : requested.atMost charge.amountCentavos with
  | true =>
      rw [if_pos exceeds] at answered
      cases answered
  | false =>
      rw [if_neg (Bool.not_eq_true _ ▸ exceeds)] at answered
      obtain ⟨rewritten, minted, ⟨⟩⟩ := bind_eq_ok.mp answered
      exact ⟨requested, rewritten, _, _, converted, exceeds, minted, rfl⟩

theorem confirmAgentRefund_run : confirmAgentRefund.run envelope state =
    if isAgentSession envelope then
      .ok (some (.requestConfirmation
        "Reembolso proposto por agente — confirmação humana obrigatória."
        [basis .business "rule_satisfied"
          (some [("rule", "agent_refund_confirm"), ("sessionId", .str envelope.actor.sessionId)])]))
    else .ok none := by
  simp only [confirmAgentRefund, constant, request, ne_eq, not_true_eq_false, if_false]
  cases isAgentSession envelope <;> rfl

/-- A threshold guard on refunds is silent on a missing amount and below its threshold. -/
theorem refundThreshold_silent {threshold : JsNumber}
    {onCross : JsValue → JsNumber → Except Thrown Decision}
    (found : state.chargeOf (chargeIdOf envelope) = some charge) {requested : JsNumber}
    (converted : (refundOf envelope).toNumber = .ok requested)
    (silent : (createThresholdGuard (refundThreshold threshold onCross)).run envelope state =
      .ok none) :
    refundOf envelope = .undefined ∨ refundOf envelope = .null ∨
      threshold.atMost requested = false := by
  have applies : (refundThreshold threshold onCross).applies envelope state = .ok true := by
    simp only [refundThreshold, request, decide_true]
  obtain missing | null | ⟨number, same, low⟩ :=
    createThresholdGuard_silent applies (readProp_of_charge found _) silent
  · exact .inl missing
  · exact .inr (.inl null)
  · rw [refundOf] at converted
    rw [converted] at same
    cases same
    exact .inr (.inr low)

theorem refundThreshold_speaks {threshold : JsNumber}
    {onCross : JsValue → JsNumber → Except Thrown Decision}
    (found : state.chargeOf (chargeIdOf envelope) = some charge) {decision : Decision}
    (speaks : (createThresholdGuard (refundThreshold threshold onCross)).run envelope state =
      .ok (some decision)) :
    onCross (refundOf envelope) threshold = .ok decision ∧
      ∃ requested, (refundOf envelope).toNumber = .ok requested ∧
        threshold.atMost requested = true := by
  have applies : (refundThreshold threshold onCross).applies envelope state = .ok true := by
    simp only [refundThreshold, request, decide_true]
  exact createThresholdGuard_speaks applies (readProp_of_charge found _) speaks

end Guards

section Kernel

variable {host : Host} {clock : JsString} {envelope : IntentEnvelope} {state : PixState}
  {kill : KillSwitchState} {wanted : Decision → Prop}
  (request : envelope.kind = utf16 "pix.charge.refund")

include request

/-- What goes on has a confirmed charge, and a business guard gives it. -/
theorem refund_yields (actionable : Actionable wanted)
    (yields : Yields wanted (adjudicate host envelope state kill (pixPolicyBundle host clock))) :
    (∃ charge, state.chargeOf (chargeIdOf envelope) = some charge ∧ charge.status = .confirmed) ∧
      Gives wanted (firstOutcome envelope state (pixPolicyBundle host clock).business) := by
  obtain ⟨failed, confirm, -⟩ := @otherKinds_silent envelope state request
  have stateNever : ∀ guard ∈ (pixPolicyBundle host clock).stateGuards,
      ¬Gives wanted (guard.run envelope state) := by
    refine List.forall_mem_cons.mpr ⟨never_of_silent failed, List.forall_mem_cons.mpr
      ⟨never_of_silent confirm, List.forall_mem_singleton.mpr ?_⟩⟩
    exact never_of_kind actionable.not_refuse (validateRefundTarget_refuses request)
  have authNever : ∀ guard ∈ (pixPolicyBundle host clock).authGuards,
      ¬Gives wanted (guard.run envelope state) :=
    List.forall_mem_singleton.mpr
      (never_of_kind actionable.not_refuse createInjectedAuthorityGuard_refuses)
  obtain ⟨admitted, speaks⟩ := (business_gives_iff actionable stateNever authNever rfl).mp yields
  refine ⟨?_, gives_of_speaks actionable speaks⟩
  have silent := admitted.stateGuards
  rw [pixPolicyBundle, silent_cons_iff, silent_cons_iff, silent_cons_iff] at silent
  exact validateRefundTarget_silent request silent.2.2.1

variable {charge : PixCharge} (found : state.chargeOf (chargeIdOf envelope) = some charge)

include found

theorem clamp_kind (decision : Decision)
    (speaks : (clampRefundToOriginal host clock).run envelope state = .ok (some decision)) :
    decision.kind = .rewrite := by
  obtain ⟨_, _, _, _, -, -, -, rfl⟩ :=
    clampRefundToOriginal_speaks request host clock found decision speaks
  rfl

theorem escalate_kind (decision : Decision)
    (speaks : escalateLargeRefunds.run envelope state = .ok (some decision)) :
    decision.kind = .escalate := by
  obtain ⟨crossed, -⟩ := refundThreshold_speaks request found speaks
  obtain ⟨text, -, ⟨⟩⟩ := bind_eq_ok.mp crossed
  rfl

theorem medium_kind (decision : Decision)
    (speaks : requestConfirmForMediumRefund.run envelope state = .ok (some decision)) :
    decision.kind = .requestConfirmation := by
  obtain ⟨crossed, -⟩ := refundThreshold_speaks request found speaks
  obtain ⟨number, -, ⟨⟩⟩ := bind_eq_ok.mp crossed
  rfl

omit found in
theorem agent_kind (decision : Decision)
    (speaks : confirmAgentRefund.run envelope state = .ok (some decision)) :
    decision.kind = .requestConfirmation := by
  rw [confirmAgentRefund_run request] at speaks
  split at speaks
  · cases speaks
    rfl
  · cases speaks

omit found in
theorem agent_silent (silent : confirmAgentRefund.run envelope state = .ok none) :
    isAgentSession envelope = false := by
  rw [confirmAgentRefund_run request] at silent
  split at silent
  · cases silent
  · next person => exact Bool.not_eq_true _ ▸ person

omit found in
theorem execute_kind (decision : Decision)
    (speaks : executeValidRefund.run envelope state = .ok (some decision)) :
    decision.kind = .execute := by
  simp only [executeValidRefund, constant, request, ne_eq, not_true_eq_false, if_false] at speaks
  obtain ⟨chargeId, -, later⟩ := bind_eq_ok.mp speaks
  obtain ⟨refundCentavos, -, answered⟩ := bind_eq_ok.mp later
  split at answered
  · cases answered
    rfl
  · cases answered

/-- The amount is within the charge and below both thresholds, and no agent asks for it. -/
theorem refund_executes
    (gives : Gives (·.kind = .execute)
      (firstOutcome envelope state (pixPolicyBundle host clock).business)) :
    ∃ requested, (refundOf envelope).toNumber = .ok requested ∧
      requested.atMost charge.amountCentavos = true ∧ isAgentSession envelope = false ∧
      (refundOf envelope = .undefined ∨ refundOf envelope = .null ∨
        escalateRefundThresholdCentavos.atMost requested = false) ∧
      (refundOf envelope = .undefined ∨ refundOf envelope = .null ∨
        confirmRefundThresholdCentavos.atMost requested = false) := by
  obtain ⟨-, -, create, -⟩ := @otherKinds_silent envelope state request
  have other {kind : DecisionKind} (differs : kind ≠ .execute) (decision : Decision)
      (same : decision.kind = .execute) : decision.kind ≠ kind := same ▸ differs.symm
  rw [pixPolicyBundle, gives_later_iff (never_of_silent create),
    gives_later_iff (never_of_kind (other (by decide)) (clamp_kind request found)),
    gives_later_iff (never_of_kind (other (by decide)) (agent_kind request)),
    gives_later_iff (never_of_kind (other (by decide)) (escalate_kind request found)),
    gives_later_iff (never_of_kind (other (by decide)) (medium_kind request found))] at gives
  obtain ⟨-, clamp, agent, escalate, medium, -⟩ := gives
  obtain ⟨requested, converted, within⟩ := clampRefundToOriginal_silent request host clock found clamp
  exact ⟨requested, converted, within, agent_silent request agent,
    refundThreshold_silent request found converted escalate,
    refundThreshold_silent request found converted medium⟩

/-- A request for confirmation concerns an amount within the charge, of an agent or below the
supervisor's threshold. -/
theorem refund_asks
    (gives : Gives (·.kind = .requestConfirmation)
      (firstOutcome envelope state (pixPolicyBundle host clock).business)) :
    ∃ requested, (refundOf envelope).toNumber = .ok requested ∧
      requested.atMost charge.amountCentavos = true ∧
      (isAgentSession envelope = false → refundOf envelope = .undefined ∨
        refundOf envelope = .null ∨
        escalateRefundThresholdCentavos.atMost requested = false) := by
  obtain ⟨-, -, create, -⟩ := @otherKinds_silent envelope state request
  have other {kind : DecisionKind} (differs : kind ≠ .requestConfirmation) (decision : Decision)
      (same : decision.kind = .requestConfirmation) : decision.kind ≠ kind := same ▸ differs.symm
  rw [pixPolicyBundle, gives_later_iff (never_of_silent create),
    gives_later_iff (never_of_kind (other (by decide)) (clamp_kind request found)), gives_cons_iff] at gives
  obtain ⟨-, clamp, later⟩ := gives
  obtain ⟨requested, converted, within⟩ := clampRefundToOriginal_silent request host clock found clamp
  refine ⟨requested, converted, within, fun person => ?_⟩
  obtain ⟨decision, speaks, -⟩ | ⟨-, rest⟩ := later
  · rw [confirmAgentRefund_run request, person] at speaks
    cases speaks
  · rw [gives_later_iff (never_of_kind (other (by decide)) (escalate_kind request found))] at rest
    exact refundThreshold_silent request found converted rest.1

/-- Only the clamp substitutes the envelope. -/
theorem refund_rewrites {rewritten : IntentEnvelope}
    (gives : Gives (RewritesTo rewritten)
      (firstOutcome envelope state (pixPolicyBundle host clock).business)) :
    ∃ requested, (refundOf envelope).toNumber = .ok requested ∧
      requested.atMost charge.amountCentavos = false ∧
      remint host clock envelope
        (withField envelope.payload "refundCentavos" (.num charge.amountCentavos)) =
          .ok rewritten := by
  obtain ⟨-, -, create, defer, confirmed⟩ := @otherKinds_silent envelope state request
  have other {kind : DecisionKind} (differs : kind ≠ .rewrite) (decision : Decision)
      (same : RewritesTo rewritten decision) : decision.kind ≠ kind := by
    obtain ⟨_, _, rfl⟩ := same
    exact differs.symm
  rw [pixPolicyBundle, gives_later_iff (never_of_silent create), gives_cons_iff] at gives
  obtain ⟨-, ⟨decision, speaks, rewrites⟩ | ⟨-, later⟩⟩ := gives
  · obtain ⟨requested, minted, reason, bases, converted, exceeds, mints, rfl⟩ :=
      clampRefundToOriginal_speaks request host clock found decision speaks
    obtain ⟨_, _, ⟨⟩⟩ := rewrites
    exact ⟨requested, converted, exceeds, mints⟩
  · rw [gives_later_iff (never_of_kind (other (by decide)) (agent_kind request)),
      gives_later_iff (never_of_kind (other (by decide)) (escalate_kind request found)),
      gives_later_iff (never_of_kind (other (by decide)) (medium_kind request found)),
      gives_later_iff (never_of_silent defer), gives_later_iff (never_of_silent confirmed),
      gives_later_iff (never_of_kind (other (by decide)) (execute_kind request))] at later
    exact (not_gives_nil later.2.2.2.2.2.2).elim

end Kernel

/-- The executed amount is a positive integer within the confirmed charge. Only an agent's may
reach the supervisor's threshold, and what needs a confirmation is covered by one. -/
def RefundSafe (state : PixState) (deps : AdjudicateAndAuditDeps) (executed : IntentEnvelope) :
    Prop :=
  ∃ refund charge, refundOf executed = .num refund ∧ isPositiveInteger (.num refund) = true ∧
    state.chargeOf (chargeIdOf executed) = some charge ∧ charge.status = .confirmed ∧
    refund.atMost charge.amountCentavos = true ∧
    (isAgentSession executed = false → refund.below escalateRefundThresholdCentavos = true) ∧
    (confirmRefundThresholdCentavos.atMost refund = true ∨ isAgentSession executed = true →
      deps.Covers executed)

/-- The amount is a positive integer, or its conversion is not at most the charge's amount. -/
def AmountChecked (state : PixState) (envelope : IntentEnvelope) : Prop :=
  ∀ charge, state.chargeOf (chargeIdOf envelope) = some charge →
    isPositiveInteger (refundOf envelope) = true ∨
      ∀ requested, (refundOf envelope).toNumber = .ok requested →
        requested.atMost charge.amountCentavos = false

theorem positiveInteger_ne_nan {number : JsNumber}
    (positive : isPositiveInteger (.num number) = true) : number ≠ .nan := by
  rintro rfl
  cases positive

section Safety

variable {envelope : IntentEnvelope} {state : PixState} {deps : AdjudicateAndAuditDeps}
  {charge : PixCharge} {requested : JsNumber}

/-- An integer that the guards let through is safe when what needs a confirmation is covered. -/
theorem refundSafe_of_integer (positive : isPositiveInteger (refundOf envelope) = true)
    (found : state.chargeOf (chargeIdOf envelope) = some charge) (confirmed : charge.status = .confirmed)
    (converted : (refundOf envelope).toNumber = .ok requested)
    (within : requested.atMost charge.amountCentavos = true)
    (small : isAgentSession envelope = false → refundOf envelope = .undefined ∨
      refundOf envelope = .null ∨ escalateRefundThresholdCentavos.atMost requested = false)
    (covered : confirmRefundThresholdCentavos.atMost requested = true ∨
      isAgentSession envelope = true → deps.Covers envelope) :
    RefundSafe state deps envelope := by
  cases refund : refundOf envelope with
  | num number =>
      rw [refund] at positive converted small
      obtain rfl : number = requested := Except.ok.inj converted
      refine ⟨number, charge, refund, positive, found, confirmed, within, fun person => ?_, covered⟩
      obtain ⟨⟨⟩⟩ | ⟨⟨⟩⟩ | fails := small person
      exact JsNumber.below_of_not_atMost (positiveInteger_ne_nan positive) (by decide +kernel) fails
  | _ =>
      rw [refund] at positive
      cases positive

/-- Of what passed the clamp, exactly the positive integers are checked amounts. -/
theorem amountChecked_iff (found : state.chargeOf (chargeIdOf envelope) = some charge)
    (converted : (refundOf envelope).toNumber = .ok requested)
    (within : requested.atMost charge.amountCentavos = true) :
    AmountChecked state envelope ↔ isPositiveInteger (refundOf envelope) = true := by
  constructor
  · intro checked
    refine (checked charge found).resolve_right fun exceeds => ?_
    rw [exceeds requested converted] at within
    cases within
  · exact fun positive _ _ => .inl positive

theorem positive_of_refundSafe (safe : RefundSafe state deps envelope) :
    isPositiveInteger (refundOf envelope) = true := by
  obtain ⟨refund, _, same, positive, -⟩ := safe
  rw [same]
  exact positive

theorem refundOf_clamped {host : Host} {clock : JsString} {rewritten : IntentEnvelope}
    {amount : JsNumber} (minted : remint host clock envelope
      (withField envelope.payload "refundCentavos" (.num amount)) = .ok rewritten) :
    rewritten.kind = envelope.kind ∧ refundOf rewritten = .num amount := by
  obtain ⟨fields, -, -⟩ := buildEnvelope_eq_ok.mp minted
  have kind := congrArg HashedFields.kind fields
  have payload := congrArg HashedFields.payload fields
  refine ⟨kind, ?_⟩
  rw [refundOf, payload]
  change ((setOwn _ _ _).lookup _).getD _ = _
  rw [lookup_setOwn, if_pos rfl]
  rfl

end Safety

section Runs

variable {host : Host} {clock : JsString} {call : Call PixState} {trace : List ShellEvent}
  {result : AdjudicateAndAuditResult}

/-- An executing refund is safe exactly when its amount is a positive integer or was clamped. -/
theorem refund_safe_iff (policy : call.policy = pixPolicyBundle host clock)
    (request : call.envelope.kind = utf16 "pix.charge.refund")
    (amounts : ∀ entry ∈ call.state.charges,
      isPositiveInteger (.num entry.2.amountCentavos) = true)
    (run : Runs (adjudicateAndAudit host call) trace (.ok result)) (executes : result.Executing) :
    RefundSafe call.state call.deps result.record.envelope ↔
      AmountChecked call.state call.envelope := by
  have cases := executing_cases host call run executes
  rw [policy] at cases
  obtain ⟨⟨bases, first⟩, recorded⟩ | ⟨⟨prompt, bases, first⟩, covered, recorded⟩ |
    ⟨reason, bases, second, first, again⟩ := cases
  · obtain ⟨⟨charge, found, confirmed⟩, gives⟩ :=
      refund_yields request actionable_execute ⟨_, first, rfl⟩
    obtain ⟨requested, converted, within, person, small, low⟩ :=
      refund_executes request found gives
    rw [recorded, amountChecked_iff found converted within]
    refine ⟨positive_of_refundSafe, fun positive => ?_⟩
    refine refundSafe_of_integer positive found confirmed converted within (fun _ => small) ?_
    rintro (reaches | agent)
    · rw [reaches] at low
      obtain undefined | null | ⟨⟨⟩⟩ := low
      · rw [undefined] at positive
        cases positive
      · rw [null] at positive
        cases positive
    · rw [agent] at person
      cases person
  · obtain ⟨⟨charge, found, confirmed⟩, gives⟩ :=
      refund_yields request actionable_requestConfirmation ⟨_, first, rfl⟩
    obtain ⟨requested, converted, within, small⟩ := refund_asks request found gives
    rw [recorded, amountChecked_iff found converted within]
    exact ⟨positive_of_refundSafe, fun positive =>
      refundSafe_of_integer positive found confirmed converted within small fun _ => covered⟩
  · obtain ⟨⟨charge, found, confirmed⟩, gives⟩ :=
      refund_yields request (actionable_rewritesTo result.record.envelope) ⟨_, first, _, _, rfl⟩
    obtain ⟨requested, converted, exceeds, minted⟩ := refund_rewrites request found gives
    obtain ⟨kind, clamped⟩ := refundOf_clamped minted
    obtain ⟨id, -, listed⟩ := chargeOf_eq_some.mp found
    have positive : isPositiveInteger (refundOf result.record.envelope) = true :=
      clamped ▸ amounts _ (mem_of_lookup listed)
    obtain ⟨⟨own, named, confirmed⟩, gives⟩ :=
      refund_yields (kind.trans request) actionable_execute ⟨_, again, rfl⟩
    obtain ⟨refund, converts, within, person, small, low⟩ :=
      refund_executes (kind.trans request) named gives
    refine iff_of_true ?_ fun other found' => .inr fun value converted' => ?_
    · refine refundSafe_of_integer positive named confirmed converts within (fun _ => small) ?_
      rintro (reaches | agent)
      · rw [reaches, clamped] at low
        obtain ⟨⟨⟩⟩ | ⟨⟨⟩⟩ | ⟨⟨⟩⟩ := low
      · rw [agent] at person
        cases person
    · rw [found] at found'
      rw [converted] at converted'
      cases found'
      cases converted'
      exact exceeds

end Runs

/-- The charge of 1000 centavos is confirmed. -/
def samplePixState : PixState where
  charges := [("c-1", ⟨1000, .confirmed⟩)]
  authority := none

def refundText (amount : JsString) : JsString :=
  utf16 "\x7b\"actor\":\x7b\"principal\":\"llm\",\"sessionId\":\"s-1\"\x7d,\"kind\":\"pix.charge.refund\"," ++
    utf16 "\"nonce\":\"n-1\",\"origin\":\"LLM\",\"payload\":\x7b\"chargeId\":\"c-1\",\"refundCentavos\":" ++
    amount ++ utf16 "\x7d,\"taint\":\"UNTRUSTED\",\"version\":2\x7d"

/-- The digests of the two refunds are their SHA-256 digests. -/
def refundHost : Host := .ofDigests
  [(refundText "400", "cb78df16dd0a6040fbde50c7473d2ead06d0e383d7dc62f8c9881e32732d7238"),
    (refundText "-400", "7e66362492c65cc779b10fac2b5a8b1c08cae7b6ca8eb3785dbf979da9ee0b9c")]

def refundEnvelope (amount : JsNumber) (intentHash : JsString) : IntentEnvelope where
  version := 2
  kind := "pix.charge.refund"
  payload := .obj [("chargeId", .str "c-1"), ("refundCentavos", .num amount)]
  nonce := "n-1"
  actor := { principal := .llm, sessionId := "s-1", role := none, attestation := none }
  taint := .untrusted
  origin := .llm
  resourceRefs := none
  createdAt := "2026-01-01T00:00:00.000Z"
  intentHash := intentHash

def refundCall (envelope : IntentEnvelope) : Call PixState where
  envelope := envelope
  state := samplePixState
  policy := pixPolicyBundle refundHost "2026-01-01T00:00:00.000Z"
  kill := releasedKill
  deps := sampleDeps

def partialRefund : IntentEnvelope :=
  refundEnvelope 400 "cb78df16dd0a6040fbde50c7473d2ead06d0e383d7dc62f8c9881e32732d7238"

def negativeRefund : IntentEnvelope :=
  refundEnvelope (JsNumber.negate 400) "7e66362492c65cc779b10fac2b5a8b1c08cae7b6ca8eb3785dbf979da9ee0b9c"

theorem sampleCharges_positive : ∀ entry ∈ samplePixState.charges,
    isPositiveInteger (.num entry.2.amountCentavos) = true :=
  List.forall_mem_singleton.mpr (by decide +kernel)

theorem refund_safe_partialRefund :
    ∃ trace result, Runs (adjudicateAndAudit refundHost (refundCall partialRefund)) trace
        (.ok result) ∧
      (RefundSafe samplePixState sampleDeps result.record.envelope ↔
        AmountChecked samplePixState partialRefund) := by
  obtain ⟨trace, result, run, kind⟩ := @calm_run _ _ refundHost (refundCall partialRefund)
    (·.decision.kind) .execute (by decide +kernel)
  exact ⟨trace, result, run, @refund_safe_iff refundHost "2026-01-01T00:00:00.000Z"
    (refundCall partialRefund) trace result rfl rfl sampleCharges_positive run
    ((executing_iff_kind refundHost _ run).mpr (.inl kind))⟩

/-- A refund of a negative amount executes. -/
theorem negativeRefund_executes :
    (∀ entry ∈ samplePixState.charges, isPositiveInteger (.num entry.2.amountCentavos) = true) ∧
      ∃ trace result, Runs (adjudicateAndAudit refundHost (refundCall negativeRefund)) trace
          (.ok result) ∧
        result.Executing ∧ ¬RefundSafe samplePixState sampleDeps result.record.envelope := by
  obtain ⟨trace, result, run, same⟩ := @calm_run _ _ refundHost (refundCall negativeRefund)
    (fun result => (result.decision.kind, isPositiveInteger (refundOf result.record.envelope)))
    (.execute, false) (by decide +kernel)
  obtain ⟨kind, negative⟩ := Prod.mk.inj same
  refine ⟨sampleCharges_positive, trace, result, run,
    (executing_iff_kind refundHost _ run).mpr (.inl kind), fun safe => ?_⟩
  rw [positive_of_refundSafe safe] at negative
  cases negative

end Adjudicate.PaymentsPix
