/-
This file shows how the incident response pack decides a remediation.
-/

import Adjudicate.IncidentResponse.Policies
import Adjudicate.Primitives.RewriteFrame

namespace Adjudicate.IncidentResponse

open Js Canonical Adjudicate.Core Adjudicate.Kernel Adjudicate.Primitives
open Adjudicate.Audit (readProp)

/-- This is the blast radius that the payload asks for. -/
def radiusOf (envelope : IntentEnvelope) : JsValue := envelope.payload.getOwn "blastRadius"

/-- A missing id names the incident under the empty text. -/
def targetOf (payload : JsValue) : JsValue :=
  match payload.getOwn "incidentId" with
  | .undefined => .str []
  | .null => .str []
  | id => id

/-- Only an incident that the payload names itself keeps a remediation waiting. -/
def waits (state : IncidentState) (envelope : IntentEnvelope) : Bool :=
  match state.incidentOf (envelope.payload.getOwn "incidentId") with
  | none => false
  | some incident => incident.dependencies.contains .down

theorem waits_of_found {state : IncidentState} {envelope : IntentEnvelope} {incident : Incident}
    (found : state.incidentOf (envelope.payload.getOwn "incidentId") = some incident) :
    waits state envelope = incident.dependencies.contains .down := by
  rw [waits, found]

/-- The guards behind the clamp look at the radius alone. -/
def radiusDecision (taint : Taint) (radius : JsNumber) : DecisionKind :=
  if taint ≠ .trusted && !radius.atMost autoRemediationBlastCap then .rewrite
  else if escalateBlastRadius.atMost radius then .escalate
  else if confirmBlastRadius.atMost radius then .requestConfirmation
  else .execute

/-- The pack decides a remediation by its incident, its radius and its taint. -/
def remediationDecision (state : IncidentState) (envelope : IntentEnvelope) : DecisionKind :=
  match state.incidentOf (targetOf envelope.payload), radiusOf envelope with
  | some incident, .num radius =>
      if isTerminal incident.status || !isBlastRadius (.num radius) then .refuse
      else if waits state envelope then .defer
      else radiusDecision envelope.taint radius
  | _, _ => .refuse

/-- The payload names a live incident and a radius that is a count. -/
structure Aimed (state : IncidentState) (envelope : IntentEnvelope) (radius : JsNumber) : Prop where
  target : ∃ incident, state.incidentOf (targetOf envelope.payload) = some incident ∧
    isTerminal incident.status = false
  present : radiusOf envelope = .num radius
  whole : isBlastRadius (.num radius) = true

section Guards

variable {envelope : IntentEnvelope} {state : IncidentState} {radius : JsNumber}

theorem readProp_of_radius (present : radiusOf envelope = .num radius) (key : JsString) :
    readProp envelope.payload key = .ok (envelope.payload.getOwn key) := by
  cases payload : envelope.payload with
  | undefined =>
      rw [radiusOf, payload] at present
      cases present
  | null =>
      rw [radiusOf, payload] at present
      cases present
  | _ => rfl

theorem targetId_eq_ok {payload id : JsValue} (read : targetId payload = .ok id) :
    id = targetOf payload := by
  obtain ⟨found, reads, answered⟩ := bind_eq_ok.mp read
  rw [targetOf, ← Audit.readProp_eq_ok reads]
  cases found <;> cases answered <;> rfl

theorem targetId_of_radius (present : radiusOf envelope = .num radius) :
    targetId envelope.payload = .ok (targetOf envelope.payload) := by
  rw [targetId, readProp_of_radius present, ok_bind, targetOf]
  cases envelope.payload.getOwn "incidentId" <;> rfl

/-- Remediations and escalations are checked against the incident that their payload names. -/
def Targeting (envelope : IntentEnvelope) : Prop :=
  envelope.kind = remediationKind ∨ envelope.kind = escalationKind

theorem validateRemediationTarget_run (targets : Targeting envelope) :
    validateRemediationTarget.run envelope state = (do
      let id ← targetId envelope.payload
      match state.incidentOf id with
      | none =>
          return some (.refuse (← refuseIncidentNotFound id)
            [basis .state "transition_illegal" (some [("incidentId", id)])])
      | some incident =>
          if isTerminal incident.status then
            return some (.refuse (← refuseIncidentResolved id)
              [basis .state "terminal_state" (some [("incidentId", id)])])
          return none) := by
  have checked : ¬(envelope.kind ≠ remediationKind ∧ envelope.kind ≠ escalationKind) :=
    fun neither => targets.elim neither.1 neither.2
  exact if_neg checked

theorem validateRemediationTarget_refuses (targets : Targeting envelope) (decision : Decision)
    (speaks : validateRemediationTarget.run envelope state = .ok (some decision)) :
    decision.kind = .refuse := by
  rw [validateRemediationTarget_run targets] at speaks
  obtain ⟨id, -, answered⟩ := bind_eq_ok.mp speaks
  cases found : state.incidentOf id with
  | none =>
      rw [found] at answered
      obtain ⟨refusal, -, ⟨⟩⟩ := bind_eq_ok.mp answered
      rfl
  | some incident =>
      rw [found] at answered
      dsimp only at answered
      split at answered
      · obtain ⟨refusal, -, ⟨⟩⟩ := bind_eq_ok.mp answered
        rfl
      · cases answered

/-- The guard lets exactly the intents about a live incident through. -/
theorem validateRemediationTarget_silent (targets : Targeting envelope)
    (silent : validateRemediationTarget.run envelope state = .ok none) :
    ∃ incident, state.incidentOf (targetOf envelope.payload) = some incident ∧
      isTerminal incident.status = false := by
  rw [validateRemediationTarget_run targets] at silent
  obtain ⟨id, read, answered⟩ := bind_eq_ok.mp silent
  obtain rfl := targetId_eq_ok read
  cases found : state.incidentOf (targetOf envelope.payload) with
  | none =>
      rw [found] at answered
      obtain ⟨refusal, -, ⟨⟩⟩ := bind_eq_ok.mp answered
  | some incident =>
      refine ⟨incident, rfl, ?_⟩
      by_contra terminal
      rw [found] at answered
      dsimp only at answered
      rw [if_pos (Bool.not_eq_false _ ▸ terminal)] at answered
      obtain ⟨refusal, -, ⟨⟩⟩ := bind_eq_ok.mp answered

variable (request : envelope.kind = remediationKind)

include request

theorem validateBlastRadius_refuses (decision : Decision)
    (speaks : validateBlastRadius.run envelope state = .ok (some decision)) :
    decision.kind = .refuse := by
  simp only [validateBlastRadius, named, request, ne_eq, not_true_eq_false, if_false] at speaks
  obtain ⟨br, -, answered⟩ := bind_eq_ok.mp speaks
  split at answered
  · obtain ⟨refusal, -, ⟨⟩⟩ := bind_eq_ok.mp answered
    rfl
  · cases answered

/-- The state guards let exactly the aimed remediations through. -/
theorem stateGuards_silent :
    AllSilent envelope state [validateRemediationTarget, validateBlastRadius] ↔
      ∃ radius, Aimed state envelope radius := by
  rw [silent_cons_iff, silent_cons_iff]
  constructor
  · rintro ⟨target, scope, -⟩
    have live := validateRemediationTarget_silent (.inl request) target
    simp only [validateBlastRadius, named, request, ne_eq, not_true_eq_false, if_false] at scope
    obtain ⟨br, reads, counted⟩ := bind_eq_ok.mp scope
    obtain rfl := Audit.readProp_eq_ok reads
    have whole : isBlastRadius (radiusOf envelope) = true := by
      by_contra other
      rw [if_pos (by simpa [radiusOf] using other)] at counted
      obtain ⟨refusal, -, ⟨⟩⟩ := bind_eq_ok.mp counted
    cases present : radiusOf envelope with
    | num number => exact ⟨number, live, present, present ▸ whole⟩
    | _ =>
        rw [present] at whole
        cases whole
  · rintro ⟨radius, ⟨incident, found, live⟩, present, whole⟩
    have read : readProp envelope.payload "blastRadius" = .ok (.num radius) :=
      (readProp_of_radius present _).trans (congrArg Except.ok present)
    refine ⟨?_, ?_, silent_nil⟩
    · rw [validateRemediationTarget_run (.inl request), targetId_of_radius present, ok_bind, found]
      dsimp only
      rw [live]
      rfl
    · simp only [validateBlastRadius, named, request, ne_eq, not_true_eq_false, if_false]
      rw [read, ok_bind, whole]
      rfl

theorem deferOnDependencyDown_run (present : radiusOf envelope = .num radius) :
    deferOnDependencyDown.run envelope state = .ok (if waits state envelope then
      some (.defer incidentDependencyRestoredSignal incidentDefaultDeferTimeoutMs
        [basis .state "transition_valid"
          (some [("reason", "dependency_down"),
            ("waitFor", .str incidentDependencyRestoredSignal)])]) else none) := by
  simp only [deferOnDependencyDown, createStateDeferGuard, request, ne_eq, not_true_eq_false,
    if_false, readProp_of_radius present, ok_bind]
  rw [waits]
  cases state.incidentOf (envelope.payload.getOwn "incidentId") with
  | none => rfl
  | some incident =>
      dsimp only
      by_cases down : incident.dependencies.contains .down = true
      · rw [if_pos down, down]
        rfl
      · have up : incident.dependencies.contains .down = false := by simpa using down
        rw [if_neg down, up]
        rfl

/-- The clamp sets the radius of an untrusted remediation to the cap. -/
theorem clampAutoRemediationScope_run (host : Host) (clock : JsString)
    (present : radiusOf envelope = .num radius) :
    (clampAutoRemediationScope host clock).run envelope state =
      if envelope.taint ≠ .trusted && !radius.atMost autoRemediationBlastCap then do
        let rewritten ← remint host clock envelope
          (withField envelope.payload "blastRadius" (.num autoRemediationBlastCap))
        return some (.rewrite rewritten
          "Clamped auto-remediation blast radius to the safe ceiling."
          [basis .business "quantity_capped"
            (some [("field", .str "blastRadius"), ("requested", .num radius),
              ("cappedTo", .num autoRemediationBlastCap)])])
      else .ok none := by
  have extracts : requestedRadius envelope.payload = .ok (some radius) := by
    rw [radiusOf] at present
    rw [requestedRadius, readProp_of_radius present, ok_bind, present]
    rfl
  simp only [clampAutoRemediationScope, createRewriteGuard, clampOptions, request, decide_true,
    Bool.true_and, ok_bind, extracts, Cap.value]
  cases decide (envelope.taint ≠ .trusted) with
  | false => rfl
  | true => cases radius.atMost autoRemediationBlastCap <;> rfl

/-- Both threshold guards of the pack apply to remediations and compare the radius. -/
theorem radiusThreshold_run {options : ThresholdGuardOptions IncidentState} {decision : Decision}
    (applies : options.applies = fun envelope _ => .ok (envelope.kind = remediationKind))
    (extracts : options.extract = fun envelope _ => readProp envelope.payload "blastRadius")
    (reaches : options.comparator = .atLeast) (present : radiusOf envelope = .num radius)
    (crosses : options.onCross (.num radius) options.threshold envelope state = .ok decision) :
    (createThresholdGuard options).run envelope state =
      .ok (if options.threshold.atMost radius then some decision else none) := by
  rw [radiusOf] at present
  simp only [createThresholdGuard, applies, extracts, request, decide_true, ok_bind,
    readProp_of_radius present, present, JsValue.toNumber, reaches, ThresholdComparator.compare,
    crosses]
  cases options.threshold.atMost radius <;> rfl

theorem escalateLargeBlastRadius_run (present : radiusOf envelope = .num radius) :
    ∃ reason bases, escalateLargeBlastRadius.run envelope state =
      .ok (if escalateBlastRadius.atMost radius then some (.escalate .supervisor reason bases)
        else none) :=
  ⟨_, _, radiusThreshold_run request rfl rfl rfl present rfl⟩

theorem confirmDestructiveRemediation_run (present : radiusOf envelope = .num radius) :
    ∃ prompt bases, confirmDestructiveRemediation.run envelope state =
      .ok (if confirmBlastRadius.atMost radius then some (.requestConfirmation prompt bases)
        else none) :=
  ⟨_, _, radiusThreshold_run request rfl rfl rfl present rfl⟩

theorem otherKinds_silent : executeMonitorCallback.run envelope state = .ok none ∧
    executeEscalate.run envelope state = .ok none := by
  have monitor : envelope.kind ≠ monitorKind := by
    rw [request]
    decide
  have escalation : envelope.kind ≠ escalationKind := by
    rw [request]
    decide
  exact ⟨if_neg monitor, if_neg escalation⟩

theorem executeRemediation_run : executeRemediation.run envelope state =
    .ok (some (.execute
      [basis .business "rule_satisfied" (some [("rule", "in_bounds_remediation")])])) :=
  if_pos request

/-- The business guards give an aimed remediation the decision that its radius asks for. -/
theorem business_gives {host : Host} {clock : JsString} {kind : DecisionKind}
    (plain : kind ≠ .rewrite) (present : radiusOf envelope = .num radius) :
    Gives (·.kind = kind)
        (firstOutcome envelope state (incidentPolicyBundle host clock).business) ↔
      (if waits state envelope then .defer else radiusDecision envelope.taint radius) = kind := by
  obtain ⟨reason, reached, escalate⟩ :=
    @escalateLargeBlastRadius_run envelope state radius request present
  obtain ⟨prompt, asked, confirm⟩ :=
    @confirmDestructiveRemediation_run envelope state radius request present
  have clamp := @clampAutoRemediationScope_run envelope state radius request host clock present
  simp only [incidentPolicyBundle, firstOutcome,
    @deferOnDependencyDown_run envelope state radius request present, clamp, escalate, confirm,
    (@otherKinds_silent envelope state request).1, @executeRemediation_run envelope state request]
  rw [radiusDecision]
  cases waits state envelope with
  | true => exact gives_some
  | false =>
      simp only [Bool.false_eq_true, if_false]
      by_cases capped : (envelope.taint ≠ .trusted && !radius.atMost autoRemediationBlastCap) = true
      · rw [if_pos capped, if_pos capped]
        refine iff_of_false ?_ plain.symm
        cases remint host clock envelope
          (withField envelope.payload "blastRadius" (.num autoRemediationBlastCap)) with
        | error raised => exact not_gives_error
        | ok rewritten => exact fun gives => plain (gives_some.mp gives).symm
      · rw [if_neg capped, if_neg capped]
        dsimp only
        cases escalateBlastRadius.atMost radius with
        | true => exact gives_some
        | false =>
            cases confirmBlastRadius.atMost radius with
            | true => exact gives_some
            | false => exact gives_some

/-- Only the clamp substitutes an envelope. -/
theorem business_rewrites {host : Host} {clock : JsString} {rewritten : IntentEnvelope}
    (present : radiusOf envelope = .num radius) :
    Gives (RewritesTo rewritten)
        (firstOutcome envelope state (incidentPolicyBundle host clock).business) ↔
      waits state envelope = false ∧ radiusDecision envelope.taint radius = .rewrite ∧
        remint host clock envelope
          (withField envelope.payload "blastRadius" (.num autoRemediationBlastCap)) =
            .ok rewritten := by
  obtain ⟨reason, reached, escalate⟩ :=
    @escalateLargeBlastRadius_run envelope state radius request present
  obtain ⟨prompt, asked, confirm⟩ :=
    @confirmDestructiveRemediation_run envelope state radius request present
  have clamp := @clampAutoRemediationScope_run envelope state radius request host clock present
  have other {decision : Decision} (kind : decision.kind ≠ .rewrite) :
      ¬Gives (RewritesTo rewritten) (.ok (some decision)) := by
    intro gives
    obtain ⟨_, _, rfl⟩ := gives_some.mp gives
    exact kind rfl
  simp only [incidentPolicyBundle, firstOutcome,
    @deferOnDependencyDown_run envelope state radius request present, clamp, escalate, confirm,
    (@otherKinds_silent envelope state request).1, @executeRemediation_run envelope state request]
  rw [radiusDecision]
  cases waits state envelope with
  | true => exact iff_of_false (other (by rintro ⟨⟩)) (by rintro ⟨⟨⟩, -⟩)
  | false =>
      simp only [Bool.false_eq_true, if_false, true_and]
      by_cases capped : (envelope.taint ≠ .trusted && !radius.atMost autoRemediationBlastCap) = true
      · rw [if_pos capped, if_pos capped, eq_self, true_and]
        cases remint host clock envelope
          (withField envelope.payload "blastRadius" (.num autoRemediationBlastCap)) with
        | error raised => exact iff_of_false not_gives_error (by rintro ⟨⟩)
        | ok clamped =>
            constructor
            · intro gives
              obtain ⟨_, _, ⟨⟩⟩ := gives_some.mp gives
              rfl
            · rintro ⟨⟩
              exact gives_some.mpr ⟨_, _, rfl⟩
      · rw [if_neg capped, if_neg capped]
        dsimp only
        cases escalateBlastRadius.atMost radius with
        | true => exact iff_of_false (other (by rintro ⟨⟩)) (by rintro ⟨⟨⟩, -⟩)
        | false =>
            cases confirmBlastRadius.atMost radius with
            | true => exact iff_of_false (other (by rintro ⟨⟩)) (by rintro ⟨⟨⟩, -⟩)
            | false => exact iff_of_false (other (by rintro ⟨⟩)) (by rintro ⟨⟨⟩, -⟩)

end Guards

/-- A remediation that reaches the business guards is verified and owned. -/
structure Cleared (host : Host) (state : IncidentState) (kill : KillSwitchState)
    (envelope : IntentEnvelope) : Prop where
  verified : Verified host envelope kill
  owned : enforceResourceOwnership.run envelope state = .ok none

theorem remediationDecision_of_aimed {state : IncidentState} {envelope : IntentEnvelope}
    {radius : JsNumber} (aimed : Aimed state envelope radius) :
    remediationDecision state envelope =
      if waits state envelope then .defer else radiusDecision envelope.taint radius := by
  obtain ⟨⟨incident, found, live⟩, present, whole⟩ := aimed
  rw [remediationDecision, found, present]
  dsimp only
  rw [live, whole]
  rfl

theorem aimed_of_decision {state : IncidentState} {envelope : IntentEnvelope}
    (goes : remediationDecision state envelope ≠ .refuse) :
    ∃ radius, Aimed state envelope radius := by
  rw [remediationDecision] at goes
  split at goes
  · next incident radius found present =>
      split at goes
      · exact (goes rfl).elim
      · next passes =>
          rw [Bool.or_eq_true, not_or, Bool.not_eq_true, Bool.not_eq_true', Bool.not_eq_false] at passes
          exact ⟨radius, ⟨incident, found, passes.1⟩, present, passes.2⟩
  · exact (goes rfl).elim

/-- What is neither refused nor parked is decided by its radius. -/
theorem radius_of_decision {state : IncidentState} {envelope : IntentEnvelope} {kind : DecisionKind}
    (decides : remediationDecision state envelope = kind) (acts : kind ≠ .refuse)
    (stays : kind ≠ .defer) :
    ∃ radius, Aimed state envelope radius ∧ waits state envelope = false ∧
      radiusDecision envelope.taint radius = kind := by
  obtain ⟨radius, aimed⟩ := aimed_of_decision (decides ▸ acts)
  rw [remediationDecision_of_aimed aimed] at decides
  split at decides
  · exact (stays decides.symm).elim
  · next up => exact ⟨radius, aimed, Bool.not_eq_true _ ▸ up, decides⟩

section Radius

variable {taint : Taint} {radius : JsNumber}

theorem radiusDecision_rewrite :
    radiusDecision taint radius = .rewrite ↔
      taint ≠ .trusted ∧ radius.atMost autoRemediationBlastCap = false := by
  have clamped : (taint ≠ .trusted && !radius.atMost autoRemediationBlastCap) = true ↔
      taint ≠ .trusted ∧ radius.atMost autoRemediationBlastCap = false := by simp
  rw [radiusDecision, ← clamped]
  split
  · next applies => exact iff_of_true rfl applies
  · next silent =>
      refine iff_of_false ?_ silent
      split
      · rintro ⟨⟩
      · split <;> rintro ⟨⟩

theorem radiusDecision_execute (executes : radiusDecision taint radius = .execute) :
    (taint ≠ .trusted → radius.atMost autoRemediationBlastCap = true) ∧
      confirmBlastRadius.atMost radius = false := by
  have unclamped : ¬(taint ≠ .trusted ∧ radius.atMost autoRemediationBlastCap = false) := by
    rw [← radiusDecision_rewrite, executes]
    rintro ⟨⟩
  refine ⟨fun untrusted => ?_, ?_⟩
  · by_contra exceeds
    exact unclamped ⟨untrusted, Bool.not_eq_true _ ▸ exceeds⟩
  · by_contra large
    rw [radiusDecision] at executes
    simp only [Bool.not_eq_false _ ▸ large, if_true] at executes
    split at executes
    · cases executes
    · split at executes <;> cases executes

theorem radiusDecision_asks (asks : radiusDecision taint radius = .requestConfirmation) :
    (taint ≠ .trusted → radius.atMost autoRemediationBlastCap = true) ∧
      escalateBlastRadius.atMost radius = false := by
  have unclamped : ¬(taint ≠ .trusted ∧ radius.atMost autoRemediationBlastCap = false) := by
    rw [← radiusDecision_rewrite, asks]
    rintro ⟨⟩
  refine ⟨fun untrusted => ?_, ?_⟩
  · by_contra exceeds
    exact unclamped ⟨untrusted, Bool.not_eq_true _ ▸ exceeds⟩
  · by_contra large
    rw [radiusDecision] at asks
    simp only [Bool.not_eq_false _ ▸ large, if_true] at asks
    split at asks <;> cases asks

end Radius

section Kernel

variable {host : Host} {clock : JsString} {envelope : IntentEnvelope} {state : IncidentState}
  {kill : KillSwitchState} {wanted : Decision → Prop}
  (request : envelope.kind = remediationKind)

include request

/-- Every decision that lets a remediation go on comes from the business guards. -/
theorem remediation_yields_iff (actionable : Actionable wanted) :
    Yields wanted (adjudicate host envelope state kill (incidentPolicyBundle host clock)) ↔
      Cleared host state kill envelope ∧ (∃ radius, Aimed state envelope radius) ∧
        Speaks host envelope state wanted (incidentPolicyBundle host clock).business := by
  have stateNever : ∀ guard ∈ (incidentPolicyBundle host clock).stateGuards,
      ¬Gives wanted (guard.run envelope state) := by
    refine List.forall_mem_cons.mpr ⟨?_, List.forall_mem_singleton.mpr ?_⟩
    · exact never_of_kind actionable.not_refuse (validateRemediationTarget_refuses (.inl request))
    · exact never_of_kind actionable.not_refuse (validateBlastRadius_refuses request)
  have authNever : ∀ guard ∈ (incidentPolicyBundle host clock).authGuards,
      ¬Gives wanted (guard.run envelope state) :=
    List.forall_mem_singleton.mpr
      (never_of_kind actionable.not_refuse createInjectedAuthorityGuard_refuses)
  have taint : canProposeWithOrigin envelope.taint envelope.kind envelope.origin
      (incidentPolicyBundle host clock).taint = .ok true := by
    have untrusted : incidentTaintPolicy.minimumFor envelope.kind = .ok .untrusted := by
      rw [request]
      rfl
    have ranked : decide (taintRank envelope.taint ≥ taintRank .untrusted) = true :=
      by
      cases envelope.taint <;> rfl
    change canProposeWithOrigin _ _ _ incidentTaintPolicy = _
    rw [canProposeWithOrigin, canPropose, untrusted, ok_bind, ranked]
    rfl
  rw [business_gives_iff actionable stateNever authNever rfl]
  constructor
  · rintro ⟨⟨verified, silent, -, owned⟩, speaks⟩
    have own := (silent_cons_iff enforceResourceOwnership []).mp owned
    exact ⟨⟨verified, own.1⟩, (stateGuards_silent request).mp silent, speaks⟩
  · rintro ⟨⟨verified, owned⟩, aimed, speaks⟩
    exact ⟨⟨verified, (stateGuards_silent request).mpr aimed, taint,
      (silent_cons_iff enforceResourceOwnership []).mpr ⟨owned, silent_nil⟩⟩, speaks⟩

/-- A cleared remediation goes on exactly as its incident, its radius and its taint say. -/
theorem remediation_decides {kind : DecisionKind} (acts : kind ≠ .refuse) (plain : kind ≠ .rewrite) :
    Yields (·.kind = kind) (adjudicate host envelope state kill (incidentPolicyBundle host clock)) ↔
      Cleared host state kill envelope ∧ remediationDecision state envelope = kind := by
  rw [remediation_yields_iff request (actionable_kind acts), speaks_kind_iff acts plain]
  refine and_congr_right fun _ => ?_
  constructor
  · rintro ⟨⟨radius, aimed⟩, gives⟩
    rw [remediationDecision_of_aimed aimed]
    exact (business_gives request plain aimed.present).mp gives
  · intro decides
    obtain ⟨radius, aimed⟩ := aimed_of_decision (decides ▸ acts)
    rw [remediationDecision_of_aimed aimed] at decides
    exact ⟨⟨radius, aimed⟩, (business_gives request plain aimed.present).mpr decides⟩

/-- What is neither refused, parked nor rewritten has its incident and its radius. -/
theorem remediation_goesOn {kind : DecisionKind} (acts : kind ≠ .refuse) (stays : kind ≠ .defer)
    (plain : kind ≠ .rewrite)
    (yields : Yields (·.kind = kind)
      (adjudicate host envelope state kill (incidentPolicyBundle host clock))) :
    Cleared host state kill envelope ∧ ∃ radius, Aimed state envelope radius ∧
      waits state envelope = false ∧ radiusDecision envelope.taint radius = kind := by
  obtain ⟨cleared, decides⟩ := (remediation_decides request acts plain).mp yields
  exact ⟨cleared, radius_of_decision decides acts stays⟩

/-- A cleared remediation is rewritten exactly when the clamp applies, and then to the cap. -/
theorem remediation_rewrites {rewritten : IntentEnvelope} :
    Yields (RewritesTo rewritten)
        (adjudicate host envelope state kill (incidentPolicyBundle host clock)) ↔
      Cleared host state kill envelope ∧ remediationDecision state envelope = .rewrite ∧
        remint host clock envelope
          (withField envelope.payload "blastRadius" (.num autoRemediationBlastCap)) =
            .ok rewritten := by
  rw [remediation_yields_iff request (actionable_rewritesTo rewritten)]
  refine and_congr_right fun _ => ?_
  constructor
  · rintro ⟨⟨radius, aimed⟩, speaks⟩
    obtain ⟨stays, decides, minted⟩ := (business_rewrites request aimed.present).mp
      (gives_of_speaks (actionable_rewritesTo rewritten) speaks)
    rw [remediationDecision_of_aimed aimed, stays]
    exact ⟨decides, minted⟩
  · rintro ⟨decides, minted⟩
    obtain ⟨radius, aimed⟩ := aimed_of_decision (by rw [decides]; rintro ⟨⟩)
    rw [remediationDecision_of_aimed aimed] at decides
    have stays : waits state envelope = false := by
      by_contra down
      rw [if_pos (Bool.not_eq_false _ ▸ down)] at decides
      cases decides
    rw [stays] at decides
    obtain ⟨decision, gives, rewrites⟩ :=
      (business_rewrites request aimed.present).mpr ⟨stays, decides, minted⟩
    refine ⟨⟨radius, aimed⟩, decision, gives, ?_⟩
    rw [yields_gateRewrite host envelope (actionable_rewritesTo rewritten)]
    refine ⟨rewrites, fun other reason bases same => ?_⟩
    obtain ⟨_, _, again⟩ := rewrites
    obtain ⟨rfl, -, -⟩ := Decision.rewrite.inj (again.symm.trans same)
    have taint : rewritten.taint = envelope.taint := by rw [(remint_fields minted).1]
    exact ⟨deriveIntentHash_of_buildEnvelope minted, le_of_eq (congrArg taintRank taint)⟩

end Kernel

section Escalation

variable {host : Host} {clock : JsString} {envelope : IntentEnvelope} {state : IncidentState}
  {kill : KillSwitchState} {wanted : Decision → Prop} (request : envelope.kind = escalationKind)

include request

theorem escalation_business : firstOutcome envelope state (incidentPolicyBundle host clock).business =
    .ok (some (.execute
      [basis .business "rule_satisfied" (some [("rule", "manual_escalation")])])) := by
  have remediation : escalationKind ≠ remediationKind := by decide
  have monitor : escalationKind ≠ monitorKind := by decide
  simp only [incidentPolicyBundle, firstOutcome, deferOnDependencyDown, createStateDeferGuard,
    clampAutoRemediationScope, createRewriteGuard, clampOptions, escalateLargeBlastRadius,
    createEscalateGuard, confirmDestructiveRemediation, createConfirmGuard, createThresholdGuard,
    executeMonitorCallback, executeRemediation, executeEscalate, executeKind, named, request,
    remediation, monitor, decide_false, Bool.false_and, ne_eq, not_false_eq_true, if_true, if_false]
  rfl

/-- An escalation only goes on by executing, and then about a live incident. -/
theorem escalation_goesOn (actionable : Actionable wanted)
    (yields : Yields wanted (adjudicate host envelope state kill (incidentPolicyBundle host clock))) :
    (∃ bases, wanted (.execute bases)) ∧ Cleared host state kill envelope ∧
      ∃ incident, state.incidentOf (targetOf envelope.payload) = some incident ∧
        isTerminal incident.status = false := by
  have other : envelope.kind ≠ remediationKind := by
    rw [request]
    decide
  have scope : validateBlastRadius.run envelope state = .ok none := if_pos other
  have stateNever : ∀ guard ∈ (incidentPolicyBundle host clock).stateGuards,
      ¬Gives wanted (guard.run envelope state) := by
    refine List.forall_mem_cons.mpr ⟨?_, List.forall_mem_singleton.mpr (never_of_silent scope)⟩
    exact never_of_kind actionable.not_refuse (validateRemediationTarget_refuses (.inr request))
  have authNever : ∀ guard ∈ (incidentPolicyBundle host clock).authGuards,
      ¬Gives wanted (guard.run envelope state) :=
    List.forall_mem_singleton.mpr
      (never_of_kind actionable.not_refuse createInjectedAuthorityGuard_refuses)
  obtain ⟨⟨verified, silent, -, owned⟩, speaks⟩ :=
    (business_gives_iff actionable stateNever authNever rfl).mp yields
  have own := (silent_cons_iff enforceResourceOwnership []).mp owned
  have target := (silent_cons_iff validateRemediationTarget [validateBlastRadius]).mp silent
  have gives := gives_of_speaks actionable speaks
  rw [escalation_business request] at gives
  exact ⟨⟨_, gives_some.mp gives⟩, ⟨verified, own.1⟩,
    validateRemediationTarget_silent (.inr request) target.1⟩

end Escalation

end Adjudicate.IncidentResponse
