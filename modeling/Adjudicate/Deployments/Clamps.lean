/-
This file shows that a deploy with one clamp executes what the clamp makes of it.
-/

import Adjudicate.Deployments.ProductionGate
import Adjudicate.Shell.ClampComposition

namespace Adjudicate.Deployments

open Js Canonical Adjudicate.Core Adjudicate.Kernel Adjudicate.Primitives Adjudicate.Shell
open Adjudicate.Audit (readProp)
open Adjudicate.Effect

/-- These are the guards of the pack that substitute an envelope. -/
def rewriteGuards (host : Host) (clock : JsString) : List (Guard DeploymentState) :=
  [clampProductionRamp host clock, clampToGreenestRegion host clock]

section Guards

variable {host : Host} {clock : JsString} {envelope : IntentEnvelope} {state : DeploymentState}

theorem guards_ignoreOrigin : ∀ guard ∈ (deploymentPolicyBundle host clock).stateGuards ++
    (deploymentPolicyBundle host clock).business, IgnoresOrigin guard := by
  simp only [deploymentPolicyBundle, List.forall_mem_append, List.forall_mem_cons,
    List.not_mem_nil, false_implies, implies_true, and_true]
  exact ⟨⟨fun _ _ _ _ _ => rfl, fun _ _ _ _ _ => rfl⟩, fun _ _ _ _ _ => rfl,
    fun _ _ _ _ _ => rfl, fun _ _ _ _ _ => rfl, fun _ _ _ _ _ => rfl, fun _ _ _ _ _ => rfl,
    fun _ _ _ _ _ => rfl, fun _ _ _ _ _ => rfl, fun _ _ _ _ _ => rfl, fun _ _ _ _ _ => rfl,
    fun _ _ _ _ _ => rfl⟩

theorem enforceDeployOwnership_free (free : state.authority = none) :
    enforceDeployOwnership.run envelope state = .ok none := by
  simp [enforceDeployOwnership, createInjectedAuthorityGuard, createAuthorityGuard, free]
  rfl

theorem score_opinions : Opinions (·.kind = .escalate) (escalateRegressionScore.run envelope state) :=
  createEscalateGuard_escalates

theorem defer_opinions : Opinions (·.kind = .defer) (deferHighRampStaging.run envelope state) := by
  refine opinions_ite (fun _ => opinions_none) fun _ => opinions_bind fun environment _ => ?_
  refine opinions_ite (fun _ => opinions_none) fun _ => opinions_bind fun ramp _ => ?_
  refine opinions_bind fun number _ => opinions_ite (fun _ => opinions_none) fun _ => ?_
  exact opinions_answer rfl

/-- The decision sets one field of the payload, and its bases hold values of the payload. -/
def SetsField (host : Host) (clock : JsString) (envelope : IntentEnvelope) (field : JsString)
    (decision : Decision) : Prop :=
  ∃ value rewritten reason bases, decision = .rewrite rewritten reason bases ∧
    remint host clock envelope (withField envelope.payload field value) = .ok rewritten ∧
    (AllFinite envelope.payload → ∀ entry ∈ bases, AllFinite entry.toJs)

theorem allFinite_orElse {value fallback : JsValue} (finite : AllFinite value)
    (other : AllFinite fallback) : AllFinite (value.orElse fallback) := by
  cases value with
  | undefined => exact other
  | null => exact other
  | _ => exact finite

theorem ramp_opinions : Opinions (fun decision =>
      SetsField host clock envelope "rampPercent" decision ∧
        envelope.payload.getOwn "environment" = .str "production")
    ((clampProductionRamp host clock).run envelope state) := by
  refine opinions_ite (fun _ => opinions_none) fun _ => opinions_bind fun environment read => ?_
  refine opinions_ite (fun _ => opinions_none) fun named => opinions_bind fun ramp given => ?_
  refine opinions_bind fun number _ => opinions_ite (fun _ => opinions_none) fun _ => ?_
  refine opinions_bind fun rewritten minted => opinions_bind fun text _ => opinions_answer ⟨?_, ?_⟩
  · refine ⟨_, rewritten, _, _, rfl, minted, fun finite => List.forall_mem_singleton.mpr ?_⟩
    obtain ⟨percent, asked, ⟨⟩⟩ := bind_eq_ok.mp given
    rw [Audit.readProp_eq_ok asked]
    have requested : AllFinite ((envelope.payload.getOwn "rampPercent").orElse (.num 100)) :=
      allFinite_orElse (allFinite_getOwn finite "rampPercent")
        (by decide +kernel : JsNumber.isFinite 100 = true)
    exact allFinite_basis_some (List.forall_mem_cons.mpr ⟨requested, List.forall_mem_singleton.mpr
      (by decide +kernel : maxProductionRampPercent.isFinite = true)⟩)
  · rw [← Audit.readProp_eq_ok read]
    exact isText_iff.mp (by simpa using named)

theorem region_opinions : Opinions (fun decision =>
      SetsField host clock envelope "region" decision ∧
        (envelope.payload.getOwn "region").isUndefined = false)
    ((clampToGreenestRegion host clock).run envelope state) := by
  refine opinions_ite (fun _ => opinions_none) fun _ => opinions_bind fun region read => ?_
  obtain rfl := Audit.readProp_eq_ok read
  refine opinions_ite (fun _ => opinions_none) fun given => opinions_bind fun greener _ => ?_
  cases greener with
  | none => exact opinions_none
  | some greenest =>
      refine opinions_bind fun rewritten minted => opinions_bind fun text _ => opinions_answer ⟨?_, ?_⟩
      · refine ⟨_, rewritten, _, _, rfl, minted, fun finite => List.forall_mem_singleton.mpr ?_⟩
        exact allFinite_basis_some (List.forall_mem_cons.mpr ⟨allFinite_getOwn finite "region",
          List.forall_mem_cons.mpr ⟨trivial, List.forall_mem_singleton.mpr trivial⟩⟩)
      · exact Bool.not_eq_true _ ▸ given

theorem confirm_opinions :
    Opinions (·.kind = .requestConfirmation) (confirmModelOrPromptChange.run envelope state) := by
  refine opinions_ite (fun _ => opinions_none) fun _ => opinions_bind fun modelId _ => ?_
  refine opinions_bind fun version _ => opinions_ite (fun _ => opinions_none) fun _ => ?_
  refine opinions_bind fun service _ => opinions_bind fun environment _ => ?_
  refine opinions_ite (fun _ => opinions_none) fun _ => opinions_bind fun model _ => ?_
  exact opinions_bind fun prompt _ => opinions_answer rfl

theorem gate_opinions : Opinions (fun decision => decision.kind = .refuse ∨ decision.kind = .escalate)
    (escalateProductionWithoutApproval.run envelope state) := by
  refine opinions_ite (fun _ => opinions_none) fun _ => opinions_bind fun environment _ => ?_
  refine opinions_ite (fun _ => opinions_none) fun _ => opinions_bind fun found _ => ?_
  cases found with
  | none =>
      refine opinions_bind fun service _ => opinions_bind fun sha _ => ?_
      exact opinions_bind fun name _ => opinions_bind fun short _ => opinions_answer (.inr rfl)
  | some approval =>
      dsimp only
      split
      · exact opinions_none
      · exact opinions_answer (.inl rfl)

theorem rollback_opinions :
    Opinions (·.kind = .requestConfirmation) (confirmDestructiveRollback.run envelope state) := by
  refine opinions_ite (fun _ => opinions_none) fun _ => opinions_bind fun environment _ => ?_
  refine opinions_ite (fun _ => opinions_none) fun _ => opinions_bind fun sha _ => ?_
  exact opinions_bind fun short _ => opinions_answer rfl

/-- The allowing guards execute with bases that hold no number. -/
def ExecutesFinitely (decision : Decision) : Prop :=
  decision.kind = .execute ∧ AllFinite decision.toJs

theorem allow_opinions : Opinions ExecutesFinitely (allowResolve.run envelope state) ∧
    Opinions ExecutesFinitely (allowStagingNoRampOrLowRamp.run envelope state) ∧
    Opinions ExecutesFinitely (allowApprovedProduction.run envelope state) := by
  have plain := allFinite_basis_none .state "transition_valid"
  have satisfied := allFinite_basis_none .business "rule_satisfied"
  refine ⟨?_, ?_, ?_⟩
  · refine opinions_ite (fun _ => opinions_none) fun _ => opinions_answer ⟨rfl, ?_⟩
    exact allFinite_execute (List.forall_mem_singleton.mpr satisfied)
  · refine opinions_ite (fun _ => opinions_none) fun _ => opinions_bind fun environment _ => ?_
    refine opinions_ite (fun _ => opinions_none) fun _ => opinions_bind fun ramp _ => ?_
    refine opinions_bind fun number _ => opinions_ite (fun _ => opinions_none) fun _ => ?_
    exact opinions_answer ⟨rfl, allFinite_execute
      (List.forall_mem_cons.mpr ⟨plain, List.forall_mem_singleton.mpr satisfied⟩)⟩
  · refine opinions_ite (fun _ => opinions_none) fun _ => opinions_bind fun environment _ => ?_
    refine opinions_ite (fun _ => opinions_none) fun _ => opinions_bind fun found _ => ?_
    cases found with
    | none => exact opinions_none
    | some approval =>
        refine opinions_ite (fun _ => opinions_none) fun _ => opinions_answer ⟨rfl, ?_⟩
        exact allFinite_execute (List.forall_mem_cons.mpr ⟨plain, List.forall_mem_singleton.mpr
          (allFinite_basis_some (List.forall_mem_singleton.mpr trivial))⟩)

/-- Every opinion of the pack that executes or rewrites can be hashed. -/
theorem opinions_allFinite (finite : AllFinite envelope.payload) :
    ∀ guard ∈ (deploymentPolicyBundle host clock).stateGuards ++
        (deploymentPolicyBundle host clock).authGuards ++ (deploymentPolicyBundle host clock).business,
      ∀ own, guard.run envelope state = .ok (some own) →
        own.kind = .execute ∨ own.kind = .rewrite → AllFinite own.toJs := by
  have other {kind : DecisionKind} {own : Decision} (same : own.kind = kind)
      (executes : kind ≠ .execute) (rewrites : kind ≠ .rewrite)
      (acts : own.kind = .execute ∨ own.kind = .rewrite) : AllFinite own.toJs := by
    rw [same] at acts
    exact (acts.elim executes rewrites).elim
  have sets {field : JsString} {own : Decision} (rewrites : SetsField host clock envelope field own) :
      AllFinite own.toJs := by
    obtain ⟨value, rewritten, reason, bases, rfl, minted, entries⟩ := rewrites
    exact allFinite_rewrite (allFinite_hashed (deriveIntentHash_of_buildEnvelope minted)).2
      (entries finite)
  obtain ⟨resolve, staging, production⟩ := @allow_opinions envelope state
  simp only [List.forall_mem_append]
  refine ⟨⟨fun guard listed own speaks => ?_, ?_⟩, ?_⟩
  · exact other (stateGuards_refuse guard listed own speaks) (by decide) (by decide)
  · exact List.forall_mem_singleton.mpr fun own speaks =>
      other (createInjectedAuthorityGuard_refuses own speaks) (by decide) (by decide)
  · simp only [deploymentPolicyBundle, List.forall_mem_cons, List.not_mem_nil, false_implies,
      implies_true, and_true]
    refine ⟨fun own speaks _ => (resolve own speaks).2, fun own speaks => ?_, fun own speaks => ?_,
      fun own speaks _ => sets (ramp_opinions own speaks).1,
      fun own speaks _ => sets (region_opinions own speaks).1, fun own speaks => ?_,
      fun own speaks => ?_, fun own speaks => ?_, fun own speaks _ => (staging own speaks).2,
      fun own speaks _ => (production own speaks).2⟩
    · exact other (score_opinions own speaks) (by decide) (by decide)
    · exact other (defer_opinions own speaks) (by decide) (by decide)
    · exact other (confirm_opinions own speaks) (by decide) (by decide)
    · obtain refuses | escalates := gate_opinions own speaks
      · exact other refuses (by decide) (by decide)
      · exact other escalates (by decide) (by decide)
    · exact other (rollback_opinions own speaks) (by decide) (by decide)

end Guards

section Congruence

variable {first second : IntentEnvelope} {state : DeploymentState} (kind : first.kind = second.kind)

include kind

theorem score_congr (score : readProp first.payload "aiEvalScore" =
      readProp second.payload "aiEvalScore") :
    escalateRegressionScore.run first state = escalateRegressionScore.run second state := by
  simp only [escalateRegressionScore, createEscalateGuard, createThresholdGuard,
    EscalateGuardOptions.basisList, kind, score]

theorem stateGuards_congr {host : Host} {clock : JsString}
    (environment : readProp first.payload "environment" = readProp second.payload "environment")
    (sha : readProp first.payload "gitSha" = readProp second.payload "gitSha")
    (target : readProp first.payload "toGitSha" = readProp second.payload "toGitSha") :
    AllSilent first state (deploymentPolicyBundle host clock).stateGuards ↔
      AllSilent second state (deploymentPolicyBundle host clock).stateGuards := by
  have unknown : refuseUnknownEnvironment.run first state =
      refuseUnknownEnvironment.run second state := by
    simp only [refuseUnknownEnvironment, constant, kind, environment]
  have missing : refuseEmptyGitSha.run first state = refuseEmptyGitSha.run second state := by
    simp only [refuseEmptyGitSha, constant, kind, sha, target]
  simp only [AllSilent, deploymentPolicyBundle, firstOutcome, unknown, missing]

variable (environment : readProp first.payload "environment" = readProp second.payload "environment")
  (ramp : readProp first.payload "rampPercent" = readProp second.payload "rampPercent")

include environment ramp

theorem defer_congr : deferHighRampStaging.run first state = deferHighRampStaging.run second state := by
  simp only [deferHighRampStaging, named, requestedRamp, kind, environment, ramp]

/-- The ramp guard is silent on every envelope that asks for the same ramp. -/
theorem rampSilent_congr {host : Host} {clock : JsString}
    (silent : (clampProductionRamp host clock).run first state = .ok none) :
    (clampProductionRamp host clock).run second state = .ok none := by
  simp only [clampProductionRamp, named, requestedRamp, kind, environment, ramp] at silent ⊢
  split
  · rfl
  · next request =>
      rw [if_neg request] at silent
      obtain ⟨target, read, later⟩ := bind_eq_ok.mp silent
      rw [read, ok_bind]
      split
      · rfl
      · next production =>
          rw [if_neg production] at later
          obtain ⟨given, asked, later⟩ := bind_eq_ok.mp later
          rw [asked, ok_bind]
          obtain ⟨number, converted, later⟩ := bind_eq_ok.mp later
          rw [converted, ok_bind]
          split
          · rfl
          · next exceeds =>
              rw [if_neg exceeds] at later
              obtain ⟨rewritten, -, later⟩ := bind_eq_ok.mp later
              obtain ⟨text, -, ⟨⟩⟩ := bind_eq_ok.mp later

end Congruence

section Composition

variable {host : Host} {clock : JsString} {original rewritten clamped : IntentEnvelope}
  {state : DeploymentState} {reason : JsString} {bases : List DecisionBasis}

/-- What a clamp of an executing deploy answers is the first answer of the pack. -/
theorem clamp_answers_first (request : original.kind = utf16 "deployment.approval.request")
    (json : original.payload.IsJson) {guard : Guard DeploymentState}
    (listed : guard ∈ rewriteGuards host clock)
    (speaks : guard.run original state = .ok (some (.rewrite rewritten reason bases)))
    (rebuilt : rebuild host clock original rewritten.payload = .ok clamped)
    (silent : AllSilent clamped state (deploymentPolicyBundle host clock).stateGuards)
    (executes : Gives (·.kind = .execute)
      (firstOutcome clamped state (deploymentPolicyBundle host clock).business)) :
    remint host clock original rewritten.payload = .ok rewritten ∧
      AllSilent original state (deploymentPolicyBundle host clock).stateGuards ∧
      firstOutcome original state (deploymentPolicyBundle host clock).business =
        .ok (some (.rewrite rewritten reason bases)) := by
  obtain ⟨kind, payload, -⟩ := rebuild_fields rebuilt
  obtain ⟨resolve, -⟩ := @otherKinds_silent original state request
  obtain ⟨resolved, -⟩ := @otherKinds_silent clamped state (kind.trans request)
  have sets {field : JsString} {condition : Prop} (decision : Decision)
      (both : SetsField host clock clamped field decision ∧ condition) : decision.kind ≠ .execute := by
    obtain ⟨⟨_, _, _, _, rfl, -⟩, -⟩ := both
    rintro ⟨⟩
  rw [deploymentPolicyBundle, gives_later_iff (never_of_silent resolved),
    gives_later_iff (never_of_opinions score_opinions fun _ same => ne_of_eq_of_ne same (by decide)),
    gives_later_iff (never_of_opinions defer_opinions fun _ same => ne_of_eq_of_ne same (by decide)),
    gives_later_iff (never_of_opinions ramp_opinions sets),
    gives_later_iff (never_of_opinions region_opinions sets)] at executes
  obtain ⟨-, score, defer, ramp, region, -⟩ := executes
  have reads {field : JsString} (setsField : SetsField host clock original field
      (.rewrite rewritten reason bases)) (object : ∃ props, original.payload = .obj props) :
      remint host clock original rewritten.payload = .ok rewritten ∧
        ∀ key, key ≠ field → readProp clamped.payload key = readProp original.payload key := by
    obtain ⟨value, _, _, _, ⟨⟩, minted, -⟩ := setsField
    obtain ⟨props, object⟩ := object
    have made := (remint_payload minted).2
    refine ⟨made ▸ minted, fun key other => ?_⟩
    rw [object] at json made ⊢
    rw [payload, made]
    change Except.ok _ = Except.ok _
    rw [getOwn_withField json.1, if_neg other]
  simp only [rewriteGuards, List.mem_cons, List.not_mem_nil, or_false] at listed
  obtain rfl | rfl := listed
  · obtain ⟨setsField, production⟩ := ramp_opinions _ speaks
    obtain ⟨minted, kept⟩ := reads setsField (obj_of_production production)
    obtain ⟨deferred, -⟩ := @staging_silent original state request production
    rw [score_congr kind (kept _ (by decide))] at score
    refine ⟨minted, (stateGuards_congr kind (kept _ (by decide)) (kept _ (by decide))
      (kept _ (by decide))).mp silent, ?_⟩
    simp only [deploymentPolicyBundle, firstOutcome, resolve, score, deferred, speaks]
  · obtain ⟨setsField, given⟩ := region_opinions _ speaks
    have object : ∃ props, original.payload = .obj props := by
      cases held : original.payload with
      | obj props => exact ⟨props, rfl⟩
      | _ =>
          rw [held] at given
          cases given
    obtain ⟨minted, kept⟩ := reads setsField object
    rw [score_congr kind (kept _ (by decide))] at score
    rw [defer_congr kind (kept _ (by decide)) (kept _ (by decide))] at defer
    have small := rampSilent_congr kind (kept _ (by decide)) (kept _ (by decide)) ramp
    refine ⟨minted, (stateGuards_congr kind (kept _ (by decide)) (kept _ (by decide))
      (kept _ (by decide))).mp silent, ?_⟩
    simp only [deploymentPolicyBundle, firstOutcome, resolve, score, defer, small, speaks]

/-- A deploy that executes after at most one clamp executes in one call with the clamped payload. -/
theorem deploy_composes {call : Call DeploymentState} {instant : JsNumber → Prop}
    {trace : List ShellEvent} {outcome : Except Thrown AdjudicateAndAuditResult}
    (policy : call.policy = deploymentPolicyBundle host clock)
    (once : ClampsOnce host clock (rewriteGuards host clock) (call.state.authority = none)
      "deployment.approval.request" call clamped)
    (calm : CalmCall call instant trace)
    (run : Runs (adjudicateAndAudit host call) trace outcome) : ExecutesClamped outcome clamped := by
  obtain ⟨request, json, verified, reached, executes⟩ := once
  have default : call.policy.default = .refuse := by rw [policy]; rfl
  have finite := @opinions_allFinite host clock call.envelope call.state
    (allFinite_hashed verified.2.2).1
  rw [← policy] at finite
  obtain rfl | ⟨free, guard, listed, rewritten, reason, bases, speaks, rebuilt⟩ := reached
  · obtain ⟨result, rfl, executing, recorded⟩ :=
      unclamped_composes default finite verified calm run executes
    exact ⟨result, rfl, executing, by rw [recorded]⟩
  · have first := executes
    rw [policy] at first
    obtain ⟨admitted, gives⟩ := deploy_yields actionable_execute first
    obtain ⟨minted, silent, answers⟩ :=
      clamp_answers_first request json listed speaks rebuilt admitted.stateGuards gives
    have ignore := @guards_ignoreOrigin host clock
    have unowned (envelope : IntentEnvelope) :
        AllSilent envelope call.state (deploymentPolicyBundle host clock).authGuards := by
      simp only [AllSilent, deploymentPolicyBundle, firstOutcome, enforceDeployOwnership_free free]
    have trusted := admitted.taint
    rw [← policy] at ignore unowned trusted silent answers
    have lenient : call.policy.taint.requiresUncontaminatedOrigin = none := by rw [policy]; rfl
    exact clamp_composes default finite verified calm run ignore lenient unowned minted rebuilt
      silent trusted answers executes

end Composition

end Adjudicate.Deployments
