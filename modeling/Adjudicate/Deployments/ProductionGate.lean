/-
This file shows when a production deploy that executes has its approval, ramp and region.
-/

import Adjudicate.Deployments.Policies
import Adjudicate.Kernel.ListedGuards
import Adjudicate.Primitives.RewriteFrame
import Adjudicate.Shell.Confirmation

namespace Adjudicate.Deployments

open Js Canonical Adjudicate.Core Adjudicate.Kernel Adjudicate.Primitives Adjudicate.Shell
open Adjudicate.Audit (readProp)
open Adjudicate.Effect

/-- Every entry is stored under the key of its own fields. -/
def KeyedByFields (approvals : InsertionMap JsString DeploymentApproval) : Prop :=
  ∀ key approval, approvals.get key = some approval → key = approval.key

theorem keyedByFields_set {approvals : InsertionMap JsString DeploymentApproval}
    (keyed : KeyedByFields approvals) (added : DeploymentApproval) :
    KeyedByFields (approvals.set added.key added) := by
  intro key approval found
  by_cases same : key = added.key
  · rw [same, InsertionMap.get_set_self] at found
    cases found
    exact same
  · rw [InsertionMap.get_set_of_ne same] at found
    exact keyed key approval found

theorem keyedByFields_storeApprovals (approvals : List DeploymentApproval) :
    KeyedByFields (storeApprovals approvals) := by
  have folded (stored : InsertionMap JsString DeploymentApproval) (keyed : KeyedByFields stored) :
      KeyedByFields (approvals.foldl (fun stored approval => stored.set approval.key approval)
        stored) := by
    induction approvals generalizing stored with
    | nil => exact keyed
    | cons approval approvals ih => exact ih _ (keyedByFields_set keyed approval)
  exact folded .empty nofun

/-- No key of a staging approval is the key of a production approval. -/
theorem production_of_key {approval : DeploymentApproval} {rest : JsString}
    (same : approval.key = DeploymentEnvironment.production.text ++ rest) :
    approval.environment = .production := by
  cases known : approval.environment with
  | production => rfl
  | staging =>
      rw [DeploymentApproval.key, known] at same
      have first := congrArg List.head? same
      cases first

/-- Only regions of the requested zone are better than the requested region. -/
theorem greener_zone {zone best : JsString} (entries : Props JsNumber)
    (start : Option JsString × JsNumber)
    (found : (entries.foldl (greenerRegion zone) start).1 = some best) :
    start.1 = some best ∨ regionResidency.lookup best = some zone := by
  induction entries generalizing start with
  | nil => exact .inl found
  | cons entry entries ih =>
      refine (ih _ found).elim (fun chosen => ?_) .inr
      rw [greenerRegion] at chosen
      split at chosen
      · next better =>
          simp only [Bool.and_eq_true, decide_eq_true_eq] at better
          cases chosen
          exact .inr better.1
      · exact .inl chosen

/-- The region is the requested one or lies in its zone. -/
def InZoneOf (requested executed : JsValue) : Prop :=
  executed = requested ∨ ∃ key zone region, requested.toText = .ok key ∧
    regionResidency.lookup key = some zone ∧ executed = .str region ∧
    regionResidency.lookup region = some zone

theorem inZoneOf_greenest {region : JsValue} {greenest : JsString}
    (found : greenestRegionInZone region = .ok (some greenest)) :
    InZoneOf region (.str greenest) := by
  obtain ⟨key, text, later⟩ := bind_eq_ok.mp found
  cases zone : regionResidency.lookup key with
  | none =>
      rw [zone] at later
      cases later
  | some zone' =>
      rw [zone] at later
      obtain ⟨⟨⟩⟩ | listed := greener_zone _ _ (Except.ok.inj later)
      exact .inr ⟨key, zone', greenest, text, zone, rfl, listed⟩

/-- This is the ramp that the guards compare. -/
def rampOf (payload : JsValue) : JsValue := (payload.getOwn "rampPercent").orElse (.num 100)

/-- The confirmation gate compares the release with the latest approved one of its service. -/
def releaseChanged (state : DeploymentState) (payload : JsValue) : Bool :=
  let prior := priorRelease state (payload.getOwn "service") (payload.getOwn "environment")
  differs (payload.getOwn "modelId") (prior.bind DeploymentApproval.modelId) ||
    differs (payload.getOwn "promptVersion") (prior.bind DeploymentApproval.promptVersion)

/-- An approved approval is found under the key that the payload makes. -/
def HasApproval (state : DeploymentState) (payload : JsValue) : Prop :=
  ∃ approval, approvalFor state payload = .ok (some approval) ∧ approval.decision = .approved

theorem readProp_of_production {payload : JsValue}
    (production : payload.getOwn "environment" = .str "production") (key : JsString) :
    readProp payload key = .ok (payload.getOwn key) := by
  cases payload with
  | undefined => cases production
  | null => cases production
  | _ => rfl

section Guards

variable {host : Host} {clock : JsString} {envelope : IntentEnvelope} {state : DeploymentState}
  (request : envelope.kind = utf16 "deployment.approval.request")

include request

theorem otherKinds_silent : allowResolve.run envelope state = .ok none ∧
    confirmDestructiveRollback.run envelope state = .ok none := by
  have resolve : envelope.kind ≠ utf16 "deployment.approval.resolve" := by
    rw [request]
    decide
  have rollback : envelope.kind ≠ utf16 "deployment.rollback.execute" := by
    rw [request]
    decide
  exact ⟨if_pos resolve, if_pos rollback⟩

omit request in
theorem score_kind (decision : Decision)
    (speaks : escalateRegressionScore.run envelope state = .ok (some decision)) :
    decision.kind = .escalate := createEscalateGuard_escalates decision speaks

variable (production : envelope.payload.getOwn "environment" = .str "production")

include production

theorem staging_silent : deferHighRampStaging.run envelope state = .ok none ∧
    allowStagingNoRampOrLowRamp.run envelope state = .ok none := by
  simp only [deferHighRampStaging, allowStagingNoRampOrLowRamp, named, request, ne_eq,
    not_true_eq_false, if_false, readProp_of_production production, ok_bind, production]
  exact ⟨rfl, rfl⟩

theorem clampProductionRamp_run : (clampProductionRamp host clock).run envelope state = (do
    if (← (rampOf envelope.payload).toNumber).atMost maxProductionRampPercent then return none
    let rewritten ← remint host clock envelope
      (withField envelope.payload "rampPercent" (.num maxProductionRampPercent))
    return some (.rewrite rewritten
      (utf16 "Production ramp clamped from " ++ (← (rampOf envelope.payload).toText) ++
        utf16 "% to " ++ maxProductionRampPercent.toString ++ utf16 "%.")
      [basis .business "quantity_capped"
        (some [("requested", rampOf envelope.payload),
          ("cap", .num maxProductionRampPercent)])])) := by
  simp only [clampProductionRamp, requestedRamp, named, request, ne_eq, not_true_eq_false, if_false,
    readProp_of_production production, ok_bind, production]
  rfl

theorem clampProductionRamp_silent
    (silent : (clampProductionRamp host clock).run envelope state = .ok none) :
    ∃ ramp, (rampOf envelope.payload).toNumber = .ok ramp ∧
      ramp.atMost maxProductionRampPercent = true := by
  rw [clampProductionRamp_run request production] at silent
  obtain ⟨ramp, converted, answered⟩ := bind_eq_ok.mp silent
  refine ⟨ramp, converted, ?_⟩
  by_contra exceeds
  rw [if_neg exceeds] at answered
  obtain ⟨rewritten, -, later⟩ := bind_eq_ok.mp answered
  obtain ⟨text, -, ⟨⟩⟩ := bind_eq_ok.mp later

theorem clampProductionRamp_speaks (decision : Decision)
    (speaks : (clampProductionRamp host clock).run envelope state = .ok (some decision)) :
    ∃ ramp rewritten reason bases, (rampOf envelope.payload).toNumber = .ok ramp ∧
      ramp.atMost maxProductionRampPercent = false ∧
      remint host clock envelope
        (withField envelope.payload "rampPercent" (.num maxProductionRampPercent)) =
          .ok rewritten ∧
      decision = .rewrite rewritten reason bases := by
  rw [clampProductionRamp_run request production] at speaks
  obtain ⟨ramp, converted, answered⟩ := bind_eq_ok.mp speaks
  cases exceeds : ramp.atMost maxProductionRampPercent with
  | true =>
      rw [if_pos exceeds] at answered
      cases answered
  | false =>
      rw [if_neg (Bool.not_eq_true _ ▸ exceeds)] at answered
      obtain ⟨rewritten, minted, later⟩ := bind_eq_ok.mp answered
      obtain ⟨text, -, ⟨⟩⟩ := bind_eq_ok.mp later
      exact ⟨ramp, rewritten, _, _, converted, exceeds, minted, rfl⟩

/-- The region guard substitutes the greenest region of the zone. -/
theorem clampToGreenestRegion_speaks (decision : Decision)
    (speaks : (clampToGreenestRegion host clock).run envelope state = .ok (some decision)) :
    ∃ greenest rewritten reason bases,
      greenestRegionInZone (envelope.payload.getOwn "region") = .ok (some greenest) ∧
      remint host clock envelope (withField envelope.payload "region" (.str greenest)) =
        .ok rewritten ∧
      decision = .rewrite rewritten reason bases := by
  simp only [clampToGreenestRegion, named, request, ne_eq, not_true_eq_false, if_false,
    readProp_of_production production, ok_bind] at speaks
  split at speaks
  · cases speaks
  · obtain ⟨greener, found, answered⟩ := bind_eq_ok.mp speaks
    cases greener with
    | none => cases answered
    | some greenest =>
        obtain ⟨rewritten, minted, later⟩ := bind_eq_ok.mp answered
        obtain ⟨text, -, ⟨⟩⟩ := bind_eq_ok.mp later
        exact ⟨greenest, rewritten, _, _, found, minted, rfl⟩

theorem confirmModelOrPromptChange_silent
    (silent : confirmModelOrPromptChange.run envelope state = .ok none) :
    releaseChanged state envelope.payload = false := by
  simp only [confirmModelOrPromptChange, named, request, ne_eq, not_true_eq_false, if_false,
    readProp_of_production production, ok_bind] at silent
  rw [releaseChanged]
  split at silent
  · next unset =>
      obtain ⟨model, prompt⟩ := (Bool.and_eq_true _ _).mp unset
      cases modelId : envelope.payload.getOwn "modelId" <;> rw [modelId] at model <;> cases model
      cases version : envelope.payload.getOwn "promptVersion" <;> rw [version] at prompt <;>
        cases prompt
      rfl
  · split at silent
    · next same =>
        rw [Bool.or_eq_false_iff]
        simpa only [Bool.and_eq_true, Bool.not_eq_true'] using same
    · obtain ⟨model, -, later⟩ := bind_eq_ok.mp silent
      obtain ⟨prompt, -, ⟨⟩⟩ := bind_eq_ok.mp later

theorem confirmModelOrPromptChange_speaks (decision : Decision)
    (speaks : confirmModelOrPromptChange.run envelope state = .ok (some decision)) :
    decision.kind = .requestConfirmation ∧ releaseChanged state envelope.payload = true := by
  simp only [confirmModelOrPromptChange, named, request, ne_eq, not_true_eq_false, if_false,
    readProp_of_production production, ok_bind] at speaks
  split at speaks
  · cases speaks
  · split at speaks
    · cases speaks
    · next changed =>
        obtain ⟨model, -, later⟩ := bind_eq_ok.mp speaks
        obtain ⟨prompt, -, ⟨⟩⟩ := bind_eq_ok.mp later
        refine ⟨rfl, ?_⟩
        rw [releaseChanged, Bool.or_eq_true]
        simpa only [Bool.and_eq_true, Bool.not_eq_true', not_and_or, Bool.not_eq_false] using changed

/-- The approval gate stops a deploy. -/
theorem escalateProductionWithoutApproval_stops (decision : Decision)
    (speaks : escalateProductionWithoutApproval.run envelope state = .ok (some decision)) :
    decision.kind = .refuse ∨ decision.kind = .escalate := by
  simp only [escalateProductionWithoutApproval, named, request, ne_eq, not_true_eq_false, if_false,
    readProp_of_production production, ok_bind, production] at speaks
  obtain ⟨found, -, answered⟩ := bind_eq_ok.mp speaks
  cases found with
  | some approval =>
      dsimp only at answered
      split at answered
      · cases answered
      · cases answered
        exact .inl rfl
  | none =>
      obtain ⟨service, -, later⟩ := bind_eq_ok.mp answered
      obtain ⟨sha, -, ⟨⟩⟩ := bind_eq_ok.mp later
      exact .inr rfl

theorem allowApprovedProduction_speaks (decision : Decision)
    (speaks : allowApprovedProduction.run envelope state = .ok (some decision)) :
    decision.kind = .execute ∧ HasApproval state envelope.payload := by
  simp only [allowApprovedProduction, named, request, ne_eq, not_true_eq_false, if_false,
    readProp_of_production production, ok_bind, production] at speaks
  obtain ⟨found, lookup, answered⟩ := bind_eq_ok.mp speaks
  cases found with
  | none => cases answered
  | some approval =>
      cases verdict : approval.decision with
      | rejected =>
          simp only [verdict] at answered
          cases answered
      | approved =>
          simp only [verdict] at answered
          cases answered
          exact ⟨rfl, approval, lookup, verdict⟩

end Guards

section Kernel

variable {host : Host} {clock : JsString} {envelope : IntentEnvelope} {state : DeploymentState}
  {kill : KillSwitchState} {wanted : Decision → Prop}

theorem refuseUnknownEnvironment_refuses (decision : Decision)
    (speaks : refuseUnknownEnvironment.run envelope state = .ok (some decision)) :
    decision.kind = .refuse := by
  obtain ⟨environment, -, answered⟩ := bind_eq_ok.mp speaks
  split at answered
  · split at answered <;> cases answered
    rfl
  · split at answered
    · cases answered
    · split at answered <;> cases answered
      rfl

theorem refuseEmptyGitSha_refuses (decision : Decision)
    (speaks : refuseEmptyGitSha.run envelope state = .ok (some decision)) :
    decision.kind = .refuse := by
  have missing {key detail : JsString} {rest : Except Thrown (Option Decision)}
      (answered : (readProp envelope.payload key >>= fun sha =>
        if isEmptySha sha then pure (some (gitShaMissing detail)) else rest) =
          .ok (some decision)) : decision.kind = .refuse ∨ rest = .ok (some decision) := by
    obtain ⟨sha, -, later⟩ := bind_eq_ok.mp answered
    split at later
    · cases later
      exact .inl rfl
    · exact .inr later
  have rollback (answered : (if envelope.kind = utf16 "deployment.rollback.execute" then
        readProp envelope.payload "toGitSha" >>= fun sha =>
          if isEmptySha sha then pure (some (gitShaMissing "toGitSha is required.")) else .ok none
      else .ok none) = .ok (some decision)) : decision.kind = .refuse := by
    split at answered
    · exact (missing answered).elim id fun silent => nomatch silent
    · cases answered
  change (if _ then _ else _) = _ at speaks
  split at speaks
  · exact (missing speaks).elim id rollback
  · exact rollback speaks

theorem stateGuards_refuse : ∀ guard ∈ (deploymentPolicyBundle host clock).stateGuards,
    ∀ decision, guard.run envelope state = .ok (some decision) → decision.kind = .refuse :=
  List.forall_mem_cons.mpr ⟨refuseUnknownEnvironment_refuses,
    List.forall_mem_singleton.mpr refuseEmptyGitSha_refuses⟩

/-- What goes on is admitted and comes from a business guard. -/
theorem deploy_yields (actionable : Actionable wanted)
    (yields : Yields wanted
      (adjudicate host envelope state kill (deploymentPolicyBundle host clock))) :
    Admitted host envelope state kill (deploymentPolicyBundle host clock) ∧
      Gives wanted (firstOutcome envelope state (deploymentPolicyBundle host clock).business) := by
  have never {guard : Guard DeploymentState}
      (refuses : ∀ decision, guard.run envelope state = .ok (some decision) →
        decision.kind = .refuse) : ¬Gives wanted (guard.run envelope state) :=
    never_of_kind actionable.not_refuse refuses
  have stateNever : ∀ guard ∈ (deploymentPolicyBundle host clock).stateGuards,
      ¬Gives wanted (guard.run envelope state) :=
    fun guard listed => never (stateGuards_refuse guard listed)
  have authNever : ∀ guard ∈ (deploymentPolicyBundle host clock).authGuards,
      ¬Gives wanted (guard.run envelope state) :=
    List.forall_mem_singleton.mpr (never createInjectedAuthorityGuard_refuses)
  exact ((business_gives_iff actionable stateNever authNever rfl).mp yields).imp_right
    (gives_of_speaks actionable)

variable (request : envelope.kind = utf16 "deployment.approval.request")
  (production : envelope.payload.getOwn "environment" = .str "production")

include request production

theorem ramp_kind (decision : Decision)
    (speaks : (clampProductionRamp host clock).run envelope state = .ok (some decision)) :
    decision.kind = .rewrite := by
  obtain ⟨_, _, _, _, -, -, -, rfl⟩ := clampProductionRamp_speaks request production decision speaks
  rfl

theorem region_kind (decision : Decision)
    (speaks : (clampToGreenestRegion host clock).run envelope state = .ok (some decision)) :
    decision.kind = .rewrite := by
  obtain ⟨_, _, _, _, -, -, rfl⟩ :=
    clampToGreenestRegion_speaks request production decision speaks
  rfl

/-- An execution has an approval for its key, a small ramp and an unchanged release. -/
theorem deploy_executes
    (gives : Gives (·.kind = .execute)
      (firstOutcome envelope state (deploymentPolicyBundle host clock).business)) :
    (∃ ramp, (rampOf envelope.payload).toNumber = .ok ramp ∧
        ramp.atMost maxProductionRampPercent = true) ∧
      releaseChanged state envelope.payload = false ∧ HasApproval state envelope.payload := by
  obtain ⟨resolve, rollback⟩ := @otherKinds_silent envelope state request
  obtain ⟨defer, staging⟩ := @staging_silent envelope state request production
  have other {kind : DecisionKind} (differs : kind ≠ .execute) (decision : Decision)
      (same : decision.kind = .execute) : decision.kind ≠ kind := same ▸ differs.symm
  have gate : ¬Gives (·.kind = .execute) (escalateProductionWithoutApproval.run envelope state) := by
    rintro ⟨decision, speaks, executes⟩
    obtain stops | stops :=
      escalateProductionWithoutApproval_stops request production decision speaks
    · exact other (by decide) decision executes stops
    · exact other (by decide) decision executes stops
  rw [deploymentPolicyBundle, gives_later_iff (never_of_silent resolve),
    gives_later_iff (never_of_kind (other (by decide)) score_kind),
    gives_later_iff (never_of_silent defer),
    gives_later_iff (never_of_kind (other (by decide)) (ramp_kind request production)),
    gives_later_iff (never_of_kind (other (by decide)) (region_kind request production)),
    gives_later_iff (never_of_kind (other (by decide))
      fun decision speaks => (confirmModelOrPromptChange_speaks request production decision speaks).1),
    gives_later_iff gate, gives_later_iff (never_of_silent rollback),
    gives_later_iff (never_of_silent staging), gives_cons_iff] at gives
  obtain ⟨-, -, -, ramp, -, confirm, -, -, -, ⟨decision, speaks, -⟩ | ⟨-, later⟩⟩ := gives
  · exact ⟨clampProductionRamp_silent request production ramp,
      confirmModelOrPromptChange_silent request production confirm,
      (allowApprovedProduction_speaks request production decision speaks).2⟩
  · exact (not_gives_nil later).elim

/-- A request for confirmation concerns a small ramp and a changed release. -/
theorem deploy_asks
    (gives : Gives (·.kind = .requestConfirmation)
      (firstOutcome envelope state (deploymentPolicyBundle host clock).business)) :
    (∃ ramp, (rampOf envelope.payload).toNumber = .ok ramp ∧
        ramp.atMost maxProductionRampPercent = true) ∧
      releaseChanged state envelope.payload = true := by
  obtain ⟨resolve, rollback⟩ := @otherKinds_silent envelope state request
  obtain ⟨defer, staging⟩ := @staging_silent envelope state request production
  have other {kind : DecisionKind} (differs : kind ≠ .requestConfirmation) (decision : Decision)
      (same : decision.kind = .requestConfirmation) : decision.kind ≠ kind := same ▸ differs.symm
  have gate : ¬Gives (·.kind = .requestConfirmation)
      (escalateProductionWithoutApproval.run envelope state) := by
    rintro ⟨decision, speaks, asks⟩
    obtain stops | stops :=
      escalateProductionWithoutApproval_stops request production decision speaks
    · exact other (by decide) decision asks stops
    · exact other (by decide) decision asks stops
  rw [deploymentPolicyBundle, gives_later_iff (never_of_silent resolve),
    gives_later_iff (never_of_kind (other (by decide)) score_kind),
    gives_later_iff (never_of_silent defer),
    gives_later_iff (never_of_kind (other (by decide)) (ramp_kind request production)),
    gives_later_iff (never_of_kind (other (by decide)) (region_kind request production)),
    gives_cons_iff] at gives
  obtain ⟨-, -, -, ramp, -, ⟨decision, speaks, -⟩ | ⟨-, later⟩⟩ := gives
  · exact ⟨clampProductionRamp_silent request production ramp,
      (confirmModelOrPromptChange_speaks request production decision speaks).2⟩
  · rw [gives_later_iff gate, gives_later_iff (never_of_silent rollback),
      gives_later_iff (never_of_silent staging),
      gives_later_iff (never_of_kind (other (by decide)) fun decision speaks =>
        (allowApprovedProduction_speaks request production decision speaks).1)] at later
    exact (not_gives_nil later.2.2.2.2).elim

/-- Only the two clamps substitute the envelope, and each changes its own field. -/
theorem deploy_rewrites {rewritten : IntentEnvelope}
    (gives : Gives (RewritesTo rewritten)
      (firstOutcome envelope state (deploymentPolicyBundle host clock).business)) :
    (∃ ramp, (rampOf envelope.payload).toNumber = .ok ramp ∧
        ramp.atMost maxProductionRampPercent = false ∧
        remint host clock envelope
          (withField envelope.payload "rampPercent" (.num maxProductionRampPercent)) =
            .ok rewritten) ∨
      (∃ ramp, (rampOf envelope.payload).toNumber = .ok ramp ∧
        ramp.atMost maxProductionRampPercent = true) ∧
        ∃ greenest, InZoneOf (envelope.payload.getOwn "region") (.str greenest) ∧
          remint host clock envelope (withField envelope.payload "region" (.str greenest)) =
            .ok rewritten := by
  obtain ⟨resolve, rollback⟩ := @otherKinds_silent envelope state request
  obtain ⟨defer, staging⟩ := @staging_silent envelope state request production
  have other {kind : DecisionKind} (differs : kind ≠ .rewrite) (decision : Decision)
      (same : RewritesTo rewritten decision) : decision.kind ≠ kind := by
    obtain ⟨_, _, rfl⟩ := same
    exact differs.symm
  have gate : ¬Gives (RewritesTo rewritten)
      (escalateProductionWithoutApproval.run envelope state) := by
    rintro ⟨decision, speaks, rewrites⟩
    obtain stops | stops :=
      escalateProductionWithoutApproval_stops request production decision speaks
    · exact other (by decide) decision rewrites stops
    · exact other (by decide) decision rewrites stops
  rw [deploymentPolicyBundle, gives_later_iff (never_of_silent resolve),
    gives_later_iff (never_of_kind (other (by decide)) score_kind),
    gives_later_iff (never_of_silent defer), gives_cons_iff] at gives
  obtain ⟨-, -, -, ⟨decision, speaks, _, _, rfl⟩ | ⟨ramp, later⟩⟩ := gives
  · obtain ⟨ramp, minted, reason, bases, converted, exceeds, mints, ⟨⟩⟩ :=
      clampProductionRamp_speaks request production _ speaks
    exact .inl ⟨ramp, converted, exceeds, mints⟩
  · rw [gives_cons_iff] at later
    refine .inr ⟨clampProductionRamp_silent request production ramp, ?_⟩
    obtain ⟨decision, speaks, _, _, rfl⟩ | ⟨-, rest⟩ := later
    · obtain ⟨greenest, minted, reason, bases, found, mints, ⟨⟩⟩ :=
        clampToGreenestRegion_speaks request production _ speaks
      exact ⟨greenest, inZoneOf_greenest found, mints⟩
    · rw [gives_later_iff (never_of_kind (other (by decide)) fun decision speaks =>
          (confirmModelOrPromptChange_speaks request production decision speaks).1),
        gives_later_iff gate, gives_later_iff (never_of_silent rollback),
        gives_later_iff (never_of_silent staging),
        gives_later_iff (never_of_kind (other (by decide)) fun decision speaks =>
          (allowApprovedProduction_speaks request production decision speaks).1)] at rest
      exact (not_gives_nil rest.2.2.2.2.2).elim

end Kernel

/-- The approval is approved for the service, the environment and the commit of the payload. -/
def ApprovedFor (state : DeploymentState) (payload : JsValue) : Prop :=
  ∃ key approval, state.approvals.get key = some approval ∧ approval.decision = .approved ∧
    payload.getOwn "service" = .str approval.service ∧
    payload.getOwn "environment" = .str approval.environment.text ∧
    payload.getOwn "gitSha" = .str approval.gitSha

/-- The state holds the approval, the ramp is a small number and the region keeps its zone. -/
structure DeploySafe (state : DeploymentState) (requested executed : JsValue) : Prop where
  approved : ApprovedFor state requested
  ramp : ∃ ramp, executed.getOwn "rampPercent" = .num ramp ∧
    ramp.atMost maxProductionRampPercent = true
  region : InZoneOf (requested.getOwn "region") (executed.getOwn "region")

/-- The payload makes no key that stands for another approval, a changed release has its approval,
and the ramp is a number or exceeds the cap. -/
structure DeployChecked (state : DeploymentState) (payload : JsValue) : Prop where
  release : releaseChanged state payload = false ∨ HasApproval state payload
  named : ∀ approval, approvalFor state payload = .ok (some approval) →
    payload.getOwn "service" = .str approval.service ∧
      payload.getOwn "gitSha" = .str approval.gitSha
  ramp : (∃ ramp, payload.getOwn "rampPercent" = .num ramp) ∨
    ∀ ramp, (rampOf payload).toNumber = .ok ramp → ramp.atMost maxProductionRampPercent = false

section Payloads

variable {state : DeploymentState} {payload : JsValue} {approvals : List DeploymentApproval}
  (production : payload.getOwn "environment" = .str "production")

include production

theorem approvalFor_eq (key : JsString)
    (made : approvalKey (payload.getOwn "service") (.str "production") (payload.getOwn "gitSha") =
      .ok key) : approvalFor state payload = .ok (state.approvals.get key) := by
  simp only [approvalFor, readProp_of_production production, ok_bind, production, made]
  rfl

/-- The state holds the exact approval when the found one is approved for the payload's own fields. -/
theorem approvedFor_iff (stored : state.approvals = storeApprovals approvals) :
    ApprovedFor state payload ↔ ∃ approval, approvalFor state payload = .ok (some approval) ∧
      approval.decision = .approved ∧ payload.getOwn "service" = .str approval.service ∧
      payload.getOwn "gitSha" = .str approval.gitSha := by
  have keyed := keyedByFields_storeApprovals approvals
  rw [← stored] at keyed
  constructor
  · rintro ⟨key, approval, found, verdict, service, environment, sha⟩
    obtain rfl := keyed key approval found
    refine ⟨approval, ?_, verdict, service, sha⟩
    rw [approvalFor_eq production approval.key, found]
    rw [service, sha, ← production, environment]
    rfl
  · rintro ⟨approval, lookup, verdict, service, sha⟩
    have made : approvalKey (payload.getOwn "service") (.str "production")
        (payload.getOwn "gitSha") = .ok (DeploymentEnvironment.production.text ++
          (utf16 "/" ++ approval.service ++ utf16 "/" ++ approval.gitSha)) := by
      rw [service, sha]
      rfl
    rw [approvalFor_eq production _ made] at lookup
    have found := Except.ok.inj lookup
    have environment := production_of_key (keyed _ _ found).symm
    exact ⟨_, approval, found, verdict, service, by rw [production, environment]; rfl, sha⟩

omit production in
/-- Of what the ramp guard lets through, exactly the numbers are safe. -/
theorem ramp_safe_iff {ramp : JsNumber} (converted : (rampOf payload).toNumber = .ok ramp)
    (small : ramp.atMost maxProductionRampPercent = true) :
    (∃ number, payload.getOwn "rampPercent" = .num number ∧
        number.atMost maxProductionRampPercent = true) ↔
      (∃ number, payload.getOwn "rampPercent" = .num number) ∨
        ∀ number, (rampOf payload).toNumber = .ok number →
          number.atMost maxProductionRampPercent = false := by
  constructor
  · rintro ⟨number, held, -⟩
    exact .inl ⟨number, held⟩
  · rintro (⟨number, held⟩ | exceeds)
    · refine ⟨number, held, ?_⟩
      rw [rampOf, held] at converted
      cases converted
      exact small
    · rw [exceeds ramp converted] at small
      cases small

/-- A deploy with an admitted ramp and region is safe exactly when its request was checked. -/
theorem deploySafe_iff_checked (stored : state.approvals = storeApprovals approvals)
    {executed : JsValue} (zone : InZoneOf (payload.getOwn "region") (executed.getOwn "region"))
    (ramps : (∃ number, executed.getOwn "rampPercent" = .num number ∧
        number.atMost maxProductionRampPercent = true) ↔
      (∃ number, payload.getOwn "rampPercent" = .num number) ∨
        ∀ number, (rampOf payload).toNumber = .ok number →
          number.atMost maxProductionRampPercent = false)
    (gate : releaseChanged state payload = true ∨ HasApproval state payload) :
    DeploySafe state payload executed ↔ DeployChecked state payload := by
  have exact := approvedFor_iff production stored
  constructor
  · intro safe
    obtain ⟨approval, lookup, verdict, names⟩ := exact.mp safe.approved
    refine ⟨.inr ⟨approval, lookup, verdict⟩, fun other found => ?_, ramps.mp safe.ramp⟩
    rw [lookup] at found
    cases found
    exact names
  · intro checked
    obtain ⟨approval, lookup, verdict⟩ : HasApproval state payload := by
      obtain changed | held := gate
      · refine checked.release.resolve_left ?_
        rw [changed]
        exact nofun
      · exact held
    exact ⟨exact.mpr ⟨approval, lookup, verdict, checked.named approval lookup⟩,
      ramps.mpr checked.ramp, zone⟩

end Payloads

theorem obj_of_production {payload : JsValue}
    (production : payload.getOwn "environment" = .str "production") :
    ∃ props, payload = .obj props := by
  cases payload with
  | obj props => exact ⟨props, rfl⟩
  | _ => cases production

theorem remint_payload {host : Host} {clock : JsString} {original rewritten : IntentEnvelope}
    {payload : JsValue} (minted : remint host clock original payload = .ok rewritten) :
    rewritten.kind = original.kind ∧ rewritten.payload = payload := by
  obtain ⟨fields, -⟩ := remint_fields minted
  have kind := congrArg HashedFields.kind fields
  have payload := congrArg HashedFields.payload fields
  exact ⟨kind, payload⟩

section Clamped

variable {state : DeploymentState} {payload : JsValue} (json : payload.IsJson)
  (production : payload.getOwn "environment" = .str "production") {field : JsString} {value : JsValue}

include json production

theorem getOwn_clamped (key : JsString) :
    (withField payload field value).getOwn key = if key = field then value else payload.getOwn key := by
  obtain ⟨props, rfl⟩ := obj_of_production production
  exact getOwn_withField json.1 field key value

/-- No clamp changes what the approval and the confirmation gates read. -/
theorem gates_withField (clamps : field = utf16 "rampPercent" ∨ field = utf16 "region") :
    (withField payload field value).getOwn "environment" = .str "production" ∧
      approvalFor state (withField payload field value) = approvalFor state payload ∧
      releaseChanged state (withField payload field value) = releaseChanged state payload := by
  have kept (key : JsString) (ramp : key ≠ utf16 "rampPercent") (region : key ≠ utf16 "region") :
      (withField payload field value).getOwn key = payload.getOwn key := by
    rw [getOwn_clamped json production, if_neg]
    rintro rfl
    exact clamps.elim ramp region
  have environment := (kept (utf16 "environment") (by decide) (by decide)).trans production
  refine ⟨environment, ?_, ?_⟩
  · simp only [approvalFor, readProp_of_production environment, readProp_of_production production,
      kept (utf16 "service") (by decide) (by decide),
      kept (utf16 "environment") (by decide) (by decide),
      kept (utf16 "gitSha") (by decide) (by decide)]
  · simp only [releaseChanged, kept (utf16 "service") (by decide) (by decide),
      kept (utf16 "environment") (by decide) (by decide),
      kept (utf16 "modelId") (by decide) (by decide),
      kept (utf16 "promptVersion") (by decide) (by decide)]

end Clamped

section Runs

variable {host : Host} {clock : JsString} {call : Call DeploymentState} {trace : List ShellEvent}
  {result : AdjudicateAndAuditResult} {approvals : List DeploymentApproval}

/-- A production deploy that executes is safe exactly when its request was checked. -/
theorem deploy_safe_iff (policy : call.policy = deploymentPolicyBundle host clock)
    (stored : call.state.approvals = storeApprovals approvals)
    (request : call.envelope.kind = utf16 "deployment.approval.request")
    (json : call.envelope.payload.IsJson)
    (production : call.envelope.payload.getOwn "environment" = .str "production")
    (run : Runs (adjudicateAndAudit host call) trace (.ok result)) (executes : result.Executing) :
    DeploySafe call.state call.envelope.payload result.record.envelope.payload ↔
      DeployChecked call.state call.envelope.payload := by
  have cases := executing_cases host call run executes
  rw [policy] at cases
  obtain ⟨⟨bases, first⟩, recorded⟩ | ⟨⟨prompt, bases, first⟩, -, recorded⟩ |
    ⟨reason, bases, second, first, again⟩ := cases
  · obtain ⟨⟨ramp, converted, small⟩, -, approved⟩ :=
      deploy_executes request production (deploy_yields actionable_execute ⟨_, first, rfl⟩).2
    rw [recorded]
    exact deploySafe_iff_checked production stored (.inl rfl) (ramp_safe_iff converted small)
      (.inr approved)
  · obtain ⟨⟨ramp, converted, small⟩, changed⟩ :=
      deploy_asks request production (deploy_yields actionable_requestConfirmation ⟨_, first, rfl⟩).2
    rw [recorded]
    exact deploySafe_iff_checked production stored (.inl rfl) (ramp_safe_iff converted small)
      (.inl changed)
  · have approved {field : JsString} {value : JsValue}
        (clamps : field = utf16 "rampPercent" ∨ field = utf16 "region")
        (minted : remint host clock call.envelope (withField call.envelope.payload field value) =
          .ok result.record.envelope) : HasApproval call.state call.envelope.payload := by
      obtain ⟨kind, payload⟩ := remint_payload minted
      obtain ⟨environment, lookup, -⟩ :=
        @gates_withField call.state call.envelope.payload json production field value clamps
      rw [← payload] at environment lookup
      obtain ⟨-, -, approval, found, verdict⟩ := deploy_executes (kind.trans request) environment
        (deploy_yields actionable_execute ⟨_, again, rfl⟩).2
      exact ⟨approval, lookup ▸ found, verdict⟩
    obtain ⟨ramp, converted, exceeds, minted⟩ |
      ⟨⟨ramp, converted, small⟩, greenest, zone, minted⟩ := deploy_rewrites request production
        (deploy_yields (actionable_rewritesTo result.record.envelope) ⟨_, first, _, _, rfl⟩).2
    · have payload := (remint_payload minted).2
      refine deploySafe_iff_checked production stored ?_ (iff_of_true ?_ (.inr ?_))
        (.inr (approved (.inl rfl) minted))
      · rw [payload, getOwn_clamped json production, if_neg (by decide)]
        exact .inl rfl
      · refine ⟨maxProductionRampPercent, ?_, by decide +kernel⟩
        rw [payload, getOwn_clamped json production, if_pos rfl]
      · intro number same
        rw [converted] at same
        cases same
        exact exceeds
    · have payload := (remint_payload minted).2
      refine deploySafe_iff_checked production stored ?_ ?_ (.inr (approved (.inr rfl) minted))
      · rw [payload, getOwn_clamped json production, if_pos rfl]
        exact zone
      · rw [payload, getOwn_clamped json production, if_neg (by decide)]
        exact ramp_safe_iff converted small

end Runs

/-- The text goes on from the optional model. -/
def deployText (model : JsString) : JsString :=
  utf16 "\x7b\"actor\":\x7b\"principal\":\"llm\",\"sessionId\":\"s-1\"\x7d,\"kind\":\"deployment.approval.request\"," ++
    utf16 "\"nonce\":\"n-1\",\"origin\":\"LLM\",\"payload\":\x7b\"environment\":\"production\",\"gitSha\":\"0a1b2c3d\"," ++
    model ++ utf16 "\"rampPercent\":10,\"service\":\"web\"\x7d,\"taint\":\"UNTRUSTED\",\"version\":2\x7d"

/-- The digests of the two deploys are their SHA-256 digests. -/
def deployHost : Host := .ofDigests
  [(deployText [], "516f48881fa083e789b8020e69feecf03b2a4804a97f5c9e0f7d76796e05f90d"),
    (deployText "\"modelId\":\"model-x@3\",",
      "141a38cd4cd4e27949220fd823c94fb3474ee738be9b304b6adc7c868a8bc4da")]

def deployEnvelope (model : Props JsValue) (intentHash : JsString) : IntentEnvelope where
  version := 2
  kind := "deployment.approval.request"
  payload := .obj ([(utf16 "environment", .str "production"), (utf16 "gitSha", .str "0a1b2c3d")] ++
    model ++ [(utf16 "rampPercent", .num 10), (utf16 "service", .str "web")])
  nonce := "n-1"
  actor := { principal := .llm, sessionId := "s-1", role := none, attestation := none }
  taint := .untrusted
  origin := .llm
  resourceRefs := none
  createdAt := "2026-01-01T00:00:00.000Z"
  intentHash := intentHash

def plainDeploy : IntentEnvelope :=
  deployEnvelope [] "516f48881fa083e789b8020e69feecf03b2a4804a97f5c9e0f7d76796e05f90d"

def modelDeploy : IntentEnvelope :=
  deployEnvelope [("modelId", .str "model-x@3")]
    "141a38cd4cd4e27949220fd823c94fb3474ee738be9b304b6adc7c868a8bc4da"

def webApproval : DeploymentApproval where
  service := "web"
  environment := .production
  gitSha := "0a1b2c3d"
  approver := "user-1"
  decision := .approved
  «at» := "2026-01-01T00:00:00.000Z"
  modelId := none
  promptVersion := none

def deployCall (approvals : List DeploymentApproval) (deps : AdjudicateAndAuditDeps)
    (envelope : IntentEnvelope) : Call DeploymentState where
  envelope := envelope
  state := { approvals := storeApprovals approvals, authority := none }
  policy := deploymentPolicyBundle deployHost "2026-01-01T00:00:00.000Z"
  kill := releasedKill
  deps := deps

theorem deploy_safe_plainDeploy :
    ∃ trace result, Runs (adjudicateAndAudit deployHost
        (deployCall [webApproval] sampleDeps plainDeploy)) trace (.ok result) ∧
      (DeploySafe ⟨storeApprovals [webApproval], none⟩ plainDeploy.payload
          result.record.envelope.payload ↔
        DeployChecked ⟨storeApprovals [webApproval], none⟩ plainDeploy.payload) := by
  obtain ⟨trace, result, run, kind⟩ := @calm_run _ _ deployHost
    (deployCall [webApproval] sampleDeps plainDeploy) (·.decision.kind) .execute (by decide +kernel)
  have json : plainDeploy.payload.IsJson :=
    ⟨by decide +kernel, fun _ => trivial, fun _ => trivial,
      fun _ => (by decide +kernel : JsNumber.isFinite 10 = true), fun _ => trivial, trivial⟩
  exact ⟨trace, result, run, @deploy_safe_iff deployHost "2026-01-01T00:00:00.000Z"
    (deployCall [webApproval] sampleDeps plainDeploy) trace result [webApproval] rfl rfl rfl json
    rfl run ((executing_iff_kind deployHost _ run).mpr (.inl kind))⟩

/-- A confirmed deploy of a new model needs no approval. -/
theorem modelDeploy_executes :
    ∃ trace result, Runs (adjudicateAndAudit deployHost
        (deployCall [] (confirmingDeps modelDeploy) modelDeploy)) trace (.ok result) ∧
      result.Executing ∧
      ¬DeploySafe ⟨storeApprovals [], none⟩ modelDeploy.payload result.record.envelope.payload := by
  obtain ⟨trace, result, run, kind⟩ := @calm_run _ _ deployHost
    (deployCall [] (confirmingDeps modelDeploy) modelDeploy) (·.decision.kind) .execute
    (by decide +kernel)
  refine ⟨trace, result, run, (executing_iff_kind deployHost _ run).mpr (.inl kind), ?_⟩
  rintro ⟨⟨key, approval, ⟨⟩, -⟩, -, -⟩

end Adjudicate.Deployments
