/-
This file shows how far the rewrite guards of the packs compose in one call.
-/

import Adjudicate.AccessGovernance.Clamps
import Adjudicate.Deployments.Clamps

namespace Adjudicate.Pack

open Js Canonical Adjudicate.Core Adjudicate.Kernel Adjudicate.Primitives Adjudicate.Shell
open Adjudicate.Effect

/-- A deploy or a valid access request that executes after at most one clamp executes in one call. -/
theorem clamps_compose (host : Host) (clock : JsString)
    (environment : AccessGovernance.AccessEnvironment) (instant : JsNumber → Prop) :
    (∀ (call : Call Deployments.DeploymentState) (clamped : IntentEnvelope)
        (trace : List ShellEvent) (outcome : Except Thrown AdjudicateAndAuditResult),
      call.policy = Deployments.deploymentPolicyBundle host clock →
      ClampsOnce host clock (Deployments.rewriteGuards host clock) (call.state.authority = none)
        "deployment.approval.request" call clamped →
      CalmCall call instant trace → Runs (adjudicateAndAudit host call) trace outcome →
      ExecutesClamped outcome clamped) ∧
      ∀ (call : Call AccessGovernance.AccessState) (clamped : IntentEnvelope)
        (trace : List ShellEvent) (outcome : Except Thrown AdjudicateAndAuditResult),
      call.policy = AccessGovernance.accessPolicyBundle host clock environment →
      AccessGovernance.isPrivilegeLevel (call.envelope.payload.getOwn "privilegeLevel") = true →
      ClampsOnce host clock (AccessGovernance.rewriteGuards host clock environment)
        (call.state.authority = none) "access.request" call clamped →
      CalmCall call instant trace → Runs (adjudicateAndAudit host call) trace outcome →
      ExecutesClamped outcome clamped :=
  ⟨fun _ _ _ _ policy once calm run => Deployments.deploy_composes policy once calm run,
    fun _ _ _ _ policy valid once calm run =>
      AccessGovernance.access_composes policy valid once calm run⟩

def requestedAt : JsString := "2026-01-01T00:00:00.000Z"

def requestText (kind payload : JsString) : JsString :=
  utf16 "\x7b\"actor\":\x7b\"principal\":\"llm\",\"sessionId\":\"s-1\"\x7d,\"kind\":\"" ++ kind ++
    utf16 "\",\"nonce\":\"n-1\",\"origin\":\"LLM\",\"payload\":" ++ payload ++
    utf16 ",\"taint\":\"UNTRUSTED\",\"version\":2\x7d"

def requestEnvelope (kind : JsString) (payload : JsValue) (intentHash : JsString) :
    IntentEnvelope where
  version := 2
  kind := kind
  payload := payload
  nonce := "n-1"
  actor := { principal := .llm, sessionId := "s-1", role := none, attestation := none }
  taint := .untrusted
  origin := .llm
  resourceRefs := none
  createdAt := requestedAt
  intentHash := intentHash

def deployPayload (ramp : JsNumber) (region : Props JsValue) : JsValue :=
  .obj ([(utf16 "environment", .str "production"), (utf16 "gitSha", .str "0a1b2c3d"),
    (utf16 "rampPercent", .num ramp)] ++ region ++ [(utf16 "service", .str "web")])

def deployPayloadText (ramp region : JsString) : JsString :=
  utf16 "\x7b\"environment\":\"production\",\"gitSha\":\"0a1b2c3d\",\"rampPercent\":" ++ ramp ++
    utf16 "," ++ region ++ utf16 "\"service\":\"web\"\x7d"

def accessPayload (level : JsNumber) : JsValue :=
  .obj [("principal", .str "user-1"), ("privilegeLevel", .num level),
    ("resourceId", .str "db.analytics")]

def accessPayloadText (level : JsString) : JsString :=
  utf16 "\x7b\"principal\":\"user-1\",\"privilegeLevel\":" ++ level ++
    utf16 ",\"resourceId\":\"db.analytics\"\x7d"

/-- The digests of the requests are their SHA-256 digests. -/
def clampHost : Host := .ofDigests
  [(requestText "deployment.approval.request" (deployPayloadText "100" []),
      "1cabc4c031d263ad96f4e4a6a6d9260448102d615abfac0a34ab0ce17417fa06"),
    (requestText "deployment.approval.request" (deployPayloadText "25" []),
      "34dab636b8920851e269d28d72d9fc3ec3b21d4a1a567db6bae6972359ff2f15"),
    (requestText "deployment.approval.request"
        (deployPayloadText "100" "\"region\":\"us-east-1\","),
      "c50c4bd2dc0a91da810ae966e36a79489df014082fe19f4f5cf7b46ab411089e"),
    (requestText "deployment.approval.request"
        (deployPayloadText "25" "\"region\":\"us-east-1\","),
      "ab6f2e9840717f4bc4f7a9ae5ae551e722d68156829947d3b7d6cee912785edd"),
    (requestText "deployment.approval.request"
        (deployPayloadText "25" "\"region\":\"us-west-1\","),
      "cf20c7f314ca30f6e06453f25f06e8074b7047d2f029b24d92cc1ca7d80b9310"),
    (requestText "access.request" (accessPayloadText "2"),
      "0a451aff8e160805c217f646941138f906259575a55a5a4b74daa10bfe0c6bfb"),
    (requestText "access.request" (accessPayloadText "1"),
      "4bb3867ae4952eb9aa8283cbd5ca627d464c2803bc8cd07c0445e46e7bdb249d")]

def fullRamp : IntentEnvelope :=
  requestEnvelope "deployment.approval.request" (deployPayload 100 [])
    "1cabc4c031d263ad96f4e4a6a6d9260448102d615abfac0a34ab0ce17417fa06"

def cappedRamp : IntentEnvelope :=
  requestEnvelope "deployment.approval.request" (deployPayload 25 [])
    "34dab636b8920851e269d28d72d9fc3ec3b21d4a1a567db6bae6972359ff2f15"

def adminRequest : IntentEnvelope :=
  requestEnvelope "access.request" (accessPayload 2)
    "0a451aff8e160805c217f646941138f906259575a55a5a4b74daa10bfe0c6bfb"

def writeRequest : IntentEnvelope :=
  requestEnvelope "access.request" (accessPayload 1)
    "4bb3867ae4952eb9aa8283cbd5ca627d464c2803bc8cd07c0445e46e7bdb249d"

def unledgeredDeps : AdjudicateAndAuditDeps := { sampleDeps with ledger := none }

def deployCall (envelope : IntentEnvelope) : Call Deployments.DeploymentState where
  envelope := envelope
  state := { approvals := Deployments.storeApprovals [Deployments.webApproval], authority := none }
  policy := Deployments.deploymentPolicyBundle clampHost requestedAt
  kill := releasedKill
  deps := unledgeredDeps

/-- No text matches the patterns, and no date is read. -/
def plainEnvironment : AccessGovernance.AccessEnvironment where
  ssn := { test := fun _ => false, replaceAll := fun text _ => .ok text }
  email := { test := fun _ => false, replaceAll := fun text _ => .ok text }
  parseDate _ := .nan

/-- The principal may write. -/
def accessCall (envelope : IntentEnvelope) : Call AccessGovernance.AccessState where
  envelope := envelope
  state :=
    { reviews := [("db.analytics::user-1", ⟨"db.analytics", "user-1", .approved, some .write⟩)]
      grants := []
      authority := none }
  policy := AccessGovernance.accessPolicyBundle clampHost requestedAt
    plainEnvironment
  kill := releasedKill
  deps := unledgeredDeps

theorem yields_of_kind {outcome : Except Thrown Decision} {kind : DecisionKind}
    (returns : outcome.map Decision.kind = .ok kind) : Yields (·.kind = kind) outcome := by
  cases outcome with
  | error raised => cases returns
  | ok decision => exact ⟨decision, rfl, Except.ok.inj returns⟩

/-- A guard whose opinion is a rewriting substitutes an envelope. -/
theorem rewrites_of_kind {outcome : Except Thrown (Option Decision)}
    (returns : outcome.map (Option.map Decision.kind) = .ok (some .rewrite)) :
    ∃ rewritten reason bases, outcome = .ok (some (.rewrite rewritten reason bases)) := by
  cases outcome with
  | error raised => cases returns
  | ok opinion =>
      cases opinion with
      | none => cases returns
      | some decision =>
          cases decision with
          | rewrite rewritten reason bases => exact ⟨rewritten, reason, bases, rfl⟩
          | _ => cases returns

theorem calmCall_interpret {S : Type} {host : Host} {call : Call S} (deps : call.deps = unledgeredDeps) :
    CalmCall call (· = 0) ((adjudicateAndAudit host call).interpret calmResponse).1 where
  unledgered := by rw [deps]; rfl
  usable := by rw [deps]; exact nofun
  finite start now first second := by
    rw [first, second]
    decide +kernel
  snapshot := by rw [deps]; exact nofun
  signs := by rw [deps]; exact nofun
  calm := calm_interpret _

/-- A guard that mints the clamped payload clamps. -/
theorem clamps_of_remint {S : Type} {host : Host} {clock : JsString} {guards : List (Guard S)}
    {state : S} {original rewritten clamped : IntentEnvelope} {reason : JsString}
    {bases : List DecisionBasis} {guard : Guard S} (listed : guard ∈ guards)
    (speaks : guard.run original state = .ok (some (.rewrite rewritten reason bases)))
    (minted : remint host clock original clamped.payload = .ok rewritten)
    (rebuilt : rebuild host clock original clamped.payload = .ok clamped) :
    Clamps host clock guards state original clamped := by
  have payload := congrArg HashedFields.payload (remint_fields minted).1
  exact ⟨guard, listed, rewritten, reason, bases, speaks, by rw [payload]; exact rebuilt⟩

theorem rebuild_request {host : Host} {kind given hash : JsString} {first second : JsValue}
    (derived : deriveIntentHash host (requestEnvelope kind second hash) = .ok hash) :
    rebuild host requestedAt (requestEnvelope kind first given) second =
      .ok (requestEnvelope kind second hash) :=
  buildEnvelope_eq_ok.mpr ⟨rfl, rfl, derived⟩

theorem fullRamp_runs :
    deriveIntentHash clampHost fullRamp = .ok fullRamp.intentHash ∧
      deriveIntentHash clampHost cappedRamp = .ok cappedRamp.intentHash ∧
      (adjudicate clampHost cappedRamp (deployCall fullRamp).state (deployCall fullRamp).kill
        (deployCall fullRamp).policy).map Decision.kind = .ok .execute ∧
      ((Deployments.clampProductionRamp clampHost requestedAt).run fullRamp
        (deployCall fullRamp).state).map (Option.map Decision.kind) = .ok (some .rewrite) ∧
      JsNumber.isFinite 100 = true := by
  unfold clampHost deployCall fullRamp cappedRamp requestText deployPayloadText accessPayloadText
  repeat rw [utf16_ofList]
  decide +kernel

theorem fullRamp_clamps :
    Clamps clampHost requestedAt
      (Deployments.rewriteGuards clampHost requestedAt) (deployCall fullRamp).state
      fullRamp cappedRamp := by
  obtain ⟨rewritten, reason, bases, speaks⟩ := rewrites_of_kind fullRamp_runs.2.2.2.1
  have production : fullRamp.payload.getOwn "environment" = .str "production" := rfl
  obtain ⟨ramp, _, _, _, -, -, minted, ⟨⟩⟩ :=
    Deployments.clampProductionRamp_speaks rfl production _ speaks
  have rebuilt : rebuild clampHost requestedAt fullRamp cappedRamp.payload =
      .ok cappedRamp := rebuild_request fullRamp_runs.2.1
  exact clamps_of_remint (List.mem_cons_self ..) speaks minted rebuilt

theorem fullRamp_once :
    ClampsOnce clampHost requestedAt
      (Deployments.rewriteGuards clampHost requestedAt)
      ((deployCall fullRamp).state.authority = none) "deployment.approval.request"
      (deployCall fullRamp) cappedRamp where
  request := rfl
  json := ⟨by decide, fun _ => trivial, fun _ => trivial,
    fun _ => fullRamp_runs.2.2.2.2, fun _ => trivial, trivial⟩
  verified := ⟨rfl, rfl, fullRamp_runs.1⟩
  reached := .inr ⟨rfl, fullRamp_clamps⟩
  executes := yields_of_kind fullRamp_runs.2.2.1

theorem adminRequest_runs :
    deriveIntentHash clampHost adminRequest = .ok adminRequest.intentHash ∧
      deriveIntentHash clampHost writeRequest = .ok writeRequest.intentHash ∧
      (adjudicate clampHost writeRequest (accessCall adminRequest).state
        (accessCall adminRequest).kill (accessCall adminRequest).policy).map Decision.kind =
          .ok .execute ∧
      ((AccessGovernance.reduceToLeastPrivilege clampHost requestedAt).run adminRequest
        (accessCall adminRequest).state).map (Option.map Decision.kind) = .ok (some .rewrite) ∧
      AccessGovernance.levelOf adminRequest.payload = .ok 2 ∧
      AccessGovernance.maxAllowedLevel (accessCall adminRequest).state adminRequest.payload =
        .ok .write ∧
      JsNumber.isFinite 2 = true := by
  unfold clampHost accessCall adminRequest writeRequest requestText deployPayloadText
    accessPayloadText
  repeat rw [utf16_ofList]
  decide +kernel

theorem adminRequest_clamps :
    Clamps clampHost requestedAt
      (AccessGovernance.rewriteGuards clampHost requestedAt plainEnvironment)
      (accessCall adminRequest).state adminRequest writeRequest := by
  obtain ⟨-, -, -, kind, reads, write, -⟩ := adminRequest_runs
  obtain ⟨rewritten, reason, bases, speaks⟩ := rewrites_of_kind kind
  obtain ⟨allowed, _, _, _, ⟨⟩, caps, -, minted, -⟩ :=
    AccessGovernance.reduce_opinions reads _ speaks
  obtain rfl := Except.ok.inj (caps.symm.trans write)
  have rebuilt : rebuild clampHost requestedAt adminRequest writeRequest.payload =
      .ok writeRequest := rebuild_request adminRequest_runs.2.1
  exact clamps_of_remint (List.mem_cons_of_mem _ (List.mem_cons_self ..)) speaks minted rebuilt

theorem adminRequest_once :
    ClampsOnce clampHost requestedAt
      (AccessGovernance.rewriteGuards clampHost requestedAt plainEnvironment)
      ((accessCall adminRequest).state.authority = none) "access.request"
      (accessCall adminRequest) writeRequest where
  request := rfl
  json := ⟨by decide, fun _ => trivial,
    fun _ => adminRequest_runs.2.2.2.2.2.2, fun _ => trivial, trivial⟩
  verified := ⟨rfl, rfl, adminRequest_runs.1⟩
  reached := .inr ⟨rfl, adminRequest_clamps⟩
  executes := yields_of_kind adminRequest_runs.2.2.1

theorem clamps_compose_fullRamp :
    (∃ trace outcome, Runs (adjudicateAndAudit clampHost (deployCall fullRamp)) trace outcome ∧
      ExecutesClamped outcome cappedRamp) ∧
      ∃ trace outcome, Runs (adjudicateAndAudit clampHost (accessCall adminRequest)) trace outcome ∧
        ExecutesClamped outcome writeRequest := by
  have deploys := runs_interpret calmResponse (adjudicateAndAudit clampHost (deployCall fullRamp))
  have grants := runs_interpret calmResponse (adjudicateAndAudit clampHost (accessCall adminRequest))
  obtain ⟨deploy, access⟩ := clamps_compose clampHost requestedAt plainEnvironment
    (· = 0)
  exact ⟨⟨_, _, deploys, deploy _ cappedRamp _ _ rfl fullRamp_once (calmCall_interpret rfl) deploys⟩,
    ⟨_, _, grants, access _ writeRequest _ _ rfl (by decide +kernel) adminRequest_once
      (calmCall_interpret rfl) grants⟩⟩

/-- The region is not the greenest of its zone. -/
def eastDeploy (ramp : JsNumber) (intentHash : JsString) : IntentEnvelope :=
  requestEnvelope "deployment.approval.request"
    (deployPayload ramp [("region", .str "us-east-1")]) intentHash

def westDeploy : IntentEnvelope :=
  requestEnvelope "deployment.approval.request" (deployPayload 25 [("region", .str "us-west-1")])
    "cf20c7f314ca30f6e06453f25f06e8074b7047d2f029b24d92cc1ca7d80b9310"

def fullEast : IntentEnvelope :=
  eastDeploy 100 "c50c4bd2dc0a91da810ae966e36a79489df014082fe19f4f5cf7b46ab411089e"

def cappedEast : IntentEnvelope :=
  eastDeploy 25 "ab6f2e9840717f4bc4f7a9ae5ae551e722d68156829947d3b7d6cee912785edd"

theorem fullEast_runs :
    deriveIntentHash clampHost cappedEast = .ok cappedEast.intentHash ∧
      deriveIntentHash clampHost westDeploy = .ok westDeploy.intentHash ∧
      (∀ guard ∈ Deployments.rewriteGuards clampHost requestedAt,
        (guard.run westDeploy (deployCall fullEast).state).map (Option.map Decision.kind) =
          .ok none) ∧
      ((Deployments.clampProductionRamp clampHost requestedAt).run fullEast
        (deployCall fullEast).state).map (Option.map Decision.kind) = .ok (some .rewrite) ∧
      ((Deployments.clampToGreenestRegion clampHost requestedAt).run cappedEast
        (deployCall fullEast).state).map (Option.map Decision.kind) = .ok (some .rewrite) ∧
      Deployments.greenestRegionInZone (cappedEast.payload.getOwn "region") =
        .ok (some "us-west-1") := by
  unfold clampHost deployCall fullEast cappedEast westDeploy eastDeploy requestText
    deployPayloadText accessPayloadText
  repeat rw [utf16_ofList]
  decide +kernel

theorem fullEast_clamps :
    Clamps clampHost requestedAt
      (Deployments.rewriteGuards clampHost requestedAt) (deployCall fullEast).state
      fullEast cappedEast := by
  obtain ⟨rewritten, reason, bases, speaks⟩ := rewrites_of_kind fullEast_runs.2.2.2.1
  have production : fullEast.payload.getOwn "environment" = .str "production" := rfl
  obtain ⟨ramp, _, _, _, -, -, minted, ⟨⟩⟩ :=
    Deployments.clampProductionRamp_speaks rfl production _ speaks
  have rebuilt : rebuild clampHost requestedAt fullEast cappedEast.payload =
      .ok cappedEast := rebuild_request fullEast_runs.1
  exact clamps_of_remint (List.mem_cons_self ..) speaks minted rebuilt

theorem cappedEast_clamps :
    Clamps clampHost requestedAt
      (Deployments.rewriteGuards clampHost requestedAt) (deployCall fullEast).state
      cappedEast westDeploy := by
  obtain ⟨-, -, -, -, kind, west⟩ := fullEast_runs
  obtain ⟨rewritten, reason, bases, speaks⟩ := rewrites_of_kind kind
  have production : cappedEast.payload.getOwn "environment" = .str "production" := rfl
  obtain ⟨greenest, _, _, _, moves, minted, ⟨⟩⟩ :=
    Deployments.clampToGreenestRegion_speaks rfl production _ speaks
  obtain rfl := Option.some.inj (Except.ok.inj (moves.symm.trans west))
  have rebuilt : rebuild clampHost requestedAt cappedEast westDeploy.payload =
      .ok westDeploy := rebuild_request fullEast_runs.2.1
  exact clamps_of_remint (List.mem_cons_of_mem _ (List.mem_cons_self ..)) speaks minted rebuilt

theorem westDeploy_fixed (other : IntentEnvelope) :
    ¬Clamps clampHost requestedAt
      (Deployments.rewriteGuards clampHost requestedAt) (deployCall fullEast).state
      westDeploy other := by
  rintro ⟨guard, listed, rewritten, reason, bases, speaks, -⟩
  have none := fullEast_runs.2.2.1 guard listed
  rw [speaks] at none
  cases none

/-- A deploy that both guards clamp does not execute, and its fixpoint does. -/
theorem fullEast_stops :
    ∃ clamped, ClampFixpoint clampHost requestedAt
        (Deployments.rewriteGuards clampHost requestedAt)
        (deployCall fullEast).state fullEast clamped ∧
      Yields (·.kind = .execute) (adjudicate clampHost clamped (deployCall fullEast).state
        (deployCall fullEast).kill (deployCall fullEast).policy) ∧
      ∃ trace result, Runs (adjudicateAndAudit clampHost (deployCall fullEast)) trace (.ok result) ∧
        ¬result.Executing := by
  obtain ⟨trace, result, run, kind⟩ := @calm_run _ _ clampHost (deployCall fullEast)
    (·.decision.kind) .refuse (by decide +kernel)
  have stops : ¬result.Executing := by
    rw [executing_iff_kind clampHost _ run, kind]
    decide
  exact ⟨westDeploy, ⟨.tail (.single fullEast_clamps) cappedEast_clamps, westDeploy_fixed⟩,
    yields_of_kind (by decide +kernel), trace, result, run, stops⟩

end Adjudicate.Pack
