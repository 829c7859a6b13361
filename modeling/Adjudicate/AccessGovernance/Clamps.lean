/-
This file shows that an access request with one clamp executes what the clamp makes of it.
-/

import Adjudicate.AccessGovernance.Redaction
import Adjudicate.Shell.ClampComposition
import Adjudicate.Kernel.ListedGuards

namespace Adjudicate.AccessGovernance

open Js Canonical Adjudicate.Core Adjudicate.Kernel Adjudicate.Primitives Adjudicate.Shell
open Adjudicate.Audit (readProp)
open Adjudicate.Effect

/-- These are the guards of the pack that substitute an envelope. -/
def rewriteGuards (host : Host) (clock : JsString) (environment : AccessEnvironment) :
    List (Guard AccessState) :=
  [redactJustificationPii host clock environment, reduceToLeastPrivilege host clock]

section Guards

variable {host : Host} {clock : JsString} {environment : AccessEnvironment}
  {envelope : IntentEnvelope} {state : AccessState}

theorem guards_ignoreOrigin : ∀ guard ∈ (accessPolicyBundle host clock environment).stateGuards ++
    (accessPolicyBundle host clock environment).business, IgnoresOrigin guard := by
  simp only [accessPolicyBundle, List.forall_mem_append, List.forall_mem_cons,
    List.not_mem_nil, false_implies, implies_true, and_true]
  exact ⟨⟨fun _ _ _ _ _ => rfl, fun _ _ _ _ _ => rfl, fun _ _ _ _ _ => rfl,
      fun _ _ _ _ _ => rfl⟩, fun _ _ _ _ _ => rfl, fun _ _ _ _ _ => rfl, fun _ _ _ _ _ => rfl,
    fun _ _ _ _ _ => rfl, fun _ _ _ _ _ => rfl, fun _ _ _ _ _ => rfl, fun _ _ _ _ _ => rfl,
    fun _ _ _ _ _ => rfl, fun _ _ _ _ _ => rfl, fun _ _ _ _ _ => rfl, fun _ _ _ _ _ => rfl,
    fun _ _ _ _ _ => rfl⟩

theorem stateGuards_opinions : ∀ guard ∈ (accessPolicyBundle host clock environment).stateGuards,
    Opinions (·.kind = .refuse) (guard.run envelope state) := by
  simp only [accessPolicyBundle, List.forall_mem_cons, List.not_mem_nil, false_implies, implies_true,
    and_true]
  refine ⟨?_, ?_, ?_, ?_⟩
  · refine opinions_ite (fun _ => opinions_none) fun _ => opinions_bind fun resourceId _ => ?_
    refine opinions_ite (fun _ => ?_) fun _ => opinions_none
    exact opinions_bind fun text _ => opinions_answer rfl
  · refine opinions_ite (fun _ => opinions_none) fun _ => opinions_bind fun lvl _ => ?_
    refine opinions_ite (fun _ => ?_) fun _ => opinions_none
    exact opinions_bind fun text _ => opinions_answer rfl
  · refine opinions_ite (fun _ => opinions_none) fun _ => opinions_bind fun key _ => ?_
    exact opinions_ite (fun _ => opinions_answer rfl) fun _ => opinions_none
  · refine opinions_ite (fun _ => opinions_none) fun _ => opinions_bind fun key _ => ?_
    cases (state.grants.lookup key).bind AccessGrant.expiresAt with
    | none => exact opinions_none
    | some expiry =>
        refine opinions_ite (fun _ => ?_) fun _ => opinions_none
        exact opinions_bind fun resourceId _ => opinions_bind fun principal _ => opinions_answer rfl

theorem sensitive_opinions :
    Opinions (·.kind = .escalate) (escalateSensitiveResource.run envelope state) := by
  refine opinions_ite (fun _ => opinions_none) fun _ => opinions_bind fun review _ => ?_
  refine opinions_bind fun resourceId _ => opinions_ite (fun _ => ?_) fun _ => opinions_none
  exact opinions_bind fun text _ => opinions_answer rfl

theorem explosion_opinions :
    Opinions (·.kind = .escalate) (reviewRoleExplosion.run envelope state) := by
  refine opinions_ite (fun _ => opinions_none) fun _ => opinions_bind fun principal _ => ?_
  refine opinions_ite (fun _ => ?_) fun _ => opinions_none
  exact opinions_bind fun text _ => opinions_answer rfl

theorem redundant_opinions :
    Opinions (·.kind = .escalate) (flagRedundantGrant.run envelope state) := by
  refine opinions_ite (fun _ => opinions_none) fun _ => opinions_bind fun key _ => ?_
  refine opinions_bind fun level _ => ?_
  cases state.grants.lookup key with
  | none => exact opinions_none
  | some existing =>
      refine opinions_ite (fun _ => ?_) fun _ => opinions_none
      refine opinions_bind fun resourceId _ => opinions_bind fun principal _ => ?_
      exact opinions_bind fun resource _ => opinions_bind fun holder _ => opinions_answer rfl

theorem rejected_opinions :
    Opinions (·.kind = .refuse) (refuseRejectedRequest.run envelope state) := by
  refine opinions_ite (fun _ => opinions_none) fun _ => opinions_bind fun review _ => ?_
  refine opinions_ite (fun _ => ?_) fun _ => opinions_none
  exact opinions_bind fun resourceId _ => opinions_bind fun text _ => opinions_answer rfl

theorem pending_opinions : Opinions (·.kind = .defer) (deferPendingReview.run envelope state) :=
  opinions_bind fun _ _ => opinions_ite (fun _ => opinions_none) fun _ => opinions_answer rfl

theorem peer_opinions :
    Opinions (·.kind = .escalate) (requirePeerReviewForAdmin.run envelope state) := by
  refine opinions_ite (fun _ => opinions_none) fun _ => opinions_bind fun review _ => ?_
  refine opinions_bind fun level _ => ?_
  cases review with
  | none => exact opinions_none
  | some review =>
      refine opinions_ite (fun _ => ?_) fun _ => opinions_none
      refine opinions_bind fun resourceId _ => opinions_bind fun principal _ => ?_
      exact opinions_bind fun resource _ => opinions_answer rfl

theorem approved_opinions : Opinions
    (fun decision => decision.kind = .execute ∧ AllFinite decision.toJs)
    (executeApprovedRequest.run envelope state) := by
  refine opinions_ite (fun _ => opinions_none) fun _ => opinions_bind fun review _ => ?_
  refine opinions_bind fun level _ => ?_
  cases review with
  | none => exact opinions_none
  | some review =>
      refine opinions_ite (fun _ => opinions_answer ⟨rfl, ?_⟩) fun _ => opinions_none
      exact allFinite_execute (List.forall_mem_singleton.mpr
        (allFinite_basis_some (List.forall_mem_singleton.mpr trivial)))

/-- The decision mints the envelope again with another payload, and its bases can be hashed. -/
def SetsPayload (host : Host) (clock : JsString) (envelope : IntentEnvelope) (decision : Decision) :
    Prop :=
  ∃ payload rewritten reason bases, decision = .rewrite rewritten reason bases ∧
    remint host clock envelope payload = .ok rewritten ∧ ∀ entry ∈ bases, AllFinite entry.toJs

theorem redact_opinions : Opinions (SetsPayload host clock envelope)
    ((redactJustificationPii host clock environment).run envelope state) := by
  refine opinions_bind fun applies _ => opinions_ite (fun _ => opinions_none) fun _ => ?_
  refine opinions_ite (fun _ => opinions_none) fun _ => opinions_bind fun scan _ => ?_
  refine opinions_ite (fun _ => opinions_none) fun _ => opinions_bind fun rewritten minted => ?_
  refine opinions_answer ⟨_, rewritten, _, _, rfl, minted, List.forall_mem_singleton.mpr ?_⟩
  exact allFinite_basis_some (List.forall_mem_cons.mpr ⟨trivial, List.forall_mem_cons.mpr
    ⟨Audit.allFinite_texts _, List.forall_mem_singleton.mpr (Audit.allFinite_texts _)⟩⟩)

/-- A level that the state guards let through is a number. -/
theorem levelOf_valid {payload : JsValue}
    (valid : isPrivilegeLevel (payload.getOwn "privilegeLevel") = true) :
    ∃ props level, payload = .obj props ∧ payload.getOwn "privilegeLevel" = .num level ∧
      levelOf payload = .ok level ∧ level ≠ .nan := by
  cases payload with
  | obj props =>
      cases held : (JsValue.obj props).getOwn "privilegeLevel" with
      | num level =>
          refine ⟨props, level, rfl, rfl, ?_, ?_⟩
          · rw [levelOf, readProp_obj, ok_bind, held]
            rfl
          · rintro rfl
            rw [held] at valid
            cases valid
      | _ =>
          rw [held] at valid
          cases valid
  | _ => cases valid

theorem reduce_opinions {level : JsNumber} (reads : levelOf envelope.payload = .ok level) :
    Opinions (fun decision => ∃ allowed rewritten reason bases,
        decision = .rewrite rewritten reason bases ∧
        maxAllowedLevel state envelope.payload = .ok allowed ∧
        level.atMost allowed.number = false ∧
        remint host clock envelope
          (withField envelope.payload "privilegeLevel" (.num allowed.number)) = .ok rewritten ∧
        (level.isFinite = true → ∀ entry ∈ bases, AllFinite entry.toJs))
      ((reduceToLeastPrivilege host clock).run envelope state) := by
  refine opinions_bind fun applies _ => opinions_ite (fun _ => opinions_none) fun _ => ?_
  refine opinions_bind fun extracted found => ?_
  obtain ⟨number, read, ⟨⟩⟩ := bind_eq_ok.mp found
  rw [reads] at read
  cases read
  refine opinions_bind fun capValue capped => opinions_ite (fun _ => opinions_none) fun exceeds => ?_
  obtain ⟨allowed, computed, ⟨⟩⟩ := bind_eq_ok.mp capped
  refine opinions_bind fun rewritten minted => opinions_bind fun entries based => ?_
  cases based
  refine opinions_answer ⟨allowed, rewritten, _, _, rfl, computed, Bool.not_eq_true _ ▸ exceeds,
    minted, fun finite => List.forall_mem_singleton.mpr ?_⟩
  have cap : AllFinite (.num allowed.number) := by
    change allowed.number.isFinite = true
    cases allowed <;> decide +kernel
  exact allFinite_basis_some (List.forall_mem_cons.mpr ⟨trivial, List.forall_mem_cons.mpr
    ⟨finite, List.forall_mem_singleton.mpr cap⟩⟩)

/-- Every opinion on a request with a valid level that executes or rewrites can be hashed. -/
theorem opinions_allFinite (request : envelope.kind = utf16 "access.request")
    (valid : isPrivilegeLevel (envelope.payload.getOwn "privilegeLevel") = true)
    (finite : AllFinite envelope.payload) :
    ∀ guard ∈ (accessPolicyBundle host clock environment).stateGuards ++
        (accessPolicyBundle host clock environment).authGuards ++
        (accessPolicyBundle host clock environment).business,
      ∀ own, guard.run envelope state = .ok (some own) →
        own.kind = .execute ∨ own.kind = .rewrite → AllFinite own.toJs := by
  have other {kind : DecisionKind} {own : Decision} (same : own.kind = kind)
      (executes : kind ≠ .execute) (rewrites : kind ≠ .rewrite)
      (acts : own.kind = .execute ∨ own.kind = .rewrite) : AllFinite own.toJs := by
    rw [same] at acts
    exact (acts.elim executes rewrites).elim
  have silent {guard : Guard AccessState} {own : Decision}
      (quiet : guard.run envelope state = .ok none)
      (speaks : guard.run envelope state = .ok (some own)) {goal : Prop} : goal := by
    rw [quiet] at speaks
    cases speaks
  have mints {payload : JsValue} {rewritten : IntentEnvelope} {reason : JsString}
      {bases : List DecisionBasis} (minted : remint host clock envelope payload = .ok rewritten)
      (entries : ∀ entry ∈ bases, AllFinite entry.toJs) :
      AllFinite (Decision.rewrite rewritten reason bases).toJs :=
    allFinite_rewrite (allFinite_hashed (deriveIntentHash_of_buildEnvelope minted)).2 entries
  obtain ⟨props, level, object, held, reads, -⟩ := levelOf_valid valid
  have number : level.isFinite = true := by
    have field := allFinite_getOwn finite "privilegeLevel"
    rw [held] at field
    exact field
  obtain ⟨resolve, breakglass, revoke⟩ := @otherKinds_silent envelope state request
  simp only [List.forall_mem_append]
  refine ⟨⟨fun guard listed own speaks => ?_, ?_⟩, ?_⟩
  · exact other (stateGuards_opinions guard listed own speaks) (by decide) (by decide)
  · exact List.forall_mem_singleton.mpr fun own speaks =>
      other (createAuthorityGuard_refuses speaks) (by decide) (by decide)
  · simp only [accessPolicyBundle, List.forall_mem_cons, List.not_mem_nil, false_implies,
      implies_true, and_true]
    refine ⟨fun own speaks _ => ?_, fun own speaks => silent resolve speaks,
      fun own speaks => silent breakglass speaks, fun own speaks => ?_, fun own speaks => ?_,
      fun own speaks => ?_, fun own speaks _ => ?_, fun own speaks => ?_, fun own speaks => ?_,
      fun own speaks => silent revoke speaks, fun own speaks => ?_,
      fun own speaks _ => (approved_opinions own speaks).2⟩
    · obtain ⟨_, _, _, _, rfl, minted, entries⟩ := redact_opinions own speaks
      exact mints minted entries
    · exact other (sensitive_opinions own speaks) (by decide) (by decide)
    · exact other (explosion_opinions own speaks) (by decide) (by decide)
    · exact other (redundant_opinions own speaks) (by decide) (by decide)
    · obtain ⟨_, _, _, _, rfl, -, -, minted, entries⟩ := reduce_opinions reads own speaks
      exact mints minted (entries number)
    · exact other (rejected_opinions own speaks) (by decide) (by decide)
    · exact other (pending_opinions own speaks) (by decide) (by decide)
    · exact other (peer_opinions own speaks) (by decide) (by decide)

/-- What the pack decides about an admitted envelope comes from its business guards. -/
theorem access_yields {kill : KillSwitchState} {wanted : Decision → Prop} (actionable : Actionable wanted)
    (yields : Yields wanted
      (adjudicate host envelope state kill (accessPolicyBundle host clock environment))) :
    Admitted host envelope state kill (accessPolicyBundle host clock environment) ∧
      Gives wanted (firstOutcome envelope state (accessPolicyBundle host clock environment).business) := by
  have never {guard : Guard AccessState}
      (opinions : Opinions (·.kind = .refuse) (guard.run envelope state)) :
      ¬Gives wanted (guard.run envelope state) :=
    never_of_kind actionable.not_refuse opinions
  exact ((business_gives_iff actionable
    (fun guard listed => never (stateGuards_opinions guard listed))
    (List.forall_mem_singleton.mpr (never fun _ => createAuthorityGuard_refuses)) rfl).mp
      yields).imp_right (gives_of_speaks actionable)

end Guards

section Redaction

variable {host : Host} {clock : JsString} {environment : AccessEnvironment}
  {envelope : IntentEnvelope} {state : AccessState} {props : Props JsValue}
  (request : envelope.kind = utf16 "access.request") (payload : envelope.payload = .obj props)

theorem scanPayload_throws {text : JsString} {raised : Thrown}
    (holds : (JsValue.obj props).getOwn "justification" = .str text)
    (throws : redactText environment text = .error raised) :
    scanPayload (justificationScan environment) (.obj props) = .error raised := by
  rw [scanPayload_eq, scanField, getPath_justification, holds]
  change (do
    let found ← redactText environment text
    if found.fieldMatched then _ else _ : Except Thrown PayloadScan) = _
  rw [throws]
  rfl

include request payload

/-- The redaction answers a leaking justification unless a replacement throws. -/
theorem redactJustificationPii_leaks {text : JsString}
    (holds : (JsValue.obj props).getOwn "justification" = .str text)
    (found : finds environment text = true) {opinion : Option Decision}
    (answers : (redactJustificationPii host clock environment).run envelope state = .ok opinion) :
    ∃ scan rewritten reason bases, opinion = some (.rewrite rewritten reason bases) ∧
      remint host clock envelope (withJustification props scan) = .ok rewritten := by
  cases scanned : redactText environment text with
  | error raised =>
      simp only [redactJustificationPii, createDataClassificationGuard, payload,
        scanPayload_throws holds scanned] at answers
      simp [justificationScan, request, JsValue.isObject, bind, Except.bind] at answers
  | ok scan =>
      obtain ⟨bases, run⟩ := @redactJustificationPii_found host clock environment envelope state props
        request payload text scan holds found scanned
      rw [run] at answers
      cases minted : remint host clock envelope (withJustification props scan.redacted) with
      | error raised =>
          rw [minted] at answers
          cases answers
      | ok rewritten =>
          rw [minted] at answers
          cases answers
          exact ⟨_, rewritten, _, _, rfl, minted⟩

theorem clean_of_silent
    (silent : (redactJustificationPii host clock environment).run envelope state = .ok none) :
    ¬Leaks environment (.obj props) := by
  rintro ⟨text, holds, found⟩
  obtain ⟨_, _, _, _, ⟨⟩, -⟩ := redactJustificationPii_leaks request payload holds found silent

theorem redactJustificationPii_rewrites {rewritten : IntentEnvelope} {reason : JsString}
    {bases : List DecisionBasis}
    (speaks : (redactJustificationPii host clock environment).run envelope state =
      .ok (some (.rewrite rewritten reason bases))) :
    ∃ scan, remint host clock envelope (withJustification props scan) = .ok rewritten := by
  by_cases leaking : Leaks environment (.obj props)
  · obtain ⟨text, holds, found⟩ := leaking
    obtain ⟨scan, minted, _, _, ⟨⟩, mints⟩ :=
      redactJustificationPii_leaks request payload holds found speaks
    exact ⟨scan, mints⟩
  · rw [redactJustificationPii_clean request payload leaking] at speaks
    cases speaks

end Redaction

section Congruence

variable {host : Host} {clock : JsString} {environment : AccessEnvironment}
  {first second : IntentEnvelope} {state : AccessState} (kind : first.kind = second.kind)
  (kept : ∀ key, key ≠ utf16 "privilegeLevel" →
    readProp first.payload key = readProp second.payload key)

include kept

theorem payloadKey_congr : payloadKey first.payload = payloadKey second.payload := by
  rw [payloadKey, payloadKey, kept _ (by decide), kept _ (by decide)]

include kind

theorem sensitive_congr :
    escalateSensitiveResource.run first state = escalateSensitiveResource.run second state := by
  simp only [escalateSensitiveResource, named, reviewFor, kind, payloadKey_congr kept,
    kept (utf16 "resourceId") (by decide)]

theorem explosion_congr : reviewRoleExplosion.run first state = reviewRoleExplosion.run second state := by
  simp only [reviewRoleExplosion, named, kind, kept (utf16 "principal") (by decide)]

/-- The state guards see only whether the level is valid. -/
theorem stateGuards_levels (request : second.kind = utf16 "access.request")
    (readable : ∃ props, second.payload = .obj props)
    (valid : isPrivilegeLevel (second.payload.getOwn "privilegeLevel") = true)
    (silent : AllSilent first state (accessPolicyBundle host clock environment).stateGuards) :
    AllSilent second state (accessPolicyBundle host clock environment).stateGuards := by
  have revoke : utf16 "access.request" ≠ utf16 "access.revoke" := by decide
  have resource : validateResource.run first state = validateResource.run second state := by
    simp only [validateResource, named, kind, kept (utf16 "resourceId") (by decide)]
  have level : validatePrivilegeLevel.run second state = .ok none := by
    obtain ⟨props, object⟩ := readable
    rw [object] at valid
    simp only [validatePrivilegeLevel, named, request, ne_eq, not_true_eq_false, if_false, object,
      readProp_obj, ok_bind, valid, Bool.not_true, Bool.false_eq_true]
    rfl
  have grant : requireActiveGrantForRevoke.run second state = .ok none := by
    simp only [requireActiveGrantForRevoke, named, request, ne_eq, revoke, not_false_eq_true, if_true]
    rfl
  have expired : (refuseExpiredGrant environment).run second state = .ok none := by
    simp only [refuseExpiredGrant, named, request, ne_eq, revoke, not_false_eq_true, if_true]
    rfl
  rw [accessPolicyBundle, silent_cons_iff, resource] at silent
  simp only [AllSilent, accessPolicyBundle, firstOutcome, silent.1, level, grant, expired]

end Congruence

section Composition

variable {host : Host} {clock : JsString} {environment : AccessEnvironment}
  {original rewritten clamped : IntentEnvelope} {state : AccessState} {reason : JsString}
  {bases : List DecisionBasis}

/-- The guards before the reduction are silent on an executing request. -/
theorem executes_silent (request : clamped.kind = utf16 "access.request")
    (executes : Gives (·.kind = .execute)
      (firstOutcome clamped state (accessPolicyBundle host clock environment).business)) :
    (redactJustificationPii host clock environment).run clamped state = .ok none ∧
      escalateSensitiveResource.run clamped state = .ok none ∧
      reviewRoleExplosion.run clamped state = .ok none ∧
      flagRedundantGrant.run clamped state = .ok none := by
  obtain ⟨resolve, breakglass, -⟩ := @otherKinds_silent clamped state request
  have redacts (decision : Decision) (sets : SetsPayload host clock clamped decision) :
      decision.kind ≠ .execute := by
    obtain ⟨_, _, _, _, rfl, -⟩ := sets
    rintro ⟨⟩
  rw [accessPolicyBundle, gives_later_iff (never_of_opinions redact_opinions redacts),
    gives_later_iff (never_of_silent resolve), gives_later_iff (never_of_silent breakglass),
    gives_later_iff (never_of_opinions sensitive_opinions fun _ same => ne_of_eq_of_ne same (by decide)),
    gives_later_iff (never_of_opinions explosion_opinions fun _ same => ne_of_eq_of_ne same (by decide)),
    gives_later_iff (never_of_opinions redundant_opinions fun _ same => ne_of_eq_of_ne same (by decide))] at executes
  obtain ⟨redact, -, -, sensitive, explosion, redundant, -⟩ := executes
  exact ⟨redact, sensitive, explosion, redundant⟩

/-- A level above the allowed one is not covered by a grant that does not cover the allowed one. -/
theorem redundant_above {props others : Props JsValue} {level : JsNumber}
    {allowed : AccessPrivilegeLevel} (request : original.kind = utf16 "access.request")
    (object : original.payload = .obj props) (reads : levelOf (.obj props) = .ok level)
    (defined : level ≠ .nan) (above : level.atMost allowed.number = false)
    (kind : clamped.kind = original.kind) (clampedObject : clamped.payload = .obj others)
    (clampedReads : levelOf (.obj others) = .ok allowed.number)
    (key : payloadKey clamped.payload = payloadKey original.payload)
    (silent : flagRedundantGrant.run clamped state = .ok none) :
    flagRedundantGrant.run original state = .ok none := by
  rw [flagRedundantGrant_silent (kind.trans request) clampedObject clampedReads] at silent
  rw [flagRedundantGrant_silent request object reads]
  obtain ⟨found, made, grants⟩ := silent
  refine ⟨found, ?_, fun grant held => ?_⟩
  · rw [← object, ← key, clampedObject, made]
  · by_contra covers
    have covered : level.atMost grant.privilegeLevel.number = true := Bool.not_eq_false _ ▸ covers
    have below : level.below allowed.number = false := by
      by_contra under
      rw [JsNumber.atMost_of_below (Bool.not_eq_false _ ▸ under)] at above
      cases above
    have lower : allowed.number.atMost level = true :=
      JsNumber.atMost_of_not_below defined (by cases allowed <;> decide +kernel) below
    have refused := grants grant held
    rw [JsNumber.atMost_trans lower covered] at refused
    cases refused

/-- What a clamp of an executing request answers is the first answer of the pack. -/
theorem clamp_answers_first (request : original.kind = utf16 "access.request")
    (json : original.payload.IsJson)
    (valid : isPrivilegeLevel (original.payload.getOwn "privilegeLevel") = true)
    {guard : Guard AccessState} (listed : guard ∈ rewriteGuards host clock environment)
    (speaks : guard.run original state = .ok (some (.rewrite rewritten reason bases)))
    (rebuilt : rebuild host clock original rewritten.payload = .ok clamped)
    (silent : AllSilent clamped state (accessPolicyBundle host clock environment).stateGuards)
    (executes : Gives (·.kind = .execute)
      (firstOutcome clamped state (accessPolicyBundle host clock environment).business)) :
    remint host clock original rewritten.payload = .ok rewritten ∧
      AllSilent original state (accessPolicyBundle host clock environment).stateGuards ∧
      firstOutcome original state (accessPolicyBundle host clock environment).business =
        .ok (some (.rewrite rewritten reason bases)) := by
  obtain ⟨kind, payload, -⟩ := rebuild_fields rebuilt
  obtain ⟨props, level, object, -, reads, defined⟩ := levelOf_valid valid
  simp only [rewriteGuards, List.mem_cons, List.not_mem_nil, or_false] at listed
  obtain rfl | rfl := listed
  · obtain ⟨scan, minted⟩ := redactJustificationPii_rewrites request object speaks
    have made := congrArg HashedFields.payload (remint_fields minted).1
    refine ⟨made ▸ minted, ?_, ?_⟩
    · exact (stateGuards_kept request object kind (payload.trans made)).mp silent
    · simp only [accessPolicyBundle, firstOutcome, speaks]
  · obtain ⟨allowed, _, _, _, ⟨⟩, -, above, minted, -⟩ := reduce_opinions reads _ speaks
    have made := congrArg HashedFields.payload (remint_fields minted).1
    have clampedPayload := payload.trans made
    rw [object] at json
    have field (key : JsString) : clamped.payload.getOwn key =
        if key = utf16 "privilegeLevel" then .num allowed.number
        else original.payload.getOwn key := by
      rw [clampedPayload, object]
      exact getOwn_withField json.1 _ key _
    have kept (key : JsString) (other : key ≠ utf16 "privilegeLevel") :
        readProp clamped.payload key = readProp original.payload key := by
      have same := field key
      rw [if_neg other] at same
      rw [clampedPayload, object] at same ⊢
      exact congrArg Except.ok same
    obtain ⟨others, clampedObject⟩ : ∃ others, clamped.payload = .obj others := ⟨_, clampedPayload⟩
    have clampedReads : levelOf clamped.payload = .ok allowed.number := by
      have same := field (utf16 "privilegeLevel")
      rw [if_pos rfl] at same
      rw [clampedObject] at same ⊢
      rw [levelOf, readProp_obj, ok_bind, same]
      rfl
    obtain ⟨redact, sensitive, explosion, redundant⟩ :=
      executes_silent (kind.trans request) executes
    have clean : ¬Leaks environment (.obj props) := by
      rintro ⟨text, holds, found⟩
      refine clean_of_silent (kind.trans request) clampedObject redact ⟨text, ?_, found⟩
      rw [← clampedObject, field, if_neg (by decide), object, holds]
    obtain ⟨resolve, breakglass, -⟩ := @otherKinds_silent original state request
    have quiet := @redactJustificationPii_clean host clock environment original state props request
      object clean
    rw [sensitive_congr kind kept] at sensitive
    rw [explosion_congr kind kept] at explosion
    rw [object] at reads
    rw [clampedObject] at clampedReads
    have covered := redundant_above request object reads defined above kind clampedObject clampedReads
      (payloadKey_congr kept) redundant
    refine ⟨made ▸ minted, stateGuards_levels kind kept request ⟨props, object⟩ valid silent, ?_⟩
    simp only [accessPolicyBundle, firstOutcome, quiet, resolve, breakglass, sensitive, explosion,
      covered, speaks]

/-- A request that executes after at most one clamp executes in one call with the clamped payload. -/
theorem access_composes {call : Call AccessState} {instant : JsNumber → Prop}
    {trace : List ShellEvent} {outcome : Except Thrown AdjudicateAndAuditResult}
    (policy : call.policy = accessPolicyBundle host clock environment)
    (valid : isPrivilegeLevel (call.envelope.payload.getOwn "privilegeLevel") = true)
    (once : ClampsOnce host clock (rewriteGuards host clock environment)
      (call.state.authority = none) "access.request" call clamped)
    (calm : CalmCall call instant trace)
    (run : Runs (adjudicateAndAudit host call) trace outcome) : ExecutesClamped outcome clamped := by
  obtain ⟨request, json, verified, reached, executes⟩ := once
  have default : call.policy.default = .refuse := by rw [policy]; rfl
  have finite := @opinions_allFinite host clock environment call.envelope call.state request valid
    (allFinite_hashed verified.2.2).1
  rw [← policy] at finite
  obtain rfl | ⟨free, guard, listed, rewritten, reason, bases, speaks, rebuilt⟩ := reached
  · obtain ⟨result, rfl, executing, recorded⟩ :=
      unclamped_composes default finite verified calm run executes
    exact ⟨result, rfl, executing, by rw [recorded]⟩
  · have first := executes
    rw [policy] at first
    obtain ⟨admitted, gives⟩ := access_yields actionable_execute first
    obtain ⟨minted, silent, answers⟩ := clamp_answers_first request json valid listed speaks rebuilt
      admitted.stateGuards gives
    have ignore := @guards_ignoreOrigin host clock environment
    have unowned (envelope : IntentEnvelope) : AllSilent envelope call.state
        (accessPolicyBundle host clock environment).authGuards := by
      simp only [AllSilent, accessPolicyBundle, firstOutcome, enforceResourceOwnership_free free]
    have trusted := admitted.taint
    rw [← policy] at ignore unowned trusted silent answers
    have lenient : call.policy.taint.requiresUncontaminatedOrigin = none := by rw [policy]; rfl
    exact clamp_composes default finite verified calm run ignore lenient unowned minted rebuilt
      silent trusted answers executes

end Composition

end Adjudicate.AccessGovernance
