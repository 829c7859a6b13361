/-
This file shows which access requests the business guards let execute.
-/

import Adjudicate.AccessGovernance.Policies
import Adjudicate.Kernel.FirstAnswer

namespace Adjudicate.AccessGovernance

open Js Canonical Adjudicate.Core Adjudicate.Kernel Adjudicate.Primitives
open Adjudicate.Audit (readProp)

/-- The first guard with an opinion executes. -/
def Executes (envelope : IntentEnvelope) (state : AccessState) (guards : List (Guard AccessState)) :
    Prop :=
  ∃ bases, firstOutcome envelope state guards = .ok (some (.execute bases))

section

variable {envelope : IntentEnvelope} {state : AccessState}

/-- A guard that never executes has to stay silent. -/
theorem executes_cons_iff {guard : Guard AccessState} {guards : List (Guard AccessState)}
    (never : ∀ bases, guard.run envelope state ≠ .ok (some (.execute bases))) :
    Executes envelope state (guard :: guards) ↔
      guard.run envelope state = .ok none ∧ Executes envelope state guards := by
  rw [Executes, firstOutcome]
  cases run : guard.run envelope state with
  | error raised => simp
  | ok opinion =>
      cases opinion with
      | none => simp [Executes]
      | some decision =>
          simp only [Except.ok.injEq, Option.some.injEq, reduceCtorEq, false_and, iff_false,
            not_exists]
          intro bases same
          exact never bases (by rw [run, same])

theorem executes_last {guard : Guard AccessState} :
    Executes envelope state [guard] ↔ ∃ bases, guard.run envelope state = .ok (some (.execute bases)) := by
  rw [Executes, firstOutcome]
  cases run : guard.run envelope state with
  | error raised => simp
  | ok opinion => cases opinion <;> simp [firstOutcome]

/-- Only an execution passes the rewrite gate as one. -/
theorem speaks_execute_iff (host : Host) (guards : List (Guard AccessState)) :
    Speaks host envelope state (fun decision => decision.kind = .execute) guards ↔
      Executes envelope state guards := by
  constructor
  · rintro ⟨decision, first, yields⟩
    have executes := ((yields_gateRewrite host envelope actionable_execute decision).mp yields).1
    cases decision with
    | execute bases => exact ⟨bases, first⟩
    | _ => cases executes
  · rintro ⟨bases, first⟩
    refine ⟨_, first, ?_⟩
    rw [gateRewrite_of_ne host envelope fun same => by cases same]
    exact yields_ok.mpr rfl

end

/-- The principal holds an approved review for at least the level, which is below the peer review
level, has no grant that covers it, and has few grants. -/
structure Grantable (state : AccessState) (payload : JsValue) : Prop where
  approved : ∃ key review level, payloadKey payload = .ok key ∧ levelOf payload = .ok level ∧
    state.reviews.lookup key = some review ∧ review.decision = .approved ∧
    level.atMost review.grantedNumber = true ∧ peerReviewLevel.number.atMost level = false ∧
    ∀ grant ∈ state.grants.lookup key, level.atMost grant.privilegeLevel.number = false
  few : grantCountFor state (payload.getOwn "principal") < roleExplosionThreshold

section Never

/-- The outcome of a guard is no execution. -/
def NeverExecutes (outcome : Except Thrown (Option Decision)) : Prop :=
  ∀ bases, outcome ≠ .ok (some (.execute bases))

theorem never_none : NeverExecutes (pure none) := fun _ same => by cases same

theorem never_answer {decision : Decision} (other : decision.kind ≠ .execute) :
    NeverExecutes (pure (some decision)) := by
  rintro bases ⟨⟩
  exact other rfl

theorem never_bind {A : Type} {computation : Except Thrown A}
    {next : A → Except Thrown (Option Decision)} (each : ∀ value, NeverExecutes (next value)) :
    NeverExecutes (computation >>= next) := by
  intro bases same
  obtain ⟨value, -, answered⟩ := bind_eq_ok.mp same
  exact each value bases answered

theorem never_ite {condition : Prop} [Decidable condition]
    {first second : Except Thrown (Option Decision)} (yes : NeverExecutes first)
    (no : NeverExecutes second) : NeverExecutes (if condition then first else second) := by
  split
  · exact yes
  · exact no

variable (envelope : IntentEnvelope) (state : AccessState)

theorem escalateSensitiveResource_never :
    NeverExecutes (escalateSensitiveResource.run envelope state) := by
  apply never_ite never_none
  refine never_bind fun review => never_bind fun resourceId => never_ite ?_ never_none
  exact never_bind fun text => never_answer fun same => by cases same

theorem reviewRoleExplosion_never : NeverExecutes (reviewRoleExplosion.run envelope state) := by
  apply never_ite never_none
  refine never_bind fun principal => never_ite ?_ never_none
  exact never_bind fun text => never_answer fun same => by cases same

theorem flagRedundantGrant_never : NeverExecutes (flagRedundantGrant.run envelope state) := by
  apply never_ite never_none
  refine never_bind fun key => never_bind fun level => ?_
  split
  · refine never_ite ?_ never_none
    refine never_bind fun resourceId => never_bind fun principal => ?_
    refine never_bind fun first => never_bind fun second => ?_
    exact never_answer fun same => by cases same
  · exact never_none

theorem reduceToLeastPrivilege_never (host : Host) (clock : JsString) :
    NeverExecutes ((reduceToLeastPrivilege host clock).run envelope state) := by
  refine never_bind fun applies => never_ite never_none (never_bind fun extracted => ?_)
  cases extracted with
  | none => exact never_none
  | some requested =>
      refine never_bind fun capValue => never_ite never_none ?_
      refine never_bind fun rewritten => never_bind fun entries => ?_
      exact never_answer fun same => by cases same

theorem refuseRejectedRequest_never : NeverExecutes (refuseRejectedRequest.run envelope state) := by
  apply never_ite never_none
  refine never_bind fun review => never_ite ?_ never_none
  refine never_bind fun resourceId => never_bind fun text => ?_
  exact never_answer fun same => by cases same

theorem deferPendingReview_never : NeverExecutes (deferPendingReview.run envelope state) := by
  refine never_bind fun applies => never_ite never_none ?_
  exact never_answer fun same => by cases same

theorem requirePeerReviewForAdmin_never :
    NeverExecutes (requirePeerReviewForAdmin.run envelope state) := by
  apply never_ite never_none
  refine never_bind fun review => never_bind fun level => ?_
  split
  · refine never_ite ?_ never_none
    refine never_bind fun resourceId => never_bind fun principal => never_bind fun text => ?_
    exact never_answer fun same => by cases same
  · exact never_none

end Never

section Request

variable {envelope : IntentEnvelope} {state : AccessState} {props : Props JsValue}
  (request : envelope.kind = utf16 "access.request") (payload : envelope.payload = .obj props)

theorem readProp_obj (key : JsString) :
    readProp (.obj props) key = .ok ((JsValue.obj props).getOwn key) := rfl

/-- The level of an object is always there to be compared. -/
theorem levelOf_obj : ∃ level, levelOf (.obj props) = .ok level := by
  rw [levelOf, readProp_obj, ok_bind]
  cases (JsValue.obj props).getOwn "privilegeLevel" <;> exact ⟨_, rfl⟩

include request in
theorem otherKinds_silent :
    allowResolve.run envelope state = .ok none ∧ executeBreakglass.run envelope state = .ok none ∧
      confirmRevoke.run envelope state = .ok none := by
  have resolve : utf16 "access.request" ≠ utf16 "access.review.resolve" := by decide
  have breakglass : utf16 "access.request" ≠ utf16 "access.breakglass" := by decide
  have revoke : utf16 "access.request" ≠ utf16 "access.revoke" := by decide
  refine ⟨?_, ?_, ?_⟩
  · simp only [allowResolve, named, request, if_neg resolve]
  · simp only [executeBreakglass, named, request, if_pos breakglass]
    rfl
  · simp only [confirmRevoke, named, request, if_pos revoke]
    rfl

include request payload

theorem escalateSensitiveResource_silent :
    escalateSensitiveResource.run envelope state = .ok none ↔
      ∃ review, reviewFor state (.obj props) = .ok review ∧
        (isOneOf ((JsValue.obj props).getOwn "resourceId") sensitiveResourceIds &&
          decide (review.map AccessReview.decision ≠ some .approved)) = false := by
  simp only [escalateSensitiveResource, named, request, payload, ne_eq, not_true_eq_false,
    if_false, readProp_obj, ok_bind]
  cases reviewFor state (.obj props) with
  | error raised => simp [bind, Except.bind]
  | ok review =>
      simp only [ok_bind]
      split
      · next holds =>
          refine iff_of_false ?_ ?_
          · intro same
            obtain ⟨text, -, answered⟩ := bind_eq_ok.mp same
            cases answered
          · rintro ⟨_, ⟨⟩, fails⟩
            exact Bool.false_ne_true (fails.symm.trans holds)
      · next fails => exact iff_of_true rfl ⟨review, rfl, by simpa using fails⟩

theorem reviewRoleExplosion_silent :
    reviewRoleExplosion.run envelope state = .ok none ↔
      grantCountFor state ((JsValue.obj props).getOwn "principal") < roleExplosionThreshold := by
  simp only [reviewRoleExplosion, named, request, payload, ne_eq, not_true_eq_false, if_false,
    readProp_obj, ok_bind]
  split
  · next many =>
      refine iff_of_false ?_ (Nat.not_lt.mpr many)
      intro same
      obtain ⟨text, -, answered⟩ := bind_eq_ok.mp same
      cases answered
  · next few => exact iff_of_true rfl (Nat.not_le.mp few)

theorem flagRedundantGrant_silent {level : JsNumber} (reads : levelOf (.obj props) = .ok level) :
    flagRedundantGrant.run envelope state = .ok none ↔
      ∃ key, payloadKey (.obj props) = .ok key ∧
        ∀ grant ∈ state.grants.lookup key, level.atMost grant.privilegeLevel.number = false := by
  simp only [flagRedundantGrant, named, request, payload, ne_eq, not_true_eq_false, if_false,
    readProp_obj, ok_bind, reads]
  cases payloadKey (.obj props) with
  | error raised => simp [bind, Except.bind]
  | ok key =>
      simp only [ok_bind, Except.ok.injEq, exists_eq_left']
      cases state.grants.lookup key with
      | none => exact iff_of_true rfl (by simp)
      | some existing =>
          simp only [Option.mem_def, Option.some.injEq, forall_eq']
          split
          · next covers =>
              refine iff_of_false ?_ (by simp [covers])
              intro same
              obtain ⟨_, -, later⟩ := bind_eq_ok.mp same
              obtain ⟨_, -, answered⟩ := bind_eq_ok.mp later
              cases answered
          · next exceeds => exact iff_of_true rfl (by simpa using exceeds)

theorem reduceToLeastPrivilege_silent (host : Host) (clock : JsString) {level : JsNumber}
    (reads : levelOf (.obj props) = .ok level) :
    (reduceToLeastPrivilege host clock).run envelope state = .ok none ↔
      ∃ allowed, maxAllowedLevel state (.obj props) = .ok allowed ∧
        level.atMost allowed.number = true := by
  simp only [reduceToLeastPrivilege, createRewriteGuard, leastPrivilege, request, payload, decide_true,
    ok_bind, Bool.not_true, Bool.false_eq_true, if_false, reads, Cap.value]
  cases maxAllowedLevel state (.obj props) with
  | error raised => simp [bind, Except.bind, pure, Except.pure]
  | ok allowed =>
      simp only [ok_bind, pure, Except.pure, Except.ok.injEq, exists_eq_left']
      split
      · next low => exact iff_of_true rfl low
      · next high =>
          refine iff_of_false ?_ high
          intro same
          obtain ⟨_, -, later⟩ := bind_eq_ok.mp same
          obtain ⟨_, -, answered⟩ := bind_eq_ok.mp later
          cases answered

theorem refuseRejectedRequest_silent :
    refuseRejectedRequest.run envelope state = .ok none ↔
      ∃ review, reviewFor state (.obj props) = .ok review ∧
        review.map AccessReview.decision ≠ some .rejected := by
  simp only [refuseRejectedRequest, named, request, payload, ne_eq, not_true_eq_false, if_false,
    readProp_obj, ok_bind]
  cases reviewFor state (.obj props) with
  | error raised => simp [bind, Except.bind]
  | ok review =>
      simp only [ok_bind, Except.ok.injEq, exists_eq_left']
      split
      · next rejected =>
          refine iff_of_false ?_ (by simp [rejected])
          intro same
          obtain ⟨text, -, answered⟩ := bind_eq_ok.mp same
          cases answered
      · next kept => exact iff_of_true rfl kept

theorem deferPendingReview_silent :
    deferPendingReview.run envelope state = .ok none ↔
      ∃ review, reviewFor state (.obj props) = .ok (some review) := by
  simp only [deferPendingReview, createStateDeferGuard, request, payload, if_true]
  cases reviewFor state (.obj props) with
  | error raised => simp [bind, Except.bind]
  | ok review => cases review <;> simp [bind, Except.bind, pure, Except.pure]

theorem requirePeerReviewForAdmin_silent {level : JsNumber}
    (reads : levelOf (.obj props) = .ok level) :
    requirePeerReviewForAdmin.run envelope state = .ok none ↔
      ∃ review, reviewFor state (.obj props) = .ok review ∧
        ∀ found ∈ review, (peerReviewLevel.number.atMost level &&
          decide (found.decision = .approved) &&
          peerReviewLevel.number.atMost found.grantedNumber) = false := by
  simp only [requirePeerReviewForAdmin, named, request, payload, ne_eq, not_true_eq_false, if_false,
    readProp_obj, ok_bind, reads]
  cases reviewFor state (.obj props) with
  | error raised => simp [bind, Except.bind]
  | ok review =>
      simp only [ok_bind, Except.ok.injEq, exists_eq_left']
      cases review with
      | none => exact iff_of_true rfl (by simp)
      | some review =>
          simp only [Option.mem_def, Option.some.injEq, forall_eq']
          split
          · next applies =>
              refine iff_of_false ?_ (by simp [applies])
              intro same
              obtain ⟨text, -, answered⟩ := bind_eq_ok.mp same
              cases answered
          · next passes => exact iff_of_true rfl (by simpa using passes)

theorem executeApprovedRequest_executes {level : JsNumber}
    (reads : levelOf (.obj props) = .ok level) :
    (∃ bases, executeApprovedRequest.run envelope state = .ok (some (.execute bases))) ↔
      ∃ review, reviewFor state (.obj props) = .ok (some review) ∧ review.decision = .approved ∧
        level.atMost review.grantedNumber = true := by
  simp only [executeApprovedRequest, named, request, payload, ne_eq, not_true_eq_false, if_false,
    ok_bind, reads]
  cases reviewFor state (.obj props) with
  | error raised => simp [bind, Except.bind]
  | ok review =>
      cases review with
      | none => simp [bind, Except.bind, pure, Except.pure]
      | some review =>
          simp only [ok_bind, Except.ok.injEq, Option.some.injEq, exists_eq_left']
          split
          · next applies =>
              rw [Bool.and_eq_true, decide_eq_true_eq] at applies
              exact iff_of_true ⟨_, rfl⟩ applies
          · next fails =>
              refine iff_of_false (fun ⟨_, same⟩ => by cases same) ?_
              simpa using fails

/-- Once nothing has to be redacted, the business guards execute a grantable request and no
other one. -/
theorem business_executes_iff (host : Host) (clock : JsString) :
    Executes envelope state [allowResolve, executeBreakglass, escalateSensitiveResource,
        reviewRoleExplosion, flagRedundantGrant, reduceToLeastPrivilege host clock,
        refuseRejectedRequest, deferPendingReview, confirmRevoke, requirePeerReviewForAdmin,
        executeApprovedRequest] ↔
      Grantable state (.obj props) := by
  obtain ⟨resolve, breakglass, revoke⟩ := @otherKinds_silent envelope state request
  obtain ⟨level, reads⟩ := @levelOf_obj props
  have silent {guard : Guard AccessState} (run : guard.run envelope state = .ok none) :
      NeverExecutes (guard.run envelope state) := run ▸ never_none
  rw [executes_cons_iff (silent resolve), executes_cons_iff (silent breakglass),
    executes_cons_iff (escalateSensitiveResource_never envelope state),
    executes_cons_iff (reviewRoleExplosion_never envelope state),
    executes_cons_iff (flagRedundantGrant_never envelope state),
    executes_cons_iff (reduceToLeastPrivilege_never envelope state host clock),
    executes_cons_iff (refuseRejectedRequest_never envelope state),
    executes_cons_iff (deferPendingReview_never envelope state), executes_cons_iff (silent revoke),
    executes_cons_iff (requirePeerReviewForAdmin_never envelope state), executes_last,
    escalateSensitiveResource_silent request payload, reviewRoleExplosion_silent request payload,
    flagRedundantGrant_silent request payload reads,
    reduceToLeastPrivilege_silent request payload host clock reads,
    refuseRejectedRequest_silent request payload, deferPendingReview_silent request payload,
    requirePeerReviewForAdmin_silent request payload reads,
    executeApprovedRequest_executes request payload reads]
  constructor
  · rintro ⟨-, -, -, few, ⟨key, known, uncovered⟩, -, -, -, -, ⟨_, sameReview, peer⟩, review, found,
      approved, granted⟩
    rw [found] at sameReview
    cases sameReview
    have listed : state.reviews.lookup key = some review := by
      rw [reviewFor, known] at found
      exact Except.ok.inj found
    refine ⟨⟨key, review, level, known, reads, listed, approved, granted, ?_, uncovered⟩, few⟩
    cases low : peerReviewLevel.number.atMost level with
    | false => rfl
    | true =>
        have reaches := JsNumber.atMost_trans low granted
        have fails := peer review rfl
        simp [low, approved, reaches] at fails
  · rintro ⟨⟨key, review, other, known, same, listed, approved, granted, below, uncovered⟩, few⟩
    rw [reads] at same
    cases same
    have found : reviewFor state (.obj props) = .ok (some review) := by
      rw [reviewFor, known]
      exact congrArg Except.ok listed
    have allowed : ∃ allowed, maxAllowedLevel state (.obj props) = .ok allowed ∧
        level.atMost allowed.number = true := by
      obtain ⟨resourceId, principal, decision, grantedLevel⟩ := review
      dsimp only at approved
      subst approved
      rw [maxAllowedLevel, found]
      cases grantedLevel with
      | none => exact ⟨_, rfl, granted⟩
      | some grantedLevel => exact ⟨_, rfl, granted⟩
    refine ⟨resolve, breakglass, ⟨some review, found, by simp [approved]⟩, few,
      ⟨key, known, uncovered⟩, allowed, ⟨some review, found, by simp [approved]⟩, ⟨review, found⟩,
      revoke, ⟨some review, found, ?_⟩, review, found, approved, granted⟩
    rintro _ ⟨⟩
    rw [below]
    rfl

end Request

end Adjudicate.AccessGovernance
