/-
This file shows when a vendor callback that executes verifies a pending and cleared session.
-/

import Adjudicate.IdentityKyc.Policy
import Adjudicate.Shell.ClampComposition

namespace Adjudicate.IdentityKyc

open Js Canonical Adjudicate.Core Adjudicate.Kernel Adjudicate.Primitives Adjudicate.Shell
open Adjudicate.Audit (readProp)
open Adjudicate.Effect

/-- The session that the payload names waits for its vendor. -/
def NamesPending (state : IdentityKycState) (payload : JsValue) : Prop :=
  ∃ session, state.sessionOf (payload.getOwn "sessionId") = some session ∧
    session.status = .vendorPending

/-- The callback is trusted and clears a pending session with a high score. -/
structure KycSafe (state : IdentityKycState) (envelope : IntentEnvelope) : Prop where
  kind : envelope.kind = utf16 "kyc.vendor.callback"
  trusted : taintRank .trusted ≤ taintRank envelope.taint
  pending : NamesPending state envelope.payload
  clear : envelope.payload.getOwn "amlStatus" = .str "CLEAR"
  unmatched : envelope.payload.getOwn "amlMatchScore" = .undefined ∨
    ∃ amlMatchScore, envelope.payload.getOwn "amlMatchScore" = .num amlMatchScore ∧
      amlMatchScore.below kycSanctionsMatchThreshold = true
  score : ∃ score, envelope.payload.getOwn "score" = .num score ∧
    kycExecuteThreshold.atMost score = true ∧ score.atMost 100 = true

/-- The fields of the payload have their declared types, and its session is pending. -/
structure KycChecked (state : IdentityKycState) (payload : JsValue) : Prop where
  pending : NamesPending state payload
  amlStatus : payload.getOwn "amlStatus" = .str "CLEAR" ∨ payload.getOwn "amlStatus" = .str "FLAGGED"
  amlMatchScore : payload.getOwn "amlMatchScore" = .undefined ∨
    ∃ amlMatchScore, payload.getOwn "amlMatchScore" = .num amlMatchScore
  score : ∃ score, payload.getOwn "score" = .num score ∧ score.atMost 100 = true

section Guards

variable {envelope : IntentEnvelope} {state : IdentityKycState}

theorem defers_opinions : Opinions (·.kind = .defer) (requireDocumentUpload.run envelope state) ∧
    Opinions (·.kind = .defer) (waitForVerification.run envelope state) := by
  have defers (options : StateDeferGuardOptions IdentityKycState) :
      Opinions (·.kind = .defer) ((createStateDeferGuard options).run envelope state) :=
    opinions_bind fun _ _ => opinions_ite (fun _ => opinions_none) fun _ => opinions_answer rfl
  exact ⟨defers _, defers _⟩

theorem flag_opinions : Opinions (·.kind = .escalate) (escalateOnAmlFlag.run envelope state) := by
  refine opinions_ite (fun _ => opinions_none) fun _ => opinions_bind fun amlStatus _ => ?_
  refine opinions_ite (fun _ => opinions_none) fun _ => opinions_bind fun entity _ => ?_
  exact opinions_bind fun score _ => opinions_bind fun reason _ => opinions_answer rfl

theorem sanctions_opinions :
    Opinions (·.kind = .escalate) (escalateOnSanctionsMatchScore.run envelope state) :=
  createEscalateGuard_escalates

theorem low_opinions : Opinions (·.kind = .refuse) (refuseLowScore.run envelope state) := by
  refine createThresholdGuard_opinions fun value decision crossed => ?_
  obtain ⟨text, -, ⟨⟩⟩ := bind_eq_ok.mp crossed
  rfl

theorem high_opinions : Opinions (·.kind = .execute) (executeOnHighScore.run envelope state) := by
  refine createThresholdGuard_opinions fun value decision crossed => ?_
  cases crossed
  rfl

/-- The flag guard is silent on every callback whose status is no flag. -/
theorem flag_silent (callback : envelope.kind = utf16 "kyc.vendor.callback")
    (silent : escalateOnAmlFlag.run envelope state = .ok none) :
    envelope.payload.getOwn "amlStatus" ≠ .str "FLAGGED" ∧
      ∀ key, readProp envelope.payload key = .ok (envelope.payload.getOwn key) := by
  simp only [escalateOnAmlFlag, constant, callback, ne_eq, not_true_eq_false, if_false] at silent
  obtain ⟨amlStatus, read, later⟩ := bind_eq_ok.mp silent
  obtain rfl := Audit.readProp_eq_ok read
  constructor
  · intro flagged
    rw [if_neg (by rw [isText_iff.mpr flagged]; decide)] at later
    obtain ⟨_, -, later⟩ := bind_eq_ok.mp later
    obtain ⟨_, -, later⟩ := bind_eq_ok.mp later
    obtain ⟨_, -, ⟨⟩⟩ := bind_eq_ok.mp later
  · intro key
    cases payload : envelope.payload with
    | undefined | null =>
        rw [payload] at read
        cases read
    | _ => rfl

/-- Only a callback without a flag, a strong match or a low score executes. -/
theorem callback_executes
    (gives : Gives (·.kind = .execute) (firstOutcome envelope state policy.business)) :
    envelope.kind = utf16 "kyc.vendor.callback" ∧
      envelope.payload.getOwn "amlStatus" ≠ .str "FLAGGED" ∧
      (∀ amlMatchScore, envelope.payload.getOwn "amlMatchScore" = .num amlMatchScore →
        kycSanctionsMatchThreshold.atMost amlMatchScore = false) ∧
      ∀ score, envelope.payload.getOwn "score" = .num score →
        kycExecuteThreshold.atMost score = true := by
  obtain ⟨upload, verification⟩ := @defers_opinions envelope state
  rw [policy, gives_later_iff (never_of_opinions upload fun _ same => same ▸ nofun),
    gives_later_iff (never_of_opinions verification fun _ same => same ▸ nofun),
    gives_later_iff (never_of_opinions flag_opinions fun _ same => same ▸ nofun),
    gives_later_iff (never_of_opinions sanctions_opinions fun _ same => same ▸ nofun),
    gives_later_iff (never_of_opinions low_opinions fun _ same => same ▸ nofun), gives_cons_iff]
    at gives
  obtain ⟨-, -, flag, sanctions, -, ⟨decision, high, -⟩ | ⟨-, later⟩⟩ := gives
  · have callback : envelope.kind = utf16 "kyc.vendor.callback" := by
      by_contra other
      have quiet : executeOnHighScore.run envelope state = .ok none := by
        simp only [executeOnHighScore, createThresholdGuard, scoreThreshold, other, decide_false, ok_bind,
          Bool.not_false, if_true]
        rfl
      rw [quiet] at high
      cases high
    have compares {kind : JsString} (same : envelope.kind = kind) :
        (Except.ok (decide (envelope.kind = kind)) : Except Thrown Bool) = .ok true := by
      rw [same, decide_eq_true rfl]
    obtain ⟨unflagged, reads⟩ := flag_silent callback flag
    refine ⟨callback, unflagged, fun amlMatchScore held => ?_, fun score held => ?_⟩
    · obtain missing | null | ⟨number, converted, low⟩ :=
        createThresholdGuard_silent (compares callback) (reads "amlMatchScore") sanctions
      · rw [held] at missing
        cases missing
      · rw [held] at null
        cases null
      · rw [held] at converted
        cases converted
        exact low
    · obtain ⟨-, number, converted, reaches⟩ :=
        createThresholdGuard_speaks (compares callback) (reads "score") high
      rw [held] at converted
      cases converted
      exact reaches
  · exact (not_gives_nil later).elim

end Guards

section Kernel

variable {host : Host} {envelope : IntentEnvelope} {state : IdentityKycState}
  {kill : KillSwitchState} {wanted : Decision → Prop}

theorem kyc_yields (actionable : Actionable wanted)
    (yields : Yields wanted (adjudicate host envelope state kill policy)) :
    Admitted host envelope state kill policy ∧
      Gives wanted (firstOutcome envelope state policy.business) := by
  have authNever : ∀ guard ∈ policy.authGuards, ¬Gives wanted (guard.run envelope state) :=
    List.forall_mem_singleton.mpr
      (never_of_kind actionable.not_refuse createInjectedAuthorityGuard_refuses)
  exact ((business_gives_iff actionable (fun _ listed => (List.not_mem_nil listed).elim) authNever rfl).mp yields).imp_right
    (gives_of_speaks actionable)

/-- No guard of the pack asks or rewrites. -/
theorem business_opinions :
    Opinions (fun decision => decision.kind ≠ .requestConfirmation ∧ decision.kind ≠ .rewrite)
      (firstOutcome envelope state policy.business) := by
  have final {kind : DecisionKind} {outcome : Except Thrown (Option Decision)}
      (opinions : Opinions (·.kind = kind) outcome) (asks : kind ≠ .requestConfirmation)
      (rewrites : kind ≠ .rewrite) :
      Opinions (fun decision => decision.kind ≠ .requestConfirmation ∧ decision.kind ≠ .rewrite)
        outcome := by
    intro decision speaks
    obtain rfl := opinions decision speaks
    exact ⟨asks, rewrites⟩
  obtain ⟨upload, verification⟩ := @defers_opinions envelope state
  apply opinions_firstOutcome
  simp only [policy, List.forall_mem_cons, List.not_mem_nil, false_implies, implies_true, and_true]
  exact ⟨final upload (by decide) (by decide), final verification (by decide) (by decide),
    final flag_opinions (by decide) (by decide), final sanctions_opinions (by decide) (by decide),
    final low_opinions (by decide) (by decide), final high_opinions (by decide) (by decide)⟩

/-- A callback that passes the taint gate is trusted. -/
theorem trusted_of_admitted (callback : envelope.kind = utf16 "kyc.vendor.callback")
    (admitted : Admitted host envelope state kill policy) :
    taintRank .trusted ≤ taintRank envelope.taint := by
  by_contra low
  have minimum : policy.taint.minimumFor envelope.kind = .ok .trusted := by
    rw [callback]
    rfl
  have gate := (canProposeWithOrigin_of_below envelope.origin minimum (Nat.not_le.mp low)).2
  have passed := admitted.taint
  rw [gate] at passed
  cases passed

/-- An executing callback is safe exactly when its fields and its session were checked. -/
theorem kycSafe_iff_checked
    (executes : Yields (·.kind = .execute) (adjudicate host envelope state kill policy)) :
    KycSafe state envelope ↔ KycChecked state envelope.payload := by
  obtain ⟨admitted, gives⟩ := kyc_yields actionable_execute executes
  obtain ⟨callback, unflagged, unmatched, reaches⟩ := callback_executes gives
  constructor
  · rintro ⟨-, -, pending, clear, matching, score, held, -, top⟩
    refine ⟨pending, .inl clear, matching.imp_right ?_, score, held, top⟩
    rintro ⟨amlMatchScore, held, -⟩
    exact ⟨amlMatchScore, held⟩
  · rintro ⟨pending, status, matching, score, held, top⟩
    refine ⟨callback, trusted_of_admitted callback admitted, pending, status.resolve_right unflagged,
      matching.imp_right ?_, score, held, reaches score held, top⟩
    rintro ⟨amlMatchScore, held⟩
    have finite := allFinite_getOwn (allFinite_hashed admitted.verified.2.2).1 (utf16 "amlMatchScore")
    rw [held] at finite
    have defined : amlMatchScore ≠ .nan := by
      rintro rfl
      cases finite
    exact ⟨amlMatchScore, held, JsNumber.below_of_not_atMost defined (by decide +kernel)
      (unmatched amlMatchScore held)⟩

end Kernel

section Runs

variable {host : Host} {call : Call IdentityKycState} {trace : List ShellEvent}
  {result : AdjudicateAndAuditResult}

variable (bundle : call.policy = policy)
  (run : Runs (adjudicateAndAudit host call) trace (.ok result)) (executes : result.Executing)

include bundle run executes

/-- What executes is the given envelope, which the kernel lets execute at once. -/
theorem executes_given : result.record.envelope = call.envelope ∧
    Yields (·.kind = .execute) (adjudicate host call.envelope call.state call.kill policy) := by
  have cases := executing_cases host call run executes
  rw [bundle] at cases
  obtain ⟨⟨bases, first⟩, recorded⟩ | ⟨⟨prompt, bases, first⟩, -⟩ |
    ⟨reason, bases, second, first, -⟩ := cases
  · exact ⟨recorded, _, first, rfl⟩
  · obtain ⟨-, decision, speaks, asks⟩ := kyc_yields actionable_requestConfirmation ⟨_, first, rfl⟩
    exact ((business_opinions decision speaks).1 asks).elim
  · obtain ⟨-, decision, speaks, _, _, rfl⟩ :=
      kyc_yields (actionable_rewritesTo result.record.envelope) ⟨_, first, _, _, rfl⟩
    exact ((business_opinions _ speaks).2 rfl).elim

/-- What executes under the pack is safe exactly when its fields and its session were checked. -/
theorem kyc_safe_iff :
    KycSafe call.state result.record.envelope ↔ KycChecked call.state call.envelope.payload := by
  obtain ⟨recorded, yields⟩ := executes_given bundle run executes
  rw [recorded]
  exact kycSafe_iff_checked yields

end Runs

def callbackText : JsString :=
  utf16 "\x7b\"actor\":\x7b\"principal\":\"system\",\"sessionId\":\"s-1\"\x7d," ++
    utf16 "\"kind\":\"kyc.vendor.callback\",\"nonce\":\"n-1\",\"origin\":\"System\",\"payload\":" ++
    utf16 "\x7b\"amlStatus\":\"CLEAR\",\"score\":95,\"sessionId\":\"k-1\"\x7d," ++
    utf16 "\"taint\":\"TRUSTED\",\"version\":2\x7d"

/-- The digest of the callback is its SHA-256 digest. -/
def callbackHost : Host := .ofDigests
  [(callbackText, "a255245623ae33aafa14058d7ec6f30ecb72241d6159e99d853d2619289b780c")]

def clearCallback : IntentEnvelope where
  version := 2
  kind := "kyc.vendor.callback"
  payload := .obj [("amlStatus", .str "CLEAR"), ("score", .num 95), ("sessionId", .str "k-1")]
  nonce := "n-1"
  actor := { principal := .system, sessionId := "s-1", role := none, attestation := none }
  taint := .trusted
  origin := .system
  resourceRefs := none
  createdAt := "2026-01-01T00:00:00.000Z"
  intentHash := "a255245623ae33aafa14058d7ec6f30ecb72241d6159e99d853d2619289b780c"

def callbackCall (status : KycSessionStatus) : Call IdentityKycState where
  envelope := clearCallback
  state := { sessions := [("k-1", ⟨"k-1", status⟩)], authority := none }
  policy := policy
  kill := releasedKill
  deps := sampleDeps

theorem kyc_safe_clearCallback :
    ∃ trace result, Runs (adjudicateAndAudit callbackHost (callbackCall .vendorPending)) trace
        (.ok result) ∧
      (KycSafe (callbackCall .vendorPending).state result.record.envelope ↔
        KycChecked (callbackCall .vendorPending).state clearCallback.payload) := by
  obtain ⟨trace, result, run, kind⟩ := @calm_run _ _ callbackHost (callbackCall .vendorPending)
    (·.decision.kind) .execute (by decide +kernel)
  exact ⟨trace, result, run, kyc_safe_iff rfl run
    ((executing_iff_kind callbackHost _ run).mpr (.inl kind))⟩

/-- A callback verifies a session that has been rejected. -/
theorem rejectedSession_executes :
    ∃ trace result, Runs (adjudicateAndAudit callbackHost (callbackCall .rejected)) trace
        (.ok result) ∧
      result.Executing ∧ ¬KycSafe (callbackCall .rejected).state result.record.envelope := by
  obtain ⟨trace, result, run, kind⟩ := @calm_run _ _ callbackHost (callbackCall .rejected)
    (·.decision.kind) .execute (by decide +kernel)
  have executes := (executing_iff_kind callbackHost _ run).mpr (.inl kind)
  refine ⟨trace, result, run, executes, fun safe => ?_⟩
  obtain ⟨session, found, pending⟩ := safe.pending
  rw [(executes_given rfl run executes).1] at found
  obtain rfl := Option.some.inj found
  cases pending

end Adjudicate.IdentityKyc
