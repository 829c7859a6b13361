/-
This file shows that a call whose only clamp mints its envelope again executes the clamped payload.
-/

import Adjudicate.Kernel.DecisionSource
import Adjudicate.Primitives.RewriteFrame
import Adjudicate.Shell.Confirmation
import Mathlib.Logic.Relation

namespace Adjudicate.Shell

open Js Canonical Adjudicate.Core Adjudicate.Kernel Adjudicate.Primitives
open Adjudicate.Effect

/-- This is the envelope with another payload and all of its other fields. -/
def rebuild (host : Host) (clock : JsString) (envelope : IntentEnvelope) (payload : JsValue) :
    Except Thrown IntentEnvelope :=
  buildEnvelope host clock
    { kind := envelope.kind
      payload := payload
      actor := envelope.actor
      taint := envelope.taint
      nonce := envelope.nonce
      createdAt := some envelope.createdAt
      origin := some envelope.origin
      resourceRefs := envelope.resourceRefs }

section

variable {S : Type}

/-- One of the rewrite guards substitutes the payload, and the other fields are kept. -/
def Clamps (host : Host) (clock : JsString) (guards : List (Guard S)) (state : S)
    (original clamped : IntentEnvelope) : Prop :=
  ∃ guard ∈ guards, ∃ rewritten reason bases,
    guard.run original state = .ok (some (.rewrite rewritten reason bases)) ∧
      rebuild host clock original rewritten.payload = .ok clamped

/-- No rewrite guard changes what the clamps have led to. -/
structure ClampFixpoint (host : Host) (clock : JsString) (guards : List (Guard S)) (state : S)
    (original clamped : IntentEnvelope) : Prop where
  reached : Relation.ReflTransGen (Clamps host clock guards state) original clamped
  fixed : ∀ other, ¬Clamps host clock guards state clamped other

/-- The call carries a verified envelope of the kind, and at most one clamp leads to an envelope that
executes. Only a call that nothing owns may be clamped. -/
structure ClampsOnce (host : Host) (clock : JsString) (guards : List (Guard S)) (unowned : Prop)
    (kind : JsString) (call : Call S) (clamped : IntentEnvelope) : Prop where
  request : call.envelope.kind = kind
  json : call.envelope.payload.IsJson
  verified : Verified host call.envelope call.kill
  reached : clamped = call.envelope ∨
    unowned ∧ Clamps host clock guards call.state call.envelope clamped
  executes : Yields (·.kind = .execute)
    (adjudicate host clamped call.state call.kill call.policy)

/-- The call returns an executing result with the clamped payload. -/
def ExecutesClamped (outcome : Except Thrown AdjudicateAndAuditResult) (clamped : IntentEnvelope) :
    Prop :=
  ∃ result, outcome = .ok result ∧ result.Executing ∧
    result.record.envelope.payload = clamped.payload

/-- The guard reads neither the origin nor the references nor the hash of an envelope. -/
def IgnoresOrigin (guard : Guard S) : Prop :=
  ∀ (envelope : IntentEnvelope) (origin : Origin) (resourceRefs : Option ResourceRefs)
    (intentHash : JsString) (state : S),
    guard.run { envelope with origin, resourceRefs, intentHash } state = guard.run envelope state

theorem firstOutcome_ignoresOrigin {guards : List (Guard S)}
    (ignore : ∀ guard ∈ guards, IgnoresOrigin guard) (envelope : IntentEnvelope) (origin : Origin)
    (resourceRefs : Option ResourceRefs) (intentHash : JsString) (state : S) :
    firstOutcome { envelope with origin, resourceRefs, intentHash } state guards =
      firstOutcome envelope state guards := by
  induction guards with
  | nil => rfl
  | cons guard guards ih =>
      obtain ⟨head, tail⟩ := List.forall_mem_cons.mp ignore
      rw [firstOutcome, firstOutcome, head, ih tail]

theorem canProposeWithOrigin_ignores {policy : TaintPolicy}
    (lenient : policy.requiresUncontaminatedOrigin = none) (taint : Taint) (kind : JsString)
    (first second : Origin) :
    canProposeWithOrigin taint kind first policy = canProposeWithOrigin taint kind second policy := by
  rw [canProposeWithOrigin, canProposeWithOrigin, lenient]

end

section

variable {host : Host} {clock : JsString} {original rewritten clamped : IntentEnvelope}

theorem rebuild_fields {payload : JsValue}
    (rebuilt : rebuild host clock original payload = .ok clamped) :
    clamped.kind = original.kind ∧ clamped.payload = payload ∧ clamped.taint = original.taint ∧
      clamped.createdAt = original.createdAt := by
  obtain ⟨fields, createdAt, -⟩ := buildEnvelope_eq_ok.mp rebuilt
  have project {A : Type} (read : HashedFields → A) := congrArg read fields
  have kind := project HashedFields.kind
  have payload := project HashedFields.payload
  have taint := project HashedFields.taint
  exact ⟨kind, payload, taint, createdAt⟩

/-- A guard that mints its rewriting and a rebuilding differ in the origin, the references and the
hash. -/
theorem remint_eq_rebuild {payload : JsValue}
    (minted : remint host clock original payload = .ok rewritten)
    (rebuilt : rebuild host clock original payload = .ok clamped) :
    rewritten = { clamped with
      origin := defaultOrigin, resourceRefs := none, intentHash := rewritten.intentHash } := by
  obtain ⟨fields, createdAt⟩ := remint_fields minted
  obtain ⟨kept, instant, -⟩ := buildEnvelope_eq_ok.mp rebuilt
  obtain ⟨rewrittenFields, rewrittenAt, hash⟩ := rewritten
  obtain ⟨clampedFields, clampedAt, other⟩ := clamped
  dsimp only at fields createdAt kept instant
  subst fields createdAt kept instant
  rfl

/-- Rebuilding a verified envelope with its own payload gives the envelope. -/
theorem rebuild_self {kill : KillSwitchState} (verified : Verified host original kill) :
    rebuild host clock original original.payload = .ok original := by
  have fields : original.toHashedFields =
      { version := intentEnvelopeVersion, kind := original.kind, payload := original.payload,
        nonce := original.nonce, actor := original.actor, taint := original.taint,
        origin := original.origin, resourceRefs := original.resourceRefs } := by
    rw [← verified.2.1]
  have derived := verified.2.2
  rw [deriveIntentHash, fields] at derived
  exact buildEnvelope_eq_ok.mpr ⟨fields, rfl, derived⟩

variable {S : Type} {state : S} {policy : PolicyBundle S} {kill : KillSwitchState}
  (ignore : ∀ guard ∈ policy.stateGuards ++ policy.business, IgnoresOrigin guard)
  (lenient : policy.taint.requiresUncontaminatedOrigin = none)
  (unowned : ∀ envelope, AllSilent envelope state policy.authGuards)

include unowned

/-- Without an injected authority only the state guards and the business guards answer. -/
theorem answers_unowned_iff {wanted : Decision → Prop} {envelope : IntentEnvelope} :
    Answers host envelope state wanted policy ↔
      Speaks host envelope state wanted policy.stateGuards ∨
        AllSilent envelope state policy.stateGuards ∧
          canProposeWithOrigin envelope.taint envelope.kind envelope.origin policy.taint = .ok true ∧
          (Speaks host envelope state wanted policy.business ∨
            AllSilent envelope state policy.business ∧
              wanted (defaultDecision policy.default [])) := by
  have mute : ¬Speaks host envelope state wanted policy.authGuards := by
    rintro ⟨decision, first, -⟩
    have silent := unowned envelope
    rw [AllSilent, first] at silent
    cases silent
  rw [Answers, or_iff_right mute, and_iff_right (unowned envelope)]

include ignore lenient

/-- What executes when it is rebuilt executes when it is minted. -/
theorem remint_executes {payload : JsValue}
    (minted : remint host clock original payload = .ok rewritten)
    (rebuilt : rebuild host clock original payload = .ok clamped)
    (executes : Yields (·.kind = .execute) (adjudicate host clamped state kill policy)) :
    Yields (·.kind = .execute) (adjudicate host rewritten state kill policy) := by
  have same := remint_eq_rebuild minted rebuilt
  have version := congrArg HashedFields.version (remint_fields minted).1
  rw [yields_adjudicate host _ state kill policy actionable_execute,
    answers_unowned_iff unowned] at executes
  rw [yields_adjudicate host _ state kill policy actionable_execute, answers_unowned_iff unowned]
  obtain ⟨⟨inactive, -⟩, answers⟩ := executes
  refine ⟨⟨inactive, version, deriveIntentHash_of_buildEnvelope minted⟩, ?_⟩
  have outcomes {guards : List (Guard S)} (listed : ∀ guard ∈ guards, IgnoresOrigin guard) :
      firstOutcome rewritten state guards = firstOutcome clamped state guards := by
    rw [same]
    exact firstOutcome_ignoresOrigin listed clamped _ _ _ state
  have gates (decision : Decision) :
      gateRewrite host decision rewritten = gateRewrite host decision clamped := by
    rw [same]
    rfl
  have taint : canProposeWithOrigin rewritten.taint rewritten.kind rewritten.origin policy.taint =
      canProposeWithOrigin clamped.taint clamped.kind clamped.origin policy.taint := by
    rw [same]
    exact canProposeWithOrigin_ignores lenient _ _ _ _
  obtain ⟨stateGuards, business⟩ := List.forall_mem_append.mp ignore
  simpa only [Speaks, AllSilent, outcomes stateGuards, outcomes business, gates, taint] using answers

omit ignore lenient in
/-- The first pass rewrites when the state guards are silent and a clamp answers first. -/
theorem clamp_rewrites {payload : JsValue} {reason : JsString} {bases : List DecisionBasis}
    (verified : Verified host original kill)
    (minted : remint host clock original payload = .ok rewritten)
    (silent : AllSilent original state policy.stateGuards)
    (trusted : canProposeWithOrigin original.taint original.kind original.origin policy.taint =
      .ok true)
    (first : firstOutcome original state policy.business =
      .ok (some (.rewrite rewritten reason bases))) :
    Yields (RewritesTo rewritten) (adjudicate host original state kill policy) := by
  have taint := congrArg HashedFields.taint (remint_fields minted).1
  rw [yields_adjudicate host _ state kill policy (actionable_rewritesTo rewritten),
    answers_unowned_iff unowned]
  refine ⟨verified, .inr ⟨silent, trusted, .inl ⟨_, first, ?_⟩⟩⟩
  refine (yields_gateRewrite host original (actionable_rewritesTo rewritten) _).mpr
    ⟨⟨_, _, rfl⟩, ?_⟩
  rintro _ _ _ ⟨⟩
  exact ⟨deriveIntentHash_of_buildEnvelope minted, Nat.le_of_eq (congrArg taintRank taint)⟩

end

section Runs

variable {S : Type} {host : Host} {call : Call S} {instant : JsNumber → Prop}
  {trace : List ShellEvent} {outcome : Except Thrown AdjudicateAndAuditResult}

/-- Every dependency of the call succeeds, and no ledger is asked. -/
structure CalmCall (call : Call S) (instant : JsNumber → Prop) (trace : List ShellEvent) : Prop where
  unledgered : call.deps.ledger = none
  usable : ∀ context ∈ call.deps.context, context.killSwitch = true
  finite : ∀ start now, instant start → instant now → (now.sub start).isFinite = true
  snapshot : ∀ recorded ∈ call.deps.aggregateSnapshot, AllFinite recorded.snapshot
  signs : ∀ signer ∈ call.deps.signer, ∀ hash, ∃ signature, signer.sign hash = .ok signature
  calm : ∀ event ∈ trace, Calm instant event

/-- A calm call returns the executing decision that it settles. -/
theorem calm_executes (calm : CalmCall call instant trace)
    (run : Runs (adjudicateAndAudit host call) trace outcome) {decision : Decision}
    {rewritten : Option IntentEnvelope}
    (settles : settled host call = .ok (decision, rewritten))
    (executes : decision.kind = .execute ∨ decision.kind = .rewrite)
    (envelope : AllFinite (executedEnvelope call.envelope rewritten).toJs)
    (reportable : AllFinite decision.toJs) :
    ∃ result, outcome = .ok result ∧ result.Executing ∧
      result.record.envelope = executedEnvelope call.envelope rewritten := by
  obtain ⟨result, rfl, -⟩ := calm_adjudicateAndAudit host call settles calm.usable calm.finite
    envelope reportable calm.snapshot calm.signs trace outcome run calm.calm
  refine ⟨result, rfl, ?_⟩
  obtain ⟨stopped, -⟩ | ⟨suppressed, -⟩ | ⟨other, same, recorded, -⟩ :=
    adjudicateAndAudit_ok host call run
  · exact (stopped (Calm.tenantOpen calm.calm calm.usable)).elim
  · exact (suppressed (Calm.ledgerOpen calm.calm)).elim
  · rw [settles] at same
    obtain ⟨rfl, rfl⟩ := Prod.mk.inj (Except.ok.inj same)
    exact ⟨(executing_iff_kind host call run).mpr executes, recorded⟩

end Runs

section Envelopes

variable {host : Host} {envelope : IntentEnvelope} {intentHash : JsString}
  (derived : deriveIntentHash host envelope = .ok intentHash)

include derived

theorem allFinite_hashed : AllFinite envelope.payload ∧ AllFinite envelope.toJs := by
  have finite := (sha256Canonical_returns host _).mp ⟨_, derived⟩
  rw [intentHashInput, allFinite_obj] at finite
  simp only [List.forall_mem_cons, List.not_mem_nil, false_implies, implies_true, and_true] at finite
  obtain ⟨version, -, payload, -, actor, -, -, refs⟩ := finite
  refine ⟨payload, ?_⟩
  rw [IntentEnvelope.toJs, allFinite_obj]
  simp only [List.forall_mem_append, List.forall_mem_cons, List.not_mem_nil, false_implies,
    implies_true, and_true]
  refine ⟨⟨version, trivial, payload, trivial, trivial, actor, trivial, trivial, trivial⟩, ?_⟩
  cases declared : envelope.resourceRefs with
  | none => exact List.forall_mem_nil _
  | some resourceRefs =>
      rw [declared] at refs
      exact List.forall_mem_singleton.mpr refs

end Envelopes

section Composition

variable {S : Type} {host : Host} {clock : JsString} {call : Call S} {instant : JsNumber → Prop}
  {trace : List ShellEvent} {outcome : Except Thrown AdjudicateAndAuditResult}
  (default : call.policy.default = .refuse)
  (finite : ∀ guard ∈ call.policy.stateGuards ++ call.policy.authGuards ++ call.policy.business,
    ∀ own, guard.run call.envelope call.state = .ok (some own) →
      own.kind = .execute ∨ own.kind = .rewrite → AllFinite own.toJs)
  (verified : Verified host call.envelope call.kill) (calm : CalmCall call instant trace)
  (run : Runs (adjudicateAndAudit host call) trace outcome)

include default finite verified calm run

/-- An envelope that needs no clamp executes with its payload. -/
theorem unclamped_composes
    (executes : Yields (·.kind = .execute)
      (adjudicate host call.envelope call.state call.kill call.policy)) :
    ∃ result, outcome = .ok result ∧ result.Executing ∧ result.record.envelope = call.envelope := by
  obtain ⟨decision, adjudicated, kind⟩ := executes
  have acts : decision.kind ≠ .refuse := by
    rw [kind]
    exact nofun
  have reportable : AllFinite decision.toJs :=
    adjudicate_allFinite adjudicated acts default fun guard listed own speaks same =>
      finite guard listed own speaks (.inl (same.trans kind))
  cases decision with
  | execute bases =>
      exact calm_executes calm run (settled_of_execute host call adjudicated rfl) (.inl rfl)
        (allFinite_hashed verified.2.2).2 reportable
  | _ => cases kind

/-- A clamp that comes first and leads to an executing envelope executes the clamped payload. -/
theorem clamp_composes {rewritten clamped : IntentEnvelope} {reason : JsString}
    {bases : List DecisionBasis}
    (ignore : ∀ guard ∈ call.policy.stateGuards ++ call.policy.business, IgnoresOrigin guard)
    (lenient : call.policy.taint.requiresUncontaminatedOrigin = none)
    (unowned : ∀ envelope, AllSilent envelope call.state call.policy.authGuards)
    (minted : remint host clock call.envelope rewritten.payload = .ok rewritten)
    (rebuilt : rebuild host clock call.envelope rewritten.payload = .ok clamped)
    (silent : AllSilent call.envelope call.state call.policy.stateGuards)
    (trusted : canProposeWithOrigin clamped.taint clamped.kind clamped.origin call.policy.taint =
      .ok true)
    (first : firstOutcome call.envelope call.state call.policy.business =
      .ok (some (.rewrite rewritten reason bases)))
    (executes : Yields (·.kind = .execute)
      (adjudicate host clamped call.state call.kill call.policy)) :
    ExecutesClamped outcome clamped := by
  obtain ⟨kind, payload, taint, -⟩ := rebuild_fields rebuilt
  rw [taint, kind, canProposeWithOrigin_ignores lenient _ _ _ call.envelope.origin] at trusted
  obtain ⟨decision, adjudicated, text, own, rfl⟩ :=
    clamp_rewrites unowned verified minted silent trusted first
  obtain ⟨again, second, kindAgain⟩ := remint_executes ignore lenient unowned minted rebuilt executes
  have reportable : AllFinite (Decision.rewrite rewritten text own).toJs :=
    adjudicate_allFinite adjudicated nofun default fun guard listed other speaks same =>
      finite guard listed other speaks (.inr same)
  cases again with
  | execute entries =>
      obtain ⟨result, rfl, executing, recorded⟩ := calm_executes calm run
        (settled_of_rewrite host call adjudicated second) (.inr rfl)
        (allFinite_hashed (deriveIntentHash_of_buildEnvelope minted)).2 reportable
      refine ⟨result, rfl, executing, ?_⟩
      rw [recorded, payload]
      rfl
  | _ => cases kindAgain

end Composition

end Adjudicate.Shell
