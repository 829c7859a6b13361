/-
This file decides when an envelope below its taint minimum can execute.
-/

import Adjudicate.Kernel.Steps

namespace Adjudicate.Kernel

open Js Canonical Adjudicate.Core

/-- The kernel returns an executing decision. -/
def Executes (outcome : Except Thrown Decision) : Prop :=
  ∃ decision, outcome = .ok decision ∧ decision.kind = .execute

theorem executes_ok {decision : Decision} :
    Executes (.ok decision) ↔ decision.kind = .execute := by
  constructor
  · rintro ⟨other, same, executing⟩
    cases same
    exact executing
  · exact fun executing => ⟨decision, rfl, executing⟩

theorem not_executes_error {raised : Thrown} : ¬Executes (.error raised) := by
  rintro ⟨decision, same, -⟩
  cases same

theorem executes_iff_kind {outcome : Except Thrown Decision} :
    Executes outcome ↔ outcome.map Decision.kind = .ok .execute := by
  cases outcome with
  | error raised => exact iff_of_false not_executes_error (by simp [Except.map])
  | ok decision => exact executes_ok.trans ⟨congrArg Except.ok, Except.ok.inj⟩

theorem not_executes_panic (phase : TracePhase) (guardIndex : Option Nat)
    (guardName : Option JsString) (err : Thrown) (accumulated : List DecisionBasis) :
    ¬Executes (guardPanicRefusal phase guardIndex guardName err accumulated) := by
  rintro ⟨decision, same, executing⟩
  cases err with
  | unprintable raised => cases same
  | _ =>
      cases same
      cases executing

section

variable {S : Type} (host : Host) (envelope : IntentEnvelope) (state : S)

/-- The rewrite gate never turns a decision into an execution. -/
theorem executes_gateRewrite (decision : Decision) :
    Executes (gateRewrite host decision envelope) ↔ decision.kind = .execute := by
  cases decision with
  | rewrite rewritten reason basis =>
      apply iff_of_false _ nofun
      rw [gateRewrite]
      cases deriveIntentHash host rewritten with
      | error err => exact not_executes_panic _ _ _ _ _
      | ok derived =>
          dsimp only
          split
          · rw [executes_ok]
            nofun
          · split
            · rw [executes_ok]
              nofun
            · rw [executes_ok]
              nofun
  | _ => exact executes_ok

/-- A step that answers decides whether the run executes. -/
theorem executes_answer {step : Step} {answer : Except Thrown Decision}
    (speaks : step.outcome = answer.map some) (more : List Step)
    (traceOut : Option (List AdjudicationTraceEntry)) :
    Executes ((runSteps (step :: more) traceOut).map Prod.fst) ↔ Executes answer := by
  rw [runSteps, speaks]
  cases answer with
  | error raised => exact iff_of_false not_executes_error not_executes_error
  | ok decision =>
      change Executes (.ok (enrichBasis decision _)) ↔ _
      rw [executes_ok, executes_ok, enrichBasis_kind]

/-- When nothing after a guard list executes, only its first outcome can. -/
theorem executes_guardSteps (phase : TracePhase) {more : List Step}
    (blocked : ∀ traceOut, ¬Executes ((runSteps more traceOut).map Prod.fst))
    (guards : List (Guard S)) (index : Nat)
    (traceOut : Option (List AdjudicationTraceEntry)) :
    Executes ((runSteps (guardSteps host envelope state phase guards index ++ more)
        traceOut).map Prod.fst) ↔
      ∃ bases, firstOutcome envelope state guards = .ok (some (.execute bases)) := by
  induction guards generalizing index traceOut with
  | nil => exact iff_of_false (blocked traceOut) (by rintro ⟨_, ⟨⟩⟩)
  | cons guard guards ih =>
      rw [guardSteps, List.cons_append, firstOutcome]
      cases run : guard.run envelope state with
      | error err =>
          rw [executes_answer (guardAnswer_panic host envelope state run [])]
          exact iff_of_false (not_executes_panic _ _ _ _ _) (by rintro ⟨_, ⟨⟩⟩)
      | ok opinion =>
          cases opinion with
          | none =>
              rw [runSteps, guardAnswer_silent host envelope state run]
              exact ih (index + 1) _
          | some decision =>
              have speaks := @guardAnswer_speaks S host envelope state phase index guard decision
                run []
              simp only [enrichBasis_nil] at speaks
              rw [executes_answer speaks, executes_gateRewrite]
              cases decision <;> simp [Decision.kind]

variable (kill : KillSwitchState) (policy : PolicyBundle S)

/-- Below the minimum the taint step always answers, and never with an execution. -/
theorem taintPhase_blocks {required : Taint}
    (minimum : policy.taint.minimumFor envelope.kind = .ok required)
    (below : taintRank envelope.taint < taintRank required) (more : List Step)
    (traceOut : Option (List AdjudicationTraceEntry)) :
    ¬Executes ((runSteps (taintPhase envelope policy.taint :: more) traceOut).map Prod.fst) := by
  obtain ⟨rank, gate⟩ := canProposeWithOrigin_of_below envelope.origin minimum below
  have refused : (taintPhase envelope policy.taint).outcome =
      (Except.ok (taintRefusal envelope false [])).map some := by
    rw [taintPhase, taintGate, rank, gate]
    rfl
  rw [executes_answer refused, executes_ok]
  rintro ⟨⟩

/-- An envelope that is not verified is never executed. -/
theorem executes_verified (executing : Executes (adjudicate host envelope state kill policy)) :
    kill.active = false ∧ envelope.version = intentEnvelopeVersion ∧
      deriveIntentHash host envelope = .ok envelope.intentHash := by
  rw [adjudicate_eq_map] at executing
  cases active : kill.active with
  | true =>
      rw [adjudicateImpl_eq_conclude, killStep, active] at executing
      cases executes_ok.mp executing
  | false =>
      refine ⟨rfl, ?_⟩
      by_cases version : envelope.version = intentEnvelopeVersion
      · refine ⟨version, ?_⟩
        rw [adjudicateImpl_reaches_hash host envelope state policy none active version,
          hashStep] at executing
        cases derived : deriveIntentHash host envelope with
        | error err =>
            rw [derived] at executing
            cases err with
            | unprintable raised => exact (not_executes_error executing).elim
            | _ => cases executes_ok.mp executing
        | ok derivedHash =>
            rw [derived] at executing
            by_cases same : derivedHash = envelope.intentHash
            · rw [same]
            · dsimp only at executing
              rw [if_pos same] at executing
              cases executes_ok.mp executing
      · rw [adjudicateImpl_eq_conclude, killStep, active] at executing
        change Executes ((conclude (versionStep envelope [] _) _).map _) at executing
        rw [versionStep, if_pos version] at executing
        cases executes_ok.mp executing

/-- Below its taint minimum an envelope is never executed, except when a state guard speaks
first and answers with an execution. -/
theorem never_executes_iff {required : Taint}
    (minimum : policy.taint.minimumFor envelope.kind = .ok required)
    (below : taintRank envelope.taint < taintRank required) :
    ¬Executes (adjudicate host envelope state kill policy) ↔
      ¬(kill.active = false ∧ envelope.version = intentEnvelopeVersion ∧
        deriveIntentHash host envelope = .ok envelope.intentHash ∧
        ∃ bases, firstOutcome envelope state policy.stateGuards =
          .ok (some (.execute bases))) := by
  apply not_congr
  have guards : Executes ((runSteps (verifiedSteps host envelope state policy) none).map
      Prod.fst) ↔ ∃ bases, firstOutcome envelope state policy.stateGuards =
        .ok (some (.execute bases)) := by
    apply executes_guardSteps
    exact taintPhase_blocks envelope policy minimum below _
  constructor
  · intro executing
    obtain ⟨inactive, version, hash⟩ := executes_verified host envelope state kill policy executing
    rw [adjudicate_verified host envelope state policy inactive version hash] at executing
    exact ⟨inactive, version, hash, guards.mp executing⟩
  · rintro ⟨inactive, version, hash, speaks⟩
    rw [adjudicate_verified host envelope state policy inactive version hash]
    exact guards.mpr speaks

end

/-- This envelope proposes the sample payment from untrusted content. -/
def sampleEnvelope : IntentEnvelope where
  toHashedFields := (samplePayment 1).hashedFields
  createdAt := "2026-01-01T00:00:00.000Z"
  intentHash := "1daba7c0306f6af2025d02a343346fb68d1df58b818fa16e1f9c1961b3edd90d"

def releasedKill : KillSwitchState where
  active := false
  reason := []
  toggledAt := "1970-01-01T00:00:00.000Z"

/-- Every intent needs system trust, and the given state guards run before that is checked. -/
def systemOnlyPolicy (stateGuards : List (Guard Unit)) : PolicyBundle Unit where
  stateGuards := stateGuards
  authGuards := []
  taint := { minimumFor := fun _ => .ok .system, requiresUncontaminatedOrigin := none }
  business := []
  default := .execute

def approvingGuard : Guard Unit where
  metadataName := none
  functionName := "approve"
  run _ _ := .ok (some (.execute []))

theorem never_executes_iff_sampleEnvelope :
    ¬Executes (adjudicate sampleHost sampleEnvelope () releasedKill (systemOnlyPolicy [])) ↔
      ¬(releasedKill.active = false ∧ sampleEnvelope.version = intentEnvelopeVersion ∧
        deriveIntentHash sampleHost sampleEnvelope = .ok sampleEnvelope.intentHash ∧
        ∃ bases, firstOutcome sampleEnvelope () (systemOnlyPolicy []).stateGuards =
          .ok (some (.execute bases))) :=
  @never_executes_iff Unit sampleHost sampleEnvelope () releasedKill (systemOnlyPolicy []) .system
    rfl (by decide)

/-- A state guard that approves executes an untrusted payment that needs system trust. -/
theorem approvingGuard_executes_untrusted :
    (systemOnlyPolicy [approvingGuard]).taint.minimumFor sampleEnvelope.kind = .ok .system ∧
      taintRank sampleEnvelope.taint < taintRank .system ∧
      Executes (adjudicate sampleHost sampleEnvelope () releasedKill
        (systemOnlyPolicy [approvingGuard])) :=
  ⟨rfl, by decide, executes_iff_kind.mpr (by decide +kernel)⟩

end Adjudicate.Kernel
