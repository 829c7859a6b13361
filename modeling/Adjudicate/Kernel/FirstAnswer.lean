/-
This file describes which answer the kernel returns, guard list by guard list.
-/

import Adjudicate.Kernel.Steps

namespace Adjudicate.Kernel

open Js Canonical Adjudicate.Core

/-- The outcome is a decision with the wanted property. -/
def Yields (wanted : Decision → Prop) (outcome : Except Thrown Decision) : Prop :=
  ∃ decision, outcome = .ok decision ∧ wanted decision

/-- The property ignores the basis, and no refusal has it. -/
structure Actionable (wanted : Decision → Prop) : Prop where
  basis : ∀ decision bases, wanted (enrichBasis decision bases) ↔ wanted decision
  refusal : ∀ refusal bases, ¬wanted (.refuse refusal bases)

theorem actionable_kind {kind : DecisionKind} (acts : kind ≠ .refuse) :
    Actionable fun decision => decision.kind = kind where
  basis decision bases := by rw [enrichBasis_kind]
  refusal _ _ same := acts same.symm

theorem actionable_execute : Actionable fun decision => decision.kind = .execute :=
  actionable_kind nofun

theorem actionable_requestConfirmation :
    Actionable fun decision => decision.kind = .requestConfirmation := actionable_kind nofun

/-- The decision substitutes the given envelope. -/
def RewritesTo (rewritten : IntentEnvelope) (decision : Decision) : Prop :=
  ∃ reason bases, decision = .rewrite rewritten reason bases

theorem actionable_rewritesTo (rewritten : IntentEnvelope) : Actionable (RewritesTo rewritten) where
  basis decision bases := by
    constructor
    · intro ⟨reason, merged, same⟩
      cases decision with
      | rewrite other text own =>
          cases same
          exact ⟨_, _, rfl⟩
      | _ => cases same
    · rintro ⟨reason, own, rfl⟩
      exact ⟨reason, _, rfl⟩
  refusal _ _ same := by
    obtain ⟨_, _, ⟨⟩⟩ := same

section

variable {wanted : Decision → Prop}

theorem yields_ok {decision : Decision} : Yields wanted (.ok decision) ↔ wanted decision := by
  constructor
  · rintro ⟨other, same, holds⟩
    cases same
    exact holds
  · exact fun holds => ⟨decision, rfl, holds⟩

theorem not_yields_error {raised : Thrown} : ¬Yields wanted (.error raised) := by
  rintro ⟨decision, same, -⟩
  cases same

theorem not_yields_panic (actionable : Actionable wanted) (phase : TracePhase)
    (guardIndex : Option Nat) (guardName : Option JsString) (err : Thrown)
    (accumulated : List DecisionBasis) :
    ¬Yields wanted (guardPanicRefusal phase guardIndex guardName err accumulated) := by
  rintro ⟨decision, same, holds⟩
  cases err with
  | unprintable raised => cases same
  | _ =>
      cases same
      exact actionable.refusal _ _ holds

variable {S : Type} (host : Host) (envelope : IntentEnvelope) (state : S)

theorem gateRewrite_of_ne {decision : Decision} (plain : decision.kind ≠ .rewrite) :
    gateRewrite host decision envelope = .ok decision := by
  cases decision with
  | rewrite rewritten reason bases => exact (plain rfl).elim
  | _ => rfl

/-- The rewrite gate passes every decision on, and a rewrite only with its own content hash and
no more trust. -/
theorem yields_gateRewrite (actionable : Actionable wanted) (decision : Decision) :
    Yields wanted (gateRewrite host decision envelope) ↔ wanted decision ∧
      ∀ rewritten reason bases, decision = .rewrite rewritten reason bases →
        deriveIntentHash host rewritten = .ok rewritten.intentHash ∧
          taintRank rewritten.taint ≤ taintRank envelope.taint := by
  cases decision with
  | rewrite rewritten reason bases =>
      have gated : (∀ other text own, Decision.rewrite rewritten reason bases =
            .rewrite other text own → deriveIntentHash host other = .ok other.intentHash ∧
            taintRank other.taint ≤ taintRank envelope.taint) ↔
          deriveIntentHash host rewritten = .ok rewritten.intentHash ∧
            taintRank rewritten.taint ≤ taintRank envelope.taint := by
        constructor
        · exact fun all => all _ _ _ rfl
        · rintro both _ _ _ ⟨⟩
          exact both
      rw [gated, gateRewrite]
      cases derived : deriveIntentHash host rewritten with
      | error err =>
          exact iff_of_false (not_yields_panic actionable _ _ _ _ _) (fun ⟨_, same, _⟩ => by cases same)
      | ok hash =>
          dsimp only
          split
          · next forged =>
              refine iff_of_false (fun yields => actionable.refusal _ _ (yields_ok.mp yields)) ?_
              rintro ⟨-, same, -⟩
              exact forged (Except.ok.inj same)
          · next same =>
              split
              · next raised =>
                  refine iff_of_false (fun yields => actionable.refusal _ _ (yields_ok.mp yields)) ?_
                  rintro ⟨-, -, low⟩
                  exact absurd low (Nat.not_le.mpr raised)
              · next low =>
                  rw [yields_ok, not_not.mp same]
                  exact (and_iff_left ⟨rfl, Nat.not_lt.mp low⟩).symm
  | _ =>
      rw [gateRewrite_of_ne host envelope (fun same => by cases same), yields_ok]
      constructor
      · intro holds
        refine ⟨holds, ?_⟩
        intro rewritten reason bases same
        cases same
      · exact And.left

/-- A step that answers decides what the run yields. -/
theorem yields_answer (actionable : Actionable wanted) {step : Step}
    {answer : Except Thrown Decision} (speaks : step.outcome = answer.map some) (more : List Step)
    (traceOut : Option (List AdjudicationTraceEntry)) :
    Yields wanted ((runSteps (step :: more) traceOut).map Prod.fst) ↔ Yields wanted answer := by
  rw [runSteps, speaks]
  cases answer with
  | error raised => exact iff_of_false not_yields_error not_yields_error
  | ok decision =>
      change Yields wanted (.ok (enrichBasis decision _)) ↔ _
      rw [yields_ok, yields_ok, actionable.basis]

/-- The first guard with an opinion answers with a wanted decision that passes the gate. -/
def Speaks (wanted : Decision → Prop) (guards : List (Guard S)) : Prop :=
  ∃ decision, firstOutcome envelope state guards = .ok (some decision) ∧
    Yields wanted (gateRewrite host decision envelope)

/-- No guard of the list has an opinion. -/
def AllSilent (guards : List (Guard S)) : Prop := firstOutcome envelope state guards = .ok none

theorem yields_guardSteps (actionable : Actionable wanted) (phase : TracePhase) {more : List Step}
    {later : Prop} (rest : ∀ traceOut, Yields wanted ((runSteps more traceOut).map Prod.fst) ↔ later)
    (guards : List (Guard S)) (index : Nat)
    (traceOut : Option (List AdjudicationTraceEntry)) :
    Yields wanted ((runSteps (guardSteps host envelope state phase guards index ++ more)
        traceOut).map Prod.fst) ↔
      Speaks host envelope state wanted guards ∨ (AllSilent envelope state guards ∧ later) := by
  induction guards generalizing index traceOut with
  | nil =>
      rw [guardSteps, List.nil_append, rest]
      constructor
      · exact fun holds => .inr ⟨rfl, holds⟩
      · rintro (⟨decision, ⟨⟩, -⟩ | ⟨-, holds⟩)
        exact holds
  | cons guard guards ih =>
      rw [guardSteps, List.cons_append, Speaks, AllSilent, firstOutcome]
      cases run : guard.run envelope state with
      | error err =>
          rw [yields_answer actionable (guardAnswer_panic host envelope state run [])]
          refine iff_of_false (not_yields_panic actionable _ _ _ _ _) ?_
          rintro (⟨decision, ⟨⟩, -⟩ | ⟨⟨⟩, -⟩)
      | ok opinion =>
          cases opinion with
          | none =>
              rw [runSteps, guardAnswer_silent host envelope state run]
              exact ih (index + 1) _
          | some decision =>
              have speaks := @guardAnswer_speaks S host envelope state phase index guard decision
                run []
              simp only [enrichBasis_nil] at speaks
              rw [yields_answer actionable speaks]
              constructor
              · exact fun yields => .inl ⟨decision, rfl, yields⟩
              · rintro (⟨other, ⟨⟩, yields⟩ | ⟨⟨⟩, -⟩)
                exact yields

/-- The taint step stays silent exactly when the gate lets the proposal pass. -/
theorem yields_taintPhase (actionable : Actionable wanted) (policy : TaintPolicy)
    {more : List Step} {later : Prop}
    (rest : ∀ traceOut, Yields wanted ((runSteps more traceOut).map Prod.fst) ↔ later)
    (traceOut : Option (List AdjudicationTraceEntry)) :
    Yields wanted ((runSteps (taintPhase envelope policy :: more) traceOut).map Prod.fst) ↔
      canProposeWithOrigin envelope.taint envelope.kind envelope.origin policy = .ok true ∧ later := by
  have panics {err : Thrown} (failed : taintGate envelope policy = .error err) :
      (taintPhase envelope policy).outcome =
        (guardPanicRefusal .taint none none err []).map some := by
    rw [taintPhase, failed]
    cases err <;> rfl
  cases gate : canProposeWithOrigin envelope.taint envelope.kind envelope.origin policy with
  | error err =>
      have failed : ∃ err, taintGate envelope policy = .error err := by
        rw [taintGate, gate]
        cases canPropose envelope.taint envelope.kind policy <;> exact ⟨_, rfl⟩
      obtain ⟨err', failed⟩ := failed
      rw [yields_answer actionable (panics failed)]
      exact iff_of_false (not_yields_panic actionable _ _ _ _ _) (fun both => by cases both.1)
  | ok allowed =>
      cases rank : canPropose envelope.taint envelope.kind policy with
      | error err =>
          rw [canProposeWithOrigin, rank] at gate
          cases gate
      | ok passed =>
          have both : taintGate envelope policy = .ok (passed, allowed) := by
            rw [taintGate, rank, gate]
            rfl
          cases allowed with
          | true =>
              rw [runSteps, taintPhase, both]
              exact (rest _).trans (and_iff_right rfl).symm
          | false =>
              have refused : (taintPhase envelope policy).outcome =
                  (Except.ok (taintRefusal envelope passed [])).map some := by
                rw [taintPhase, both]
                rfl
              rw [yields_answer actionable refused, yields_ok]
              exact iff_of_false (actionable.refusal _ _) (fun both => by cases both.1)

/-- The switch is off, the version is known and the content hash matches. -/
def Verified (kill : KillSwitchState) : Prop :=
  kill.active = false ∧ envelope.version = intentEnvelopeVersion ∧
    deriveIntentHash host envelope = .ok envelope.intentHash

/-- Some list speaks while every earlier one is silent, or all are and the default is wanted. -/
def Answers (wanted : Decision → Prop) (policy : PolicyBundle S) : Prop :=
  Speaks host envelope state wanted policy.stateGuards ∨
    (AllSilent envelope state policy.stateGuards ∧
      canProposeWithOrigin envelope.taint envelope.kind envelope.origin policy.taint = .ok true ∧
      (Speaks host envelope state wanted policy.authGuards ∨
        (AllSilent envelope state policy.authGuards ∧
          (Speaks host envelope state wanted policy.business ∨
            (AllSilent envelope state policy.business ∧
              wanted (defaultDecision policy.default []))))))

variable (kill : KillSwitchState) (policy : PolicyBundle S)

/-- An envelope that is not verified is refused. -/
theorem verified_of_yields (actionable : Actionable wanted)
    (yields : Yields wanted (adjudicate host envelope state kill policy)) :
    Verified host envelope kill := by
  rw [adjudicate_eq_map] at yields
  have refused {refusal : Refusal} {bases : List DecisionBasis}
      (holds : Yields wanted (.ok (.refuse refusal bases))) : False :=
    actionable.refusal _ _ (yields_ok.mp holds)
  cases active : kill.active with
  | true =>
      rw [adjudicateImpl_eq_conclude, killStep, active] at yields
      exact (refused yields).elim
  | false =>
      refine ⟨active, ?_⟩
      by_cases version : envelope.version = intentEnvelopeVersion
      · refine ⟨version, ?_⟩
        rw [adjudicateImpl_reaches_hash host envelope state policy none active version,
          hashStep] at yields
        cases derived : deriveIntentHash host envelope with
        | error err =>
            rw [derived] at yields
            cases err with
            | unprintable raised => exact (not_yields_error yields).elim
            | _ => exact (refused yields).elim
        | ok derivedHash =>
            rw [derived] at yields
            by_cases same : derivedHash = envelope.intentHash
            · rw [same]
            · dsimp only at yields
              rw [if_pos same] at yields
              exact (refused yields).elim
      · rw [adjudicateImpl_eq_conclude, killStep, active] at yields
        change Yields wanted ((conclude (versionStep envelope [] _) _).map _) at yields
        rw [versionStep, if_pos version] at yields
        exact (refused yields).elim

/-- The kernel yields what the first speaking guard list of a verified envelope answers. -/
theorem yields_adjudicate (actionable : Actionable wanted) :
    Yields wanted (adjudicate host envelope state kill policy) ↔
      Verified host envelope kill ∧ Answers host envelope state wanted policy := by
  have answers : Yields wanted ((runSteps (verifiedSteps host envelope state policy) none).map
      Prod.fst) ↔ Answers host envelope state wanted policy := by
    apply yields_guardSteps host envelope state actionable
    apply yields_taintPhase envelope actionable
    apply yields_guardSteps host envelope state actionable
    apply yields_guardSteps host envelope state actionable
    intro traceOut
    have default : (defaultPhase policy.default).outcome =
        (Except.ok (defaultDecision policy.default [])).map some := rfl
    rw [yields_answer actionable default, yields_ok]
  constructor
  · intro yields
    have verified := verified_of_yields host envelope state kill policy actionable yields
    obtain ⟨inactive, version, hash⟩ := verified
    rw [adjudicate_verified host envelope state policy inactive version hash] at yields
    exact ⟨⟨inactive, version, hash⟩, answers.mp yields⟩
  · rintro ⟨⟨inactive, version, hash⟩, holds⟩
    rw [adjudicate_verified host envelope state policy inactive version hash]
    exact answers.mpr holds

end

end Adjudicate.Kernel
