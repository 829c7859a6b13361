/-
This file traces a decision that goes on back to the guard whose opinion it is.
-/

import Adjudicate.Canonical.Finite
import Adjudicate.Kernel.FirstAnswer

namespace Adjudicate.Kernel

open Js Canonical Adjudicate.Core

/-- A run that answers returns the opinion of one of its steps after the bases of its phase. -/
theorem runSteps_answer {list : List Step} {traceOut : Option (List AdjudicationTraceEntry)}
    {decision : Decision} {recorded : Option (List AdjudicationTraceEntry)}
    (answers : runSteps list traceOut = .ok (decision, recorded)) :
    ∃ step ∈ list, ∃ own, step.outcome = .ok (some own) ∧
      decision = enrichBasis own (completedBases step.phase) := by
  induction list generalizing traceOut with
  | nil => cases answers
  | cons step list ih =>
      rw [runSteps] at answers
      obtain ⟨opinion, outcome, later⟩ := bind_eq_ok.mp answers
      cases opinion with
      | none =>
          obtain ⟨other, inside, found⟩ := ih later
          exact ⟨other, List.mem_cons_of_mem _ inside, found⟩
      | some own =>
          cases later
          exact ⟨step, List.mem_cons_self, own, outcome, rfl⟩

/-- A panic is a refusal. -/
theorem guardPanicRefusal_kind {phase : TracePhase} {index : Option Nat} {name : Option JsString}
    {err : Thrown} {accumulated : List DecisionBasis} {decision : Decision}
    (panics : guardPanicRefusal phase index name err accumulated = .ok decision) :
    decision.kind = .refuse := by
  obtain ⟨text, -, ⟨⟩⟩ := bind_eq_ok.mp panics
  rfl

section

variable {S : Type} {host : Host} {envelope : IntentEnvelope} {state : S}

/-- The gate passes a decision on as it is or refuses. -/
theorem gateRewrite_passes {own gated : Decision}
    (passes : gateRewrite host own envelope = .ok gated) (acts : gated.kind ≠ .refuse) :
    gated = own := by
  by_cases plain : own.kind = .rewrite
  · cases own with
    | rewrite rewritten reason bases =>
        rw [gateRewrite] at passes
        split at passes
        · exact (acts (guardPanicRefusal_kind passes)).elim
        · split at passes
          · cases passes
            exact (acts rfl).elim
          · split at passes
            · cases passes
              exact (acts rfl).elim
            · cases passes
              rfl
    | _ => cases plain
  · rw [gateRewrite_of_ne host envelope plain] at passes
    cases passes
    rfl

/-- A step of a guard list that does not refuse tells the opinion of its guard. -/
theorem guardSteps_source {phase : TracePhase} {guards : List (Guard S)} {index : Nat} {step : Step}
    (inside : step ∈ guardSteps host envelope state phase guards index) {own : Decision}
    (speaks : step.outcome = .ok (some own)) (acts : own.kind ≠ .refuse) :
    ∃ guard ∈ guards, guard.run envelope state = .ok (some own) := by
  induction guards generalizing index with
  | nil => cases inside
  | cons guard guards ih =>
      obtain rfl | later := List.mem_cons.mp inside
      · refine ⟨guard, List.mem_cons_self, ?_⟩
        cases run : guard.run envelope state with
        | error err =>
            rw [guardAnswer_panic host envelope state run] at speaks
            cases panics : guardPanicRefusal phase (some index) guard.name err [] with
            | error raised =>
                rw [panics] at speaks
                cases speaks
            | ok decision =>
                rw [panics] at speaks
                cases speaks
                exact (acts (guardPanicRefusal_kind panics)).elim
        | ok opinion =>
            cases opinion with
            | none =>
                rw [guardAnswer_silent host envelope state run] at speaks
                cases speaks
            | some decision =>
                rw [guardAnswer_speaks host envelope state run] at speaks
                simp only [enrichBasis_nil] at speaks
                cases gate : gateRewrite host decision envelope with
                | error raised =>
                    rw [gate] at speaks
                    cases speaks
                | ok gated =>
                    rw [gate] at speaks
                    cases speaks
                    rw [gateRewrite_passes gate acts]
      · obtain ⟨other, listed, run⟩ := ih later
        exact ⟨other, List.mem_cons_of_mem _ listed, run⟩

theorem taintPhase_refuses {policy : TaintPolicy} {own : Decision}
    (speaks : (taintPhase envelope policy).outcome = .ok (some own)) : own.kind = .refuse := by
  rw [taintPhase] at speaks
  dsimp only at speaks
  split at speaks
  · obtain ⟨decision, panics, ⟨⟩⟩ := bind_eq_ok.mp speaks
    exact guardPanicRefusal_kind panics
  · split at speaks
    · cases speaks
    · cases speaks
      rfl

/-- A decision that does not refuse is a guard's opinion after the bases of its phase, under a policy
that refuses by default. -/
theorem adjudicate_source {kill : KillSwitchState} {policy : PolicyBundle S} {decision : Decision}
    (adjudicated : adjudicate host envelope state kill policy = .ok decision)
    (acts : decision.kind ≠ .refuse) (default : policy.default = .refuse) :
    ∃ own phase, decision = enrichBasis own (completedBases phase) ∧
      ∃ guard ∈ policy.stateGuards ++ policy.authGuards ++ policy.business,
        guard.run envelope state = .ok (some own) := by
  obtain ⟨inactive, version, hash⟩ := verified_of_yields host envelope state kill policy
    (actionable_kind acts) ⟨decision, adjudicated, rfl⟩
  rw [adjudicate_verified host envelope state policy inactive version hash] at adjudicated
  cases answers : runSteps (verifiedSteps host envelope state policy) none with
  | error raised =>
      rw [answers] at adjudicated
      cases adjudicated
  | ok answer =>
      rw [answers] at adjudicated
      cases adjudicated
      obtain ⟨step, inside, own, speaks, same⟩ := runSteps_answer answers
      have kind : own.kind ≠ .refuse := by
        rw [same, enrichBasis_kind] at acts
        exact acts
      refine ⟨own, step.phase, same, ?_⟩
      simp only [List.mem_append]
      obtain early | inside := List.mem_append.mp inside
      · obtain ⟨guard, listed, run⟩ := guardSteps_source early speaks kind
        exact ⟨guard, .inl (.inl listed), run⟩
      · obtain rfl | inside := List.mem_cons.mp inside
        · exact (kind (taintPhase_refuses speaks)).elim
        · obtain middle | inside := List.mem_append.mp inside
          · obtain ⟨guard, listed, run⟩ := guardSteps_source middle speaks kind
            exact ⟨guard, .inl (.inr listed), run⟩
          · obtain late | last := List.mem_append.mp inside
            · obtain ⟨guard, listed, run⟩ := guardSteps_source late speaks kind
              exact ⟨guard, .inr listed, run⟩
            · rw [List.mem_singleton.mp last, defaultPhase, default] at speaks
              cases speaks
              exact (kind rfl).elim

theorem allFinite_basis_none (category : BasisCategory) (code : JsString) :
    AllFinite (basis category code none).toJs := by
  simp [basis, DecisionBasis.toJs, optionalProp, AllFinite]

theorem allFinite_basis_some {category : BasisCategory} {code : JsString} {detail : Props JsValue}
    (finite : ∀ property ∈ detail, AllFinite property.2) :
    AllFinite (basis category code (some detail)).toJs := by
  simpa [basis, DecisionBasis.toJs, optionalProp, AllFinite] using finite

theorem allFinite_execute {bases : List DecisionBasis} (finite : ∀ entry ∈ bases, AllFinite entry.toJs) :
    AllFinite (Decision.execute bases).toJs := by
  simp only [Decision.toJs, allFinite_obj, List.forall_mem_cons, allFinite_arr, List.forall_mem_map]
  exact ⟨trivial, finite, nofun⟩

theorem allFinite_rewrite {rewritten : IntentEnvelope} {reason : JsString}
    {bases : List DecisionBasis} (envelope : AllFinite rewritten.toJs)
    (finite : ∀ entry ∈ bases, AllFinite entry.toJs) :
    AllFinite (Decision.rewrite rewritten reason bases).toJs := by
  simp only [Decision.toJs, allFinite_obj, List.forall_mem_cons, allFinite_arr, List.forall_mem_map]
  exact ⟨trivial, envelope, trivial, finite, nofun⟩

/-- The bases of the completed phases hold no number. -/
theorem allFinite_completedBases (phase : TracePhase) :
    ∀ entry ∈ completedBases phase, AllFinite entry.toJs := by
  cases phase <;>
    simp [completedBases, makePassBasis, basis, DecisionBasis.toJs, optionalProp, AllFinite]

theorem allFinite_enrichBasis {decision : Decision} (finite : AllFinite decision.toJs)
    (phase : TracePhase) : AllFinite (enrichBasis decision (completedBases phase)).toJs := by
  have passed := allFinite_completedBases phase
  cases decision <;>
    simp only [Decision.toJs, enrichBasis, Decision.basis, allFinite_obj, List.map_append,
      List.forall_mem_cons, allFinite_arr, List.forall_mem_append, List.forall_mem_map] at finite ⊢ <;>
    tauto

/-- A decision that goes on can be hashed when the guards' opinions of its kind can. -/
theorem adjudicate_allFinite {kill : KillSwitchState} {policy : PolicyBundle S} {decision : Decision}
    (adjudicated : adjudicate host envelope state kill policy = .ok decision)
    (acts : decision.kind ≠ .refuse) (default : policy.default = .refuse)
    (finite : ∀ guard ∈ policy.stateGuards ++ policy.authGuards ++ policy.business, ∀ own,
      guard.run envelope state = .ok (some own) → own.kind = decision.kind → AllFinite own.toJs) :
    AllFinite decision.toJs := by
  obtain ⟨own, phase, same, guard, listed, run⟩ := adjudicate_source adjudicated acts default
  have kind : own.kind = decision.kind := by rw [same, enrichBasis_kind]
  rw [same]
  exact allFinite_enrichBasis (finite guard listed own run kind) phase

end

end Adjudicate.Kernel
