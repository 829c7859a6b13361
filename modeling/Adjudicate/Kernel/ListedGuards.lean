/-
This file follows a decision through the guard lists to the guard that gives it.
-/

import Adjudicate.Kernel.FirstAnswer

namespace Adjudicate.Kernel

open Js Canonical Adjudicate.Core

/-- The outcome is an opinion with the wanted property. -/
def Gives (wanted : Decision → Prop) (outcome : Except Thrown (Option Decision)) : Prop :=
  ∃ decision, outcome = .ok (some decision) ∧ wanted decision

variable {S : Type} {wanted : Decision → Prop} {envelope : IntentEnvelope} {state : S}

theorem not_gives_none : ¬Gives wanted (.ok none) := by
  rintro ⟨_, ⟨⟩, -⟩

theorem not_gives_error {raised : Thrown} : ¬Gives wanted (.error raised) := by
  rintro ⟨_, ⟨⟩, -⟩

theorem gives_some {decision : Decision} : Gives wanted (.ok (some decision)) ↔ wanted decision := by
  constructor
  · rintro ⟨other, ⟨⟩, holds⟩
    exact holds
  · exact fun holds => ⟨decision, rfl, holds⟩

/-- The first guard gives the decision, or it is silent and the others give it. -/
theorem gives_cons_iff (guard : Guard S) (guards : List (Guard S)) :
    Gives wanted (firstOutcome envelope state (guard :: guards)) ↔
      Gives wanted (guard.run envelope state) ∨
        guard.run envelope state = .ok none ∧ Gives wanted (firstOutcome envelope state guards) := by
  rw [firstOutcome]
  cases guard.run envelope state with
  | error raised =>
      refine iff_of_false not_gives_error ?_
      rintro (held | ⟨⟨⟩, -⟩)
      exact not_gives_error held
  | ok opinion =>
      cases opinion with
      | none =>
          exact ⟨fun later => .inr ⟨rfl, later⟩,
            Or.rec (fun held => (not_gives_none held).elim) And.right⟩
      | some decision =>
          refine (or_iff_left ?_).symm
          rintro ⟨⟨⟩, -⟩

/-- A guard that never gives the decision is silent before it. -/
theorem gives_later_iff {guard : Guard S} {guards : List (Guard S)}
    (never : ¬Gives wanted (guard.run envelope state)) :
    Gives wanted (firstOutcome envelope state (guard :: guards)) ↔
      guard.run envelope state = .ok none ∧ Gives wanted (firstOutcome envelope state guards) := by
  rw [gives_cons_iff]
  exact or_iff_right never

/-- A guard whose opinions have one kind gives no decision of another. -/
theorem never_of_kind {kind : DecisionKind} (other : ∀ decision, wanted decision → decision.kind ≠ kind)
    {outcome : Except Thrown (Option Decision)}
    (opinions : ∀ decision, outcome = .ok (some decision) → decision.kind = kind) :
    ¬Gives wanted outcome := by
  rintro ⟨decision, gives, holds⟩
  exact other decision holds (opinions decision gives)

theorem never_of_silent {outcome : Except Thrown (Option Decision)} (silent : outcome = .ok none) :
    ¬Gives wanted outcome := silent ▸ not_gives_none

/-- Every opinion of the outcome has the property. -/
def Opinions (holds : Decision → Prop) (outcome : Except Thrown (Option Decision)) : Prop :=
  ∀ decision, outcome = .ok (some decision) → holds decision

section Opinions

variable {holds : Decision → Prop}

theorem opinions_none : Opinions holds (pure none) := fun _ same => by cases same

theorem opinions_answer {decision : Decision} (held : holds decision) :
    Opinions holds (pure (some decision)) := by
  rintro _ ⟨⟩
  exact held

theorem opinions_bind {A : Type} {computation : Except Thrown A}
    {next : A → Except Thrown (Option Decision)}
    (each : ∀ value, computation = .ok value → Opinions holds (next value)) :
    Opinions holds (computation >>= next) := by
  intro decision speaks
  obtain ⟨value, computed, later⟩ := bind_eq_ok.mp speaks
  exact each value computed decision later

theorem opinions_ite {condition : Prop} [Decidable condition]
    {first second : Except Thrown (Option Decision)} (yes : condition → Opinions holds first)
    (no : ¬condition → Opinions holds second) :
    Opinions holds (if condition then first else second) := by
  split
  · next met => exact yes met
  · next unmet => exact no unmet

theorem opinions_silent {outcome : Except Thrown (Option Decision)} (silent : outcome = .ok none) :
    Opinions holds outcome := by
  intro decision speaks
  rw [silent] at speaks
  cases speaks

/-- The first opinion of a list is the opinion of one of its guards. -/
theorem opinions_firstOutcome {guards : List (Guard S)}
    (each : ∀ guard ∈ guards, Opinions holds (guard.run envelope state)) :
    Opinions holds (firstOutcome envelope state guards) := by
  induction guards with
  | nil => exact opinions_none
  | cons guard guards ih =>
      obtain ⟨head, tail⟩ := List.forall_mem_cons.mp each
      intro decision first
      rw [firstOutcome] at first
      cases run : guard.run envelope state with
      | error raised =>
          rw [run] at first
          cases first
      | ok opinion =>
          rw [run] at first
          cases opinion with
          | none => exact ih tail decision first
          | some own =>
              cases first
              exact head _ run

theorem never_of_opinions {outcome : Except Thrown (Option Decision)}
    (opinions : Opinions holds outcome) (other : ∀ decision, holds decision → ¬wanted decision) :
    ¬Gives wanted outcome := by
  rintro ⟨decision, answered, wants⟩
  exact other decision (opinions decision answered) wants

end Opinions

/-- No wanted decision is a refusal. -/
theorem Actionable.not_refuse (actionable : Actionable wanted) (decision : Decision)
    (holds : wanted decision) : decision.kind ≠ .refuse := by
  intro refuses
  cases decision with
  | refuse refusal bases => exact actionable.refusal refusal bases holds
  | _ => cases refuses

theorem not_gives_nil : ¬Gives wanted (firstOutcome envelope state []) := not_gives_none

theorem not_gives_firstOutcome {guards : List (Guard S)}
    (never : ∀ guard ∈ guards, ¬Gives wanted (guard.run envelope state)) :
    ¬Gives wanted (firstOutcome envelope state guards) := by
  induction guards with
  | nil => exact not_gives_nil
  | cons guard guards ih =>
      obtain ⟨head, tail⟩ := List.forall_mem_cons.mp never
      rw [gives_later_iff head]
      exact fun both => ih tail both.2

theorem silent_cons_iff (guard : Guard S) (guards : List (Guard S)) :
    AllSilent envelope state (guard :: guards) ↔
      guard.run envelope state = .ok none ∧ AllSilent envelope state guards := by
  rw [AllSilent, firstOutcome, AllSilent]
  cases guard.run envelope state with
  | error raised => exact iff_of_false (by rintro ⟨⟩) (by rintro ⟨⟨⟩, -⟩)
  | ok opinion =>
      cases opinion with
      | none => exact (and_iff_right rfl).symm
      | some decision => exact iff_of_false (by rintro ⟨⟩) (by rintro ⟨⟨⟩, -⟩)

theorem silent_nil : AllSilent envelope state [] := rfl

variable {host : Host} {kill : KillSwitchState} {policy : PolicyBundle S}

theorem gives_of_speaks (actionable : Actionable wanted) {guards : List (Guard S)}
    (speaks : Speaks host envelope state wanted guards) :
    Gives wanted (firstOutcome envelope state guards) := by
  obtain ⟨decision, outcome, gated⟩ := speaks
  exact ⟨decision, outcome, ((yields_gateRewrite host envelope actionable decision).mp gated).1⟩

/-- The envelope passes every phase before the business guards. -/
structure Admitted (host : Host) (envelope : IntentEnvelope) (state : S) (kill : KillSwitchState)
    (policy : PolicyBundle S) : Prop where
  verified : Verified host envelope kill
  stateGuards : AllSilent envelope state policy.stateGuards
  taint : canProposeWithOrigin envelope.taint envelope.kind envelope.origin policy.taint = .ok true
  authGuards : AllSilent envelope state policy.authGuards

/-- Under a policy whose earlier guards only stop an envelope, the decisions that let it go on come
from the business guards. -/
theorem business_gives_iff (actionable : Actionable wanted)
    (stateNever : ∀ guard ∈ policy.stateGuards, ¬Gives wanted (guard.run envelope state))
    (authNever : ∀ guard ∈ policy.authGuards, ¬Gives wanted (guard.run envelope state))
    (default : policy.default = .refuse) :
    Yields wanted (adjudicate host envelope state kill policy) ↔
      Admitted host envelope state kill policy ∧
        Speaks host envelope state wanted policy.business := by
  have stopped {guards : List (Guard S)}
      (never : ∀ guard ∈ guards, ¬Gives wanted (guard.run envelope state)) :
      ¬Speaks host envelope state wanted guards :=
    fun speaks => not_gives_firstOutcome never (gives_of_speaks actionable speaks)
  have refused : ¬wanted (defaultDecision policy.default []) := by
    rw [default]
    exact actionable.refusal _ _
  rw [yields_adjudicate host envelope state kill policy actionable, Answers]
  constructor
  · rintro ⟨verified, early | ⟨silent, taint, auth | ⟨passed, speaks | ⟨-, unmatched⟩⟩⟩⟩
    · exact (stopped stateNever early).elim
    · exact (stopped authNever auth).elim
    · exact ⟨⟨verified, silent, taint, passed⟩, speaks⟩
    · exact (refused unmatched).elim
  · rintro ⟨⟨verified, silent, taint, passed⟩, speaks⟩
    exact ⟨verified, .inr ⟨silent, taint, .inr ⟨passed, .inl speaks⟩⟩⟩

/-- A decision other than a rewrite passes the gate as it is. -/
theorem speaks_kind_iff {kind : DecisionKind} (acts : kind ≠ .refuse) (plain : kind ≠ .rewrite)
    (guards : List (Guard S)) :
    Speaks host envelope state (·.kind = kind) guards ↔
      Gives (·.kind = kind) (firstOutcome envelope state guards) := by
  constructor
  · exact gives_of_speaks (actionable_kind acts)
  · rintro ⟨decision, outcome, same⟩
    refine ⟨decision, outcome, ?_⟩
    rw [gateRewrite_of_ne host envelope (same ▸ plain)]
    exact ⟨decision, rfl, same⟩

end Adjudicate.Kernel
