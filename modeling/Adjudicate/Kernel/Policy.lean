/-
This file models guards and the policy bundle that drives the kernel.
-/

import Adjudicate.Core.Decision

namespace Adjudicate.Kernel

open Js Adjudicate.Core

/-- A guard is an arbitrary function that may return no opinion, answer, or throw. -/
structure Guard (S : Type) where
  metadataName : Option JsString
  functionName : JsString
  run : IntentEnvelope → S → Except Thrown (Option Decision)

/-- The metadata name shadows the function name, and an empty name counts as absent. -/
def Guard.name {S : Type} (guard : Guard S) : Option JsString :=
  let name := guard.metadataName.getD guard.functionName
  if name = [] then none else some name

inductive PolicyDefault where
  | refuse
  | execute
deriving DecidableEq

structure PolicyBundle (S : Type) where
  stateGuards : List (Guard S)
  authGuards : List (Guard S)
  taint : TaintPolicy
  business : List (Guard S)
  default : PolicyDefault

/-- This is the first outcome of a guard list other than no opinion. -/
def firstOutcome {S : Type} (envelope : IntentEnvelope) (state : S) :
    List (Guard S) → Except Thrown (Option Decision)
  | [] => .ok none
  | guard :: guards =>
      match guard.run envelope state with
      | .ok none => firstOutcome envelope state guards
      | outcome => outcome

/-- The guard list splits at the first guard with an opinion, when there is one. -/
theorem firstOutcome_cases {S : Type} (envelope : IntentEnvelope) (state : S)
    (guards : List (Guard S)) :
    ((∀ guard ∈ guards, guard.run envelope state = .ok none) ∧
        firstOutcome envelope state guards = .ok none) ∨
      ∃ passed guard rest, guards = passed ++ guard :: rest ∧
        (∀ earlier ∈ passed, earlier.run envelope state = .ok none) ∧
        guard.run envelope state ≠ .ok none ∧
        firstOutcome envelope state guards = guard.run envelope state := by
  induction guards with
  | nil => exact .inl ⟨by simp, rfl⟩
  | cons guard guards ih =>
      cases answer : guard.run envelope state with
      | error raised =>
          refine .inr ⟨[], guard, guards, rfl, by simp, by simp [answer], ?_⟩
          rw [firstOutcome, answer]
      | ok opinion =>
          cases opinion with
          | some decision =>
              refine .inr ⟨[], guard, guards, rfl, by simp, by simp [answer], ?_⟩
              rw [firstOutcome, answer]
          | none =>
              have skip : firstOutcome envelope state (guard :: guards) =
                  firstOutcome envelope state guards := by rw [firstOutcome, answer]
              obtain ⟨silent, none⟩ | ⟨passed, speaker, rest, split, silent, speaks, first⟩ := ih
              · refine .inl ⟨?_, skip.trans none⟩
                exact List.forall_mem_cons.mpr ⟨answer, silent⟩
              · refine .inr ⟨guard :: passed, speaker, rest, by simp [split], ?_, speaks,
                  skip.trans first⟩
                exact List.forall_mem_cons.mpr ⟨answer, silent⟩

end Adjudicate.Kernel
