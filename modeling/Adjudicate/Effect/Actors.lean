/-
This file develops pools whose shared state sees which member performs an effect.
-/

import Adjudicate.Effect.Pool
import Mathlib.Data.List.Induction

namespace Adjudicate.Effect

variable {I Op : Type} {Response : Op → Type} {E A State : Type} [DecidableEq I]

/-- In each step some member performs its next effect, and the answer may depend on the member. -/
inductive ReachableBy (respond : I → State → Event Op Response E → State → Prop)
    (start : State) (initial : I → Program Op Response E A) :
    Pool I Op Response E A State → Prop where
  | start : ReachableBy respond start initial ⟨start, initial, fun _ => []⟩
  | step {pool : Pool I Op Response E A State} (i : I) {op : Op}
      {next : Except E (Response op) → Program Op Response E A} (outcome : Except E (Response op))
      (state : State) :
      ReachableBy respond start initial pool → pool.current i = .call op next →
      respond i pool.state ⟨op, outcome⟩ state →
      ReachableBy respond start initial
        ⟨state, Function.update pool.current i (next outcome),
          Function.update pool.history i (pool.history i ++ [⟨op, outcome⟩])⟩

section Reachable

variable {respond : I → State → Event Op Response E → State → Prop} {start : State}
  {initial : I → Program Op Response E A} {pool : Pool I Op Response E A State}

/-- Forgetting the acting members leaves a run of a plain pool. -/
theorem ReachableBy.reachable (reachable : ReachableBy respond start initial pool) :
    Reachable (fun before event after => ∃ i, respond i before event after) start initial pool := by
  induction reachable with
  | start => exact .start
  | step i outcome state _ waiting responds ih => exact .step i outcome state ih waiting ⟨i, responds⟩

theorem ReachableBy.imp {other : I → State → Event Op Response E → State → Prop}
    (reachable : ReachableBy respond start initial pool)
    (weaker : ∀ i before event after, respond i before event after → other i before event after) :
    ReachableBy other start initial pool := by
  induction reachable with
  | start => exact .start
  | step i outcome state _ waiting responds ih =>
      exact .step i outcome state ih waiting (weaker _ _ _ _ responds)

end Reachable

section Serving

variable {Choice : Type} (serve : Choice → I → State → (op : Op) → Except E (Response op) × State)

/-- A member that has not finished performs its next effect on a serving state. -/
def Pool.serveNext (pool : Pool I Op Response E A State) (turn : I × Choice) :
    Pool I Op Response E A State :=
  match pool.current turn.1 with
  | .call op next =>
      let served := serve turn.2 turn.1 pool.state op
      { state := served.2
        current := Function.update pool.current turn.1 (next served.1)
        history := Function.update pool.history turn.1
          (pool.history turn.1 ++ [⟨op, served.1⟩]) }
  | _ => pool

/-- Every schedule of a serving state is a run of the pool. -/
theorem reachableBy_schedule {respond : I → State → Event Op Response E → State → Prop}
    {start : State} {initial : I → Program Op Response E A}
    (serves : ∀ choice i state op, respond i state ⟨op, (serve choice i state op).1⟩
      (serve choice i state op).2) (schedule : List (I × Choice)) :
    ReachableBy respond start initial
      (schedule.foldl (Pool.serveNext serve) ⟨start, initial, fun _ => []⟩) := by
  induction schedule using List.reverseRecOn with
  | nil => exact .start
  | append_singleton schedule turn ih =>
      rw [List.foldl_append, List.foldl_cons, List.foldl_nil, Pool.serveNext]
      split
      · next op next waiting => exact .step turn.1 _ _ ih waiting (serves _ _ _ _)
      · exact ih

end Serving

end Adjudicate.Effect
