/-
This file develops the runs of machines that take one step for each event.
-/

import Mathlib.Data.List.Basic
import Mathlib.Data.List.Induction

namespace Adjudicate.Effect

variable {State Event : Type}

/-- The events take the machine from one state to another. -/
inductive Run (step : State → Event → State → Prop) (start : State) : List Event → State → Prop where
  | start : Run step start [] start
  | step {events : List Event} {before after : State} {event : Event} :
      Run step start events before → step before event after →
      Run step start (events ++ [event]) after

section Run

variable {step : State → Event → State → Prop} {start final : State} {events : List Event}

/-- A property of the start that every step keeps holds in every state that a run reaches. -/
theorem Run.keeps {kept : State → Prop} (run : Run step start events final) (initial : kept start)
    (keep : ∀ before event after, kept before → step before event after → kept after) : kept final := by
  induction run with
  | start => exact initial
  | step _ taken ih => exact keep _ _ _ ih taken

/-- A run goes on where another one has ended. -/
theorem Run.append {middle : State} {more : List Event} (first : Run step start events middle)
    (second : Run step middle more final) : Run step start (events ++ more) final := by
  induction second with
  | start =>
      rw [List.append_nil]
      exact first
  | step _ taken ih =>
      rw [← List.append_assoc]
      exact ih.step taken

/-- A property may also speak of the events so far. -/
theorem Run.keeps_along {kept : List Event → State → Prop} (run : Run step start events final)
    (initial : kept [] start)
    (keep : ∀ events before event after, kept events before → step before event after →
      kept (events ++ [event]) after) : kept events final := by
  induction run with
  | start => exact initial
  | step _ taken ih => exact keep _ _ _ _ ih taken

end Run

section Performing

variable (advance : State → Event → Option State) (allowed : State → Event → Prop)

/-- An allowed event takes a machine to the state that it computes. -/
def Performed (before : State) (event : Event) (after : State) : Prop :=
  allowed before event ∧ advance before event = some after

variable [∀ state event, Decidable (allowed state event)]

def perform (start : State) (events : List Event) : Option State :=
  events.foldlM (fun state event => if allowed state event then advance state event else none) start

theorem run_perform {start final : State} {events : List Event}
    (performed : perform advance allowed start events = some final) :
    Run (Performed advance allowed) start events final := by
  induction events using List.reverseRecOn generalizing final with
  | nil =>
      obtain rfl : start = final := Option.some.inj performed
      exact .start
  | append_singleton events event ih =>
      obtain ⟨before, earlier, last⟩ : ∃ before, perform advance allowed start events = some before ∧
          (if allowed before event then advance before event else none) = some final := by
        simpa [perform, List.foldlM_append, Option.bind_eq_some_iff] using performed
      by_cases permitted : allowed before event
      · rw [if_pos permitted] at last
        exact .step (ih earlier) ⟨permitted, last⟩
      · rw [if_neg permitted] at last
        cases last

end Performing

end Adjudicate.Effect
