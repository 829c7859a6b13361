/-
This file develops runs of programs over a state that their events change.
-/

import Adjudicate.Effect.Program

namespace Adjudicate.Effect

variable {Op : Type} {Response : Op → Type} {E A B State : Type}

/-- The events lead from one state to another. -/
inductive Leads (respond : State → Event Op Response E → State → Prop) :
    State → List (Event Op Response E) → State → Prop where
  | nil (state : State) : Leads respond state [] state
  | cons {before middle after : State} {event : Event Op Response E}
      {rest : List (Event Op Response E)} :
      respond before event middle → Leads respond middle rest after →
      Leads respond before (event :: rest) after

section Leads

variable {respond : State → Event Op Response E → State → Prop} {before after : State}

theorem leads_nil : Leads respond before [] after ↔ after = before := by
  constructor
  · intro leads
    cases leads
    rfl
  · rintro rfl
    exact .nil _

theorem leads_cons {event : Event Op Response E} {rest : List (Event Op Response E)} :
    Leads respond before (event :: rest) after ↔
      ∃ middle, respond before event middle ∧ Leads respond middle rest after := by
  constructor
  · intro leads
    cases leads with
    | cons step later => exact ⟨_, step, later⟩
  · rintro ⟨middle, step, later⟩
    exact .cons step later

theorem leads_append {first second : List (Event Op Response E)} :
    Leads respond before (first ++ second) after ↔
      ∃ middle, Leads respond before first middle ∧ Leads respond middle second after := by
  induction first generalizing before with
  | nil => simp [leads_nil]
  | cons event rest ih =>
      simp only [List.cons_append, leads_cons, ih]
      constructor
      · rintro ⟨state, step, middle, early, late⟩
        exact ⟨middle, ⟨state, step, early⟩, late⟩
      · rintro ⟨middle, ⟨state, step, early⟩, late⟩
        exact ⟨state, step, middle, early, late⟩

/-- A property that every event keeps holds at the end. -/
theorem Leads.keeps {kept : State → Prop} {trace : List (Event Op Response E)}
    (leads : Leads respond before trace after)
    (step : ∀ event ∈ trace, ∀ before after, kept before → respond before event after → kept after)
    (start : kept before) : kept after := by
  induction leads with
  | nil => exact start
  | cons first _ ih =>
      obtain ⟨own, later⟩ := List.forall_mem_cons.mp step
      exact ih later (own _ _ start first)

end Leads

/-- The program runs from one state to another. -/
def Executes (respond : State → Event Op Response E → State → Prop) (before : State)
    (program : Program Op Response E A) (trace : List (Event Op Response E))
    (outcome : Except E A) (after : State) : Prop :=
  Runs program trace outcome ∧ Leads respond before trace after

section Executes

variable {respond : State → Event Op Response E → State → Prop} {before after : State}
  {trace : List (Event Op Response E)}

theorem executes_pure {value : A} {outcome : Except E A} :
    Executes respond before (pure value : Program Op Response E A) trace outcome after ↔
      trace = [] ∧ outcome = .ok value ∧ after = before := by
  rw [Executes, runs_pure]
  constructor
  · rintro ⟨⟨rfl, rfl⟩, leads⟩
    exact ⟨rfl, rfl, leads_nil.mp leads⟩
  · rintro ⟨rfl, rfl, rfl⟩
    exact ⟨⟨rfl, rfl⟩, .nil _⟩

theorem executes_ofExcept {result outcome : Except E A} :
    Executes respond before (Program.ofExcept result : Program Op Response E A) trace outcome
        after ↔
      trace = [] ∧ outcome = result ∧ after = before := by
  rw [Executes, runs_ofExcept]
  constructor
  · rintro ⟨⟨rfl, rfl⟩, leads⟩
    exact ⟨rfl, rfl, leads_nil.mp leads⟩
  · rintro ⟨rfl, rfl, rfl⟩
    exact ⟨⟨rfl, rfl⟩, .nil _⟩

theorem executes_throw {raised : E} {outcome : Except E A} :
    Executes respond before (.throw raised : Program Op Response E A) trace outcome after ↔
      trace = [] ∧ outcome = .error raised ∧ after = before := by
  show Executes respond before (Program.ofExcept (.error raised)) trace outcome after ↔ _
  exact executes_ofExcept

/-- A sequence stops at the first part that throws. -/
theorem executes_bind {program : Program Op Response E A} {next : A → Program Op Response E B}
    {outcome : Except E B} :
    Executes respond before (program >>= next) trace outcome after ↔
      (∃ first second value middle, trace = first ++ second ∧
        Executes respond before program first (.ok value) middle ∧
        Executes respond middle (next value) second outcome after) ∨
      ∃ raised, outcome = .error raised ∧
        Executes respond before program trace (.error raised) after := by
  rw [Executes, runs_bind]
  constructor
  · rintro ⟨⟨first, second, value, rfl, ran, rest⟩ | ⟨raised, rfl, ran⟩, leads⟩
    · obtain ⟨middle, early, late⟩ := leads_append.mp leads
      exact .inl ⟨first, second, value, middle, rfl, ⟨ran, early⟩, rest, late⟩
    · exact .inr ⟨raised, rfl, ran, leads⟩
  · rintro (⟨first, second, value, middle, rfl, ⟨ran, early⟩, rest, late⟩ | ⟨raised, rfl, ran, leads⟩)
    · exact ⟨.inl ⟨first, second, value, rfl, ran, rest⟩, leads_append.mpr ⟨middle, early, late⟩⟩
    · exact ⟨.inr ⟨raised, rfl, ran⟩, leads⟩

/-- A sequence that returns has returned in both parts. -/
theorem executes_bind_ok {program : Program Op Response E A}
    {next : A → Program Op Response E B} {value : B} :
    Executes respond before (program >>= next) trace (.ok value) after ↔
      ∃ first second inner middle, trace = first ++ second ∧
        Executes respond before program first (.ok inner) middle ∧
        Executes respond middle (next inner) second (.ok value) after := by
  rw [executes_bind]
  constructor
  · rintro (split | ⟨raised, ⟨⟩, -⟩)
    exact split
  · exact .inl

theorem executes_perform {op : Op} {outcome : Except E (Response op)} :
    Executes respond before (Program.perform op : Program Op Response E (Response op)) trace outcome
        after ↔
      trace = [⟨op, outcome⟩] ∧ respond before ⟨op, outcome⟩ after := by
  rw [Executes, runs_perform]
  constructor
  · rintro ⟨rfl, leads⟩
    obtain ⟨middle, step, rest⟩ := leads_cons.mp leads
    exact ⟨rfl, leads_nil.mp rest ▸ step⟩
  · rintro ⟨rfl, step⟩
    exact ⟨rfl, .cons step (.nil _)⟩

/-- A caught body either returns or hands its state over to the handler. -/
theorem executes_tryCatch {body : Program Op Response E A}
    {handler : E → Program Op Response E A} {outcome : Except E A} :
    Executes respond before (body.tryCatch handler) trace outcome after ↔
      (∃ value, outcome = .ok value ∧ Executes respond before body trace (.ok value) after) ∨
      ∃ first second raised middle, trace = first ++ second ∧
        Executes respond before body first (.error raised) middle ∧
        Executes respond middle (handler raised) second outcome after := by
  rw [Executes, runs_tryCatch]
  constructor
  · rintro ⟨⟨value, rfl, ran⟩ | ⟨first, second, raised, rfl, ran, rest⟩, leads⟩
    · exact .inl ⟨value, rfl, ran, leads⟩
    · obtain ⟨middle, early, late⟩ := leads_append.mp leads
      exact .inr ⟨first, second, raised, middle, rfl, ⟨ran, early⟩, rest, late⟩
  · rintro (⟨value, rfl, ran, leads⟩ | ⟨first, second, raised, middle, rfl, ⟨ran, early⟩, rest, late⟩)
    · exact ⟨.inl ⟨value, rfl, ran⟩, leads⟩
    · exact ⟨.inr ⟨first, second, raised, rfl, ran, rest⟩, leads_append.mpr ⟨middle, early, late⟩⟩

end Executes

end Adjudicate.Effect
