/-
This file develops programs that call fallible effects, with their runs and traces.
-/

import Mathlib.Logic.Basic

namespace Adjudicate.Effect

/-- A program returns, throws, or calls an effect and continues with its outcome. -/
inductive Program (Op : Type) (Response : Op → Type) (E A : Type) where
  | pure (value : A)
  | throw (raised : E)
  | call (op : Op) (next : Except E (Response op) → Program Op Response E A)

/-- An event is a called effect with its outcome. -/
structure Event (Op : Type) (Response : Op → Type) (E : Type) where
  op : Op
  outcome : Except E (Response op)

variable {Op : Type} {Response : Op → Type} {E A B : Type}

/-- The effect of the event failed. -/
def Event.Failed (event : Event Op Response E) : Prop := ∃ raised, event.outcome = .error raised

namespace Program

def bind (program : Program Op Response E A) (next : A → Program Op Response E B) :
    Program Op Response E B :=
  match program with
  | .pure value => next value
  | .throw raised => .throw raised
  | .call op rest => .call op fun outcome => bind (rest outcome) next

instance : Monad (Program Op Response E) where
  pure := .pure
  bind := bind

def perform (op : Op) : Program Op Response E (Response op) :=
  .call op fun
    | .ok response => .pure response
    | .error raised => .throw raised

def ofExcept : Except E A → Program Op Response E A
  | .ok value => .pure value
  | .error raised => .throw raised

/-- The outcome of the body becomes a value. -/
def attempt : Program Op Response E A → Program Op Response E (Except E A)
  | .pure value => .pure (.ok value)
  | .throw raised => .pure (.error raised)
  | .call op rest => .call op fun outcome => attempt (rest outcome)

/-- This is `try body catch (raised) handler`. -/
def tryCatch (body : Program Op Response E A) (handler : E → Program Op Response E A) :
    Program Op Response E A := do
  match ← attempt body with
  | .ok value => return value
  | .error raised => handler raised

/-- This is `try body finally cleanup`; a throwing cleanup replaces the outcome of the body. -/
def ensuring (body : Program Op Response E A) (cleanup : Program Op Response E Unit) :
    Program Op Response E A := do
  let outcome ← attempt body
  cleanup
  ofExcept outcome

end Program

/-- A run lists the events of a program in their order. -/
inductive Runs : Program Op Response E A → List (Event Op Response E) → Except E A → Prop where
  | pure (value : A) : Runs (.pure value) [] (.ok value)
  | throw (raised : E) : Runs (.throw raised) [] (.error raised)
  | call {op : Op} {next : Except E (Response op) → Program Op Response E A}
      {outcome : Except E (Response op)} {trace : List (Event Op Response E)}
      {result : Except E A} :
      Runs (next outcome) trace result → Runs (.call op next) (⟨op, outcome⟩ :: trace) result

section Runs

variable {trace : List (Event Op Response E)}

theorem runs_pure {value : A} {outcome : Except E A} :
    Runs (pure value : Program Op Response E A) trace outcome ↔
      trace = [] ∧ outcome = .ok value := by
  constructor
  · intro run
    cases run
    exact ⟨rfl, rfl⟩
  · rintro ⟨rfl, rfl⟩
    exact .pure value

theorem runs_throw {raised : E} {outcome : Except E A} :
    Runs (.throw raised : Program Op Response E A) trace outcome ↔
      trace = [] ∧ outcome = .error raised := by
  constructor
  · intro run
    cases run
    exact ⟨rfl, rfl⟩
  · rintro ⟨rfl, rfl⟩
    exact .throw raised

theorem runs_call {op : Op} {next : Except E (Response op) → Program Op Response E A}
    {outcome : Except E A} :
    Runs (.call op next) trace outcome ↔
      ∃ response rest, trace = ⟨op, response⟩ :: rest ∧ Runs (next response) rest outcome := by
  constructor
  · intro run
    cases run with
    | call rest => exact ⟨_, _, rfl, rest⟩
  · rintro ⟨response, rest, rfl, run⟩
    exact .call run

theorem runs_perform {op : Op} {outcome : Except E (Response op)} :
    Runs (Program.perform op : Program Op Response E (Response op)) trace outcome ↔
      trace = [⟨op, outcome⟩] := by
  rw [Program.perform, runs_call]
  constructor
  · rintro ⟨response, rest, rfl, run⟩
    cases response <;> cases run <;> rfl
  · rintro rfl
    cases outcome with
    | ok response => exact ⟨.ok response, [], rfl, .pure response⟩
    | error raised => exact ⟨.error raised, [], rfl, .throw raised⟩

theorem runs_ofExcept {result outcome : Except E A} :
    Runs (Program.ofExcept result : Program Op Response E A) trace outcome ↔
      trace = [] ∧ outcome = result := by
  cases result with
  | ok value => exact runs_pure
  | error raised => exact runs_throw

/-- A run of a sequence splits where the first part ends. -/
theorem runs_bind {program : Program Op Response E A} {next : A → Program Op Response E B}
    {outcome : Except E B} :
    Runs (program >>= next) trace outcome ↔
      (∃ before after value, trace = before ++ after ∧ Runs program before (.ok value) ∧
        Runs (next value) after outcome) ∨
      ∃ raised, outcome = .error raised ∧ Runs program trace (.error raised) := by
  change Runs (program.bind next) trace outcome ↔ _
  induction program generalizing trace with
  | pure value =>
      rw [Program.bind]
      constructor
      · intro run
        exact .inl ⟨[], trace, value, rfl, .pure value, run⟩
      · rintro (⟨before, after, value, rfl, first, run⟩ | ⟨raised, rfl, first⟩)
        · cases first
          exact run
        · cases first
  | throw raised =>
      rw [Program.bind]
      constructor
      · intro run
        cases run
        exact .inr ⟨raised, rfl, .throw raised⟩
      · rintro (⟨before, after, value, rfl, first, run⟩ | ⟨raised, rfl, first⟩)
        · cases first
        · cases first
          exact .throw raised
  | call op rest ih =>
      rw [Program.bind, runs_call]
      constructor
      · rintro ⟨response, tail, rfl, run⟩
        obtain ⟨before, after, value, rfl, first, last⟩ | ⟨raised, rfl, first⟩ := (ih response).mp run
        · exact .inl ⟨_ :: before, after, value, rfl, .call first, last⟩
        · exact .inr ⟨raised, rfl, .call first⟩
      · rintro (⟨before, after, value, rfl, first, last⟩ | ⟨raised, rfl, first⟩)
        · cases first with
          | @call _ _ response tail _ first =>
              exact ⟨response, tail ++ after, rfl, (ih response).mpr (.inl ⟨tail, after, value, rfl, first, last⟩)⟩
        · cases first with
          | @call _ _ response tail _ first =>
              exact ⟨response, tail, rfl, (ih response).mpr (.inr ⟨raised, rfl, first⟩)⟩

theorem runs_attempt {program : Program Op Response E A} {outcome : Except E (Except E A)} :
    Runs program.attempt trace outcome ↔ ∃ result, outcome = .ok result ∧ Runs program trace result := by
  induction program generalizing trace with
  | pure value =>
      rw [Program.attempt]
      constructor
      · intro run
        cases run
        exact ⟨.ok value, rfl, .pure value⟩
      · rintro ⟨result, rfl, run⟩
        cases run
        exact .pure _
  | throw raised =>
      rw [Program.attempt]
      constructor
      · intro run
        cases run
        exact ⟨.error raised, rfl, .throw raised⟩
      · rintro ⟨result, rfl, run⟩
        cases run
        exact .pure _
  | call op rest ih =>
      rw [Program.attempt, runs_call]
      constructor
      · rintro ⟨response, tail, rfl, run⟩
        obtain ⟨result, rfl, inner⟩ := (ih response).mp run
        exact ⟨result, rfl, .call inner⟩
      · rintro ⟨result, rfl, run⟩
        cases run with
        | @call _ _ response tail _ inner =>
            exact ⟨response, tail, rfl, (ih response).mpr ⟨result, rfl, inner⟩⟩

/-- A caught body either returns or hands over to its handler. -/
theorem runs_tryCatch {body : Program Op Response E A} {handler : E → Program Op Response E A}
    {outcome : Except E A} :
    Runs (body.tryCatch handler) trace outcome ↔
      (∃ value, outcome = .ok value ∧ Runs body trace (.ok value)) ∨
      ∃ before after raised, trace = before ++ after ∧ Runs body before (.error raised) ∧
        Runs (handler raised) after outcome := by
  rw [Program.tryCatch, runs_bind]
  simp only [runs_attempt]
  constructor
  · rintro (⟨before, after, result, rfl, ⟨_, ⟨⟩, first⟩, last⟩ | ⟨raised, rfl, _, ⟨⟩, -⟩)
    cases result with
    | ok value =>
        obtain ⟨rfl, rfl⟩ := runs_pure.mp last
        exact .inl ⟨value, rfl, (List.append_nil before).symm ▸ first⟩
    | error raised => exact .inr ⟨before, after, raised, rfl, first, last⟩
  · rintro (⟨value, rfl, run⟩ | ⟨before, after, raised, rfl, first, last⟩)
    · exact .inl ⟨trace, [], .ok value, (List.append_nil trace).symm, ⟨_, rfl, run⟩,
        runs_pure.mpr ⟨rfl, rfl⟩⟩
    · exact .inl ⟨before, after, .error raised, rfl, ⟨_, rfl, first⟩, last⟩

/-- The cleanup runs whatever the outcome of the body is. -/
theorem runs_ensuring {body : Program Op Response E A} {cleanup : Program Op Response E Unit}
    {outcome : Except E A} :
    Runs (body.ensuring cleanup) trace outcome ↔
      ∃ before after result, trace = before ++ after ∧ Runs body before result ∧
        ((Runs cleanup after (.ok ()) ∧ outcome = result) ∨
          ∃ raised, Runs cleanup after (.error raised) ∧ outcome = .error raised) := by
  rw [Program.ensuring, runs_bind]
  simp only [runs_attempt, runs_bind, runs_ofExcept]
  constructor
  · rintro (⟨before, after, result, rfl, ⟨_, ⟨⟩, first⟩, last⟩ | ⟨raised, rfl, _, ⟨⟩, -⟩)
    obtain ⟨middle, tail, value, rfl, cleaned, rfl, rfl⟩ | ⟨raised, rfl, cleaned⟩ := last
    · rw [List.append_nil]
      exact ⟨before, middle, _, rfl, first, .inl ⟨cleaned, rfl⟩⟩
    · exact ⟨before, after, result, rfl, first, .inr ⟨raised, cleaned, rfl⟩⟩
  · rintro ⟨before, after, result, rfl, first, ⟨cleaned, rfl⟩ | ⟨raised, cleaned, rfl⟩⟩
    · exact .inl ⟨before, after, _, rfl, ⟨_, rfl, first⟩,
        .inl ⟨after, [], (), (List.append_nil after).symm, cleaned, rfl, rfl⟩⟩
    · exact .inl ⟨before, after, _, rfl, ⟨_, rfl, first⟩, .inr ⟨raised, rfl, cleaned⟩⟩

/-- The cleanup runs before the returned value is wrapped. -/
theorem runs_ensuring_wrap {body : Program Op Response E A} {cleanup : Program Op Response E Unit}
    {wrap : A → B} {outcome : Except E B}
    (run : Runs (body.ensuring cleanup >>= fun value => pure (wrap value)) trace outcome) :
    ∃ before after result, trace = before ++ after ∧ Runs body before result ∧
      ((Runs cleanup after (.ok ()) ∧ outcome = result.map wrap) ∨
        ∃ raised, Runs cleanup after (.error raised) ∧ outcome = .error raised) := by
  obtain ⟨whole, tail, value, rfl, ran, returned⟩ | ⟨raised, rfl, ran⟩ := runs_bind.mp run
  · obtain ⟨rfl, rfl⟩ := runs_pure.mp returned
    rw [List.append_nil]
    obtain ⟨before, after, result, rfl, first, ⟨cleaned, rfl⟩ | ⟨raised, -, ⟨⟩⟩⟩ :=
      runs_ensuring.mp ran
    exact ⟨before, after, _, rfl, first, .inl ⟨cleaned, rfl⟩⟩
  · obtain ⟨before, after, result, rfl, first, ⟨cleaned, rfl⟩ | ⟨raised, cleaned, ⟨⟩⟩⟩ :=
      runs_ensuring.mp ran
    · exact ⟨before, after, _, rfl, first, .inl ⟨cleaned, rfl⟩⟩
    · exact ⟨before, after, result, rfl, first, .inr ⟨raised, cleaned, rfl⟩⟩

/-- A sequence that returns has returned in both parts. -/
theorem runs_bind_ok {program : Program Op Response E A} {next : A → Program Op Response E B}
    {value : B} :
    Runs (program >>= next) trace (.ok value) ↔
      ∃ before after first, trace = before ++ after ∧ Runs program before (.ok first) ∧
        Runs (next first) after (.ok value) := by
  rw [runs_bind]
  constructor
  · rintro (split | ⟨raised, ⟨⟩, -⟩)
    exact split
  · exact .inl

theorem runs_perform_bind {op : Op} {next : Response op → Program Op Response E A}
    {outcome : Except E A} :
    Runs (Program.perform op >>= next) trace outcome ↔
      ∃ response rest, trace = ⟨op, response⟩ :: rest ∧
        match response with
        | .ok value => Runs (next value) rest outcome
        | .error raised => rest = [] ∧ outcome = .error raised := by
  change Runs (.call op _) trace outcome ↔ _
  rw [runs_call]
  apply exists_congr
  intro response
  apply exists_congr
  intro rest
  apply and_congr_right
  intro _
  cases response with
  | ok value => exact Iff.rfl
  | error raised => exact runs_throw

end Runs

/-- Every effect that the program may call is allowed. -/
def Confined (allowed : Op → Prop) : Program Op Response E A → Prop
  | .pure _ => True
  | .throw _ => True
  | .call op next => allowed op ∧ ∀ outcome, Confined allowed (next outcome)

section Confined

variable {allowed : Op → Prop}

/-- A run of a confined program only has allowed events. -/
theorem Runs.confined {program : Program Op Response E A} {trace : List (Event Op Response E)}
    {outcome : Except E A} (run : Runs program trace outcome)
    (confined : Confined allowed program) : ∀ event ∈ trace, allowed event.op := by
  induction run with
  | pure value => simp
  | throw raised => simp
  | call rest ih => exact List.forall_mem_cons.mpr ⟨confined.1, ih (confined.2 _)⟩

theorem Confined.mono {more : Op → Prop} {program : Program Op Response E A}
    (inside : ∀ op, allowed op → more op) (confined : Confined allowed program) :
    Confined more program := by
  induction program with
  | pure value => trivial
  | throw raised => trivial
  | call op next ih => exact ⟨inside op confined.1, fun outcome => ih outcome (confined.2 outcome)⟩

theorem confined_perform {op : Op} (fits : allowed op) :
    Confined allowed (Program.perform op : Program Op Response E (Response op)) := by
  refine ⟨fits, ?_⟩
  intro outcome
  cases outcome <;> trivial

theorem confined_ofExcept (result : Except E A) :
    Confined allowed (Program.ofExcept result : Program Op Response E A) := by
  cases result <;> trivial

theorem confined_bind {program : Program Op Response E A} {next : A → Program Op Response E B}
    (first : Confined allowed program) (rest : ∀ value, Confined allowed (next value)) :
    Confined allowed (program >>= next) := by
  change Confined allowed (program.bind next)
  induction program with
  | pure value => exact rest value
  | throw raised => trivial
  | call op more ih => exact ⟨first.1, fun outcome => ih outcome (first.2 outcome)⟩

theorem confined_attempt {program : Program Op Response E A} (body : Confined allowed program) :
    Confined allowed program.attempt := by
  induction program with
  | pure value => trivial
  | throw raised => trivial
  | call op more ih => exact ⟨body.1, fun outcome => ih outcome (body.2 outcome)⟩

theorem confined_tryCatch {body : Program Op Response E A} {handler : E → Program Op Response E A}
    (first : Confined allowed body) (second : ∀ raised, Confined allowed (handler raised)) :
    Confined allowed (body.tryCatch handler) := by
  apply confined_bind (confined_attempt first)
  intro outcome
  cases outcome with
  | ok value => trivial
  | error raised => exact second raised

theorem confined_ensuring {body : Program Op Response E A} {cleanup : Program Op Response E Unit}
    (first : Confined allowed body) (second : Confined allowed cleanup) :
    Confined allowed (body.ensuring cleanup) := by
  apply confined_bind (confined_attempt first)
  intro outcome
  apply confined_bind second
  intro _
  exact confined_ofExcept outcome

end Confined

/-- The program throws exactly when one of its fatal effects fails. -/
def ThrowsOn (fatal : Op → Prop) (program : Program Op Response E A) : Prop :=
  ∀ trace outcome, Runs program trace outcome →
    ((∃ raised, outcome = .error raised) ↔ ∃ event ∈ trace, fatal event.op ∧ event.Failed)

section ThrowsOn

variable {fatal : Op → Prop}

theorem throwsOn_pure (value : A) : ThrowsOn fatal (pure value : Program Op Response E A) := by
  intro trace outcome run
  obtain ⟨rfl, rfl⟩ := runs_pure.mp run
  simp

theorem throwsOn_perform {op : Op} (counts : fatal op) :
    ThrowsOn fatal (Program.perform op : Program Op Response E (Response op)) := by
  intro trace outcome run
  rw [runs_perform.mp run]
  simp [counts, Event.Failed]

theorem throwsOn_bind {program : Program Op Response E A} {next : A → Program Op Response E B}
    (first : ThrowsOn fatal program) (rest : ∀ value, ThrowsOn fatal (next value)) :
    ThrowsOn fatal (program >>= next) := by
  intro trace outcome run
  obtain ⟨before, after, value, rfl, ran, last⟩ | ⟨raised, rfl, ran⟩ := runs_bind.mp run
  · have passed : ¬∃ event ∈ before, fatal event.op ∧ event.Failed := by
      rw [← first before _ ran]
      simp
    have split : (∃ event ∈ before ++ after, fatal event.op ∧ event.Failed) ↔
        ∃ event ∈ after, fatal event.op ∧ event.Failed := by
      simp only [List.mem_append, or_and_right, exists_or, passed, false_or]
    rw [split]
    exact rest value after outcome last
  · rw [← first trace _ ran]
    simp

/-- A caught body of harmless effects leaves only the handler to throw. -/
theorem throwsOn_tryCatch {body : Program Op Response E A}
    {handler : E → Program Op Response E A} (harmless : Confined (¬fatal ·) body)
    (second : ∀ raised, ThrowsOn fatal (handler raised)) :
    ThrowsOn fatal (body.tryCatch handler) := by
  intro trace outcome run
  obtain ⟨value, rfl, ran⟩ | ⟨before, after, raised, rfl, ran, last⟩ := runs_tryCatch.mp run
  · have passed := ran.confined harmless
    simp only [reduceCtorEq, exists_false, false_iff, not_exists, not_and]
    intro event inside counts
    exact (passed event inside counts).elim
  · have passed := ran.confined harmless
    have split : (∃ event ∈ before ++ after, fatal event.op ∧ event.Failed) ↔
        ∃ event ∈ after, fatal event.op ∧ event.Failed := by
      constructor
      · intro ⟨event, inside, counts, failed⟩
        obtain early | late := List.mem_append.mp inside
        · exact (passed event early counts).elim
        · exact ⟨event, late, counts, failed⟩
      · intro ⟨event, inside, failed⟩
        exact ⟨event, List.mem_append_right before inside, failed⟩
    rw [split]
    exact second raised after outcome last

end ThrowsOn

/-- Every run with fine events only returns a value as promised. -/
def Returns (fine : Event Op Response E → Prop) (promised : A → Prop)
    (program : Program Op Response E A) : Prop :=
  ∀ trace outcome, Runs program trace outcome → (∀ event ∈ trace, fine event) →
    ∃ value, outcome = .ok value ∧ promised value

section Returns

variable {fine : Event Op Response E → Prop} {promised : A → Prop}

theorem returns_pure {value : A} (holds : promised value) :
    Returns fine promised (pure value : Program Op Response E A) := by
  intro trace outcome run _
  obtain ⟨-, rfl⟩ := runs_pure.mp run
  exact ⟨value, rfl, holds⟩

theorem returns_ofExcept {result : Except E A}
    (returned : ∃ value, result = .ok value ∧ promised value) :
    Returns fine promised (Program.ofExcept result : Program Op Response E A) := by
  intro trace outcome run _
  obtain ⟨-, rfl⟩ := runs_ofExcept.mp run
  exact returned

/-- A fine event of the effect has the promised response. -/
theorem returns_perform {op : Op} {answered : Response op → Prop}
    (fits : ∀ outcome, fine ⟨op, outcome⟩ → ∃ response, outcome = .ok response ∧ answered response) :
    Returns fine answered (Program.perform op : Program Op Response E (Response op)) := by
  intro trace outcome run calm
  rw [runs_perform.mp run] at calm
  exact fits outcome (calm _ (by simp))

theorem returns_bind {program : Program Op Response E A} {next : A → Program Op Response E B}
    {kept : B → Prop} (first : Returns fine promised program)
    (rest : ∀ value, promised value → Returns fine kept (next value)) :
    Returns fine kept (program >>= next) := by
  intro trace outcome run calm
  obtain ⟨before, after, value, rfl, ran, last⟩ | ⟨raised, rfl, ran⟩ := runs_bind.mp run
  · obtain ⟨other, same, holds⟩ := first before _ ran fun event inside =>
      calm event (List.mem_append_left after inside)
    obtain rfl := Except.ok.inj same
    exact rest value holds after outcome last fun event inside =>
      calm event (List.mem_append_right before inside)
  · obtain ⟨value, ⟨⟩, -⟩ := first trace _ ran calm

theorem Returns.weaken {program : Program Op Response E A} {kept : A → Prop}
    (returns : Returns fine promised program) (weaker : ∀ value, promised value → kept value) :
    Returns fine kept program := by
  intro trace outcome run calm
  obtain ⟨value, same, holds⟩ := returns trace outcome run calm
  exact ⟨value, same, weaker value holds⟩

/-- A body that returns never reaches its handler. -/
theorem returns_tryCatch {body : Program Op Response E A}
    {handler : E → Program Op Response E A} (first : Returns fine promised body) :
    Returns fine promised (body.tryCatch handler) := by
  intro trace outcome run calm
  obtain ⟨value, rfl, ran⟩ | ⟨before, after, raised, rfl, ran, -⟩ := runs_tryCatch.mp run
  · exact first trace _ ran calm
  · obtain ⟨value, ⟨⟩, -⟩ := first before _ ran fun event inside =>
      calm event (List.mem_append_left after inside)

theorem returns_ensuring {body : Program Op Response E A} {cleanup : Program Op Response E Unit}
    (first : Returns fine promised body) (second : Returns fine (fun _ => True) cleanup) :
    Returns fine promised (body.ensuring cleanup) := by
  intro trace outcome run calm
  obtain ⟨before, after, result, rfl, ran, ending⟩ := runs_ensuring.mp run
  have late (event : Event Op Response E) (inside : event ∈ after) : fine event :=
    calm event (List.mem_append_right before inside)
  obtain ⟨-, rfl⟩ | ⟨raised, cleaned, -⟩ := ending
  · exact first before _ ran fun event inside => calm event (List.mem_append_left after inside)
  · obtain ⟨value, ⟨⟩, -⟩ := second after _ cleaned late

end Returns

section Interpret

variable (respond : (op : Op) → Except E (Response op))

/-- Each effect answers by a function of its own. -/
def Program.interpret : Program Op Response E A → List (Event Op Response E) × Except E A
  | .pure value => ([], .ok value)
  | .throw raised => ([], .error raised)
  | .call op next =>
      let (trace, outcome) := interpret (next (respond op))
      (⟨op, respond op⟩ :: trace, outcome)

theorem runs_interpret (program : Program Op Response E A) :
    Runs program (program.interpret respond).1 (program.interpret respond).2 := by
  induction program with
  | pure value => exact .pure value
  | throw raised => exact .throw raised
  | call op next ih => exact .call (ih (respond op))

/-- Every event carries the answer of its effect. -/
theorem interpret_events (program : Program Op Response E A) :
    ∀ event ∈ (program.interpret respond).1, event = ⟨event.op, respond event.op⟩ := by
  induction program with
  | pure value => exact nofun
  | throw raised => exact nofun
  | call op next ih =>
      rw [Program.interpret]
      exact List.forall_mem_cons.mpr ⟨rfl, ih (respond op)⟩

end Interpret

end Adjudicate.Effect
