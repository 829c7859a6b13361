/-
This file develops weakest preconditions of programs over a state that their events change.
-/

import Adjudicate.Effect.Execution

namespace Adjudicate.Effect

/-- The environment answers as `respond` says, and the program may only cause allowed events. -/
structure Contract (Op : Type) (Response : Op → Type) (E State : Type) where
  respond : State → Event Op Response E → State → Prop
  allowed : State → Event Op Response E → Prop

variable {Op : Type} {Response : Op → Type} {E A B State : Type}

/-- A program may return or throw, with a promise for each. -/
def promised (post : A → State → Prop) (fails : E → State → Prop) : Except E A → State → Prop
  | .ok value => post value
  | .error raised => fails raised

/-- From this state the program keeps the contract and ends as promised. -/
def Contract.wp (contract : Contract Op Response E State) (program : Program Op Response E A)
    (post : A → State → Prop) (fails : E → State → Prop) (state : State) : Prop :=
  match program with
  | .pure value => post value state
  | .throw raised => fails raised state
  | .call op next => ∀ outcome after, contract.respond state ⟨op, outcome⟩ after →
      contract.allowed state ⟨op, outcome⟩ ∧ contract.wp (next outcome) post fails after

/-- The allowed steps are the steps that keep the contract. -/
def Contract.step (contract : Contract Op Response E State) (before : State)
    (event : Event Op Response E) (after : State) : Prop :=
  contract.respond before event after ∧ contract.allowed before event

section Rules

variable {contract : Contract Op Response E State} {post : A → State → Prop}
  {fails : E → State → Prop} {state : State}

theorem wp_pure {value : A} :
    contract.wp (pure value : Program Op Response E A) post fails state ↔ post value state := Iff.rfl

theorem wp_throw {raised : E} :
    contract.wp (.throw raised : Program Op Response E A) post fails state ↔ fails raised state :=
  Iff.rfl

theorem wp_ofExcept {result : Except E A} :
    contract.wp (Program.ofExcept result) post fails state ↔ promised post fails result state := by
  cases result <;> exact Iff.rfl

theorem wp_perform {op : Op} {post : Response op → State → Prop} :
    contract.wp (Program.perform op) post fails state ↔
      ∀ outcome after, contract.respond state ⟨op, outcome⟩ after →
        contract.allowed state ⟨op, outcome⟩ ∧ promised post fails outcome after := by
  rw [Program.perform, Contract.wp]
  apply forall_congr'
  intro outcome
  cases outcome <;> exact Iff.rfl

theorem wp_bind {program : Program Op Response E A} {next : A → Program Op Response E B}
    {post : B → State → Prop} :
    contract.wp (program >>= next) post fails state ↔
      contract.wp program (fun value => contract.wp (next value) post fails) fails state := by
  change contract.wp (program.bind next) post fails state ↔ _
  induction program generalizing state with
  | pure value => exact Iff.rfl
  | throw raised => exact Iff.rfl
  | call op rest ih => simp only [Program.bind, Contract.wp, ih]

theorem wp_attempt {program : Program Op Response E A} {post : Except E A → State → Prop} :
    contract.wp program.attempt post fails state ↔
      contract.wp program (fun value => post (.ok value)) (fun raised => post (.error raised))
        state := by
  induction program generalizing state with
  | pure value => exact Iff.rfl
  | throw raised => exact Iff.rfl
  | call op rest ih => simp only [Program.attempt, Contract.wp, ih]

/-- The handler starts where the body threw. -/
theorem wp_tryCatch {body : Program Op Response E A} {handler : E → Program Op Response E A} :
    contract.wp (body.tryCatch handler) post fails state ↔
      contract.wp body post (fun raised => contract.wp (handler raised) post fails) state := by
  rw [Program.tryCatch, wp_bind, wp_attempt]
  exact Iff.rfl

theorem wp_mono {program : Program Op Response E A} {weaker : A → State → Prop}
    {broken : E → State → Prop} (holds : contract.wp program post fails state)
    (returns : ∀ value after, post value after → weaker value after)
    (throws : ∀ raised after, fails raised after → broken raised after) :
    contract.wp program weaker broken state := by
  induction program generalizing state with
  | pure value => exact returns value state holds
  | throw raised => exact throws raised state holds
  | call op rest ih =>
      intro outcome after answered
      obtain ⟨allowed, later⟩ := holds outcome after answered
      exact ⟨allowed, ih outcome later⟩

/-- What every confined event keeps holds wherever the program ends. -/
theorem wp_of_confined {quiet : Op → Prop} {program : Program Op Response E A}
    {kept : State → Prop} (confined : Confined quiet program)
    (keeps : ∀ op, quiet op → ∀ outcome before after, kept before →
      contract.respond before ⟨op, outcome⟩ after →
      contract.allowed before ⟨op, outcome⟩ ∧ kept after)
    (start : kept state) : contract.wp program (fun _ => kept) (fun _ => kept) state := by
  induction program generalizing state with
  | pure value => exact start
  | throw raised => exact start
  | call op rest ih =>
      intro outcome after answered
      obtain ⟨allowed, later⟩ := keeps op confined.1 outcome state after start answered
      exact ⟨allowed, ih outcome (confined.2 outcome) later⟩

/-- A loop over a list keeps an invariant of the items that are done. -/
theorem wp_foldlM {Item : Type} {step : B → Item → Program Op Response E B} {items : List Item}
    {start : B} (invariant : List Item → B → State → Prop)
    (keeps : ∀ before item after, items = before ++ item :: after → ∀ value state,
      invariant before value state →
      contract.wp (step value item) (invariant (before ++ [item])) fails state)
    (holds : invariant [] start state) :
    contract.wp (items.foldlM step start) (invariant items) fails state := by
  have run (rest done : List Item) (split : items = done ++ rest) (value : B) (state : State)
      (holds : invariant done value state) :
      contract.wp (rest.foldlM step value) (invariant items) fails state := by
    induction rest generalizing done value state with
    | nil =>
        rw [split, List.append_nil]
        exact holds
    | cons item rest ih =>
        rw [List.foldlM_cons, wp_bind]
        apply wp_mono (keeps done item rest split value state holds)
        · intro next after kept
          exact ih (done ++ [item]) (by simp [split]) next after kept
        · exact fun _ _ failed => failed
  exact run items [] rfl start state holds

/-- Every run from a state that meets the precondition keeps the contract. -/
theorem wp_sound {program : Program Op Response E A} {trace : List (Event Op Response E)}
    {outcome : Except E A} {after : State} (holds : contract.wp program post fails state)
    (run : Executes contract.respond state program trace outcome after) :
    Leads contract.step state trace after ∧ promised post fails outcome after := by
  obtain ⟨ran, leads⟩ := run
  induction ran generalizing state with
  | pure value =>
      obtain rfl := leads_nil.mp leads
      exact ⟨.nil _, holds⟩
  | throw raised =>
      obtain rfl := leads_nil.mp leads
      exact ⟨.nil _, holds⟩
  | call rest ih =>
      obtain ⟨middle, answered, later⟩ := leads_cons.mp leads
      obtain ⟨allowed, holds⟩ := holds _ middle answered
      obtain ⟨safe, ended⟩ := ih holds later
      exact ⟨.cons ⟨answered, allowed⟩ safe, ended⟩

end Rules

section History

/-- The state lists the events so far, whatever the environment answers. -/
def Contract.history (allowed : List (Event Op Response E) → Event Op Response E → Prop) :
    Contract Op Response E (List (Event Op Response E)) where
  respond before event after := after = before ++ [event]
  allowed := allowed

variable {allowed : List (Event Op Response E) → Event Op Response E → Prop}

theorem executes_history {program : Program Op Response E A} {trace : List (Event Op Response E)}
    {outcome : Except E A} {before : List (Event Op Response E)} (run : Runs program trace outcome) :
    Executes (Contract.history allowed).respond before program trace outcome (before ++ trace) := by
  refine ⟨run, ?_⟩
  clear run
  induction trace generalizing before with
  | nil => exact leads_nil.mpr (List.append_nil before)
  | cons event rest ih =>
      rw [List.append_cons]
      exact .cons rfl ih

/-- Steps that keep the contract are allowed after the events before them. -/
theorem allowed_of_leads {trace : List (Event Op Response E)}
    {before after : List (Event Op Response E)}
    (leads : Leads (Contract.history allowed).step before trace after) :
    ∀ early event late, trace = early ++ event :: late → allowed (before ++ early) event := by
  induction leads with
  | nil => exact fun early event late split => absurd split.symm (by simp)
  | @cons before middle after head rest step _ ih =>
      obtain ⟨rfl, fine⟩ := step
      intro early event late split
      cases early with
      | nil =>
          obtain ⟨rfl, -⟩ := List.cons.inj split
          exact (List.append_nil before).symm ▸ fine
      | cons first early =>
          rw [List.cons_append, List.cons.injEq] at split
          obtain ⟨rfl, split⟩ := split
          rw [List.append_cons]
          exact ih early event late split

/-- A program of harmless events keeps the contract, and its runs decide where it ends. -/
theorem wp_of_runs {program : Program Op Response E A} {post : A → List (Event Op Response E) → Prop}
    {fails : E → List (Event Op Response E) → Prop} {before : List (Event Op Response E)}
    (harmless : Confined (fun op => ∀ seen outcome, allowed seen ⟨op, outcome⟩) program)
    (returns : ∀ trace value, Runs program trace (.ok value) → post value (before ++ trace))
    (throws : ∀ trace raised, Runs program trace (.error raised) → fails raised (before ++ trace)) :
    (Contract.history allowed).wp program post fails before := by
  induction program generalizing before with
  | pure value =>
      have ended := returns [] value (.pure value)
      rwa [List.append_nil] at ended
  | throw raised =>
      have ended := throws [] raised (.throw raised)
      rwa [List.append_nil] at ended
  | call op rest ih =>
      rintro outcome _ rfl
      refine ⟨harmless.1 before outcome, ih outcome (harmless.2 outcome) ?_ ?_⟩
      · intro trace value run
        rw [← List.append_cons]
        exact returns _ value (.call run)
      · intro trace raised run
        rw [← List.append_cons]
        exact throws _ raised (.call run)

end History

section Lift

variable {Outer : Type} {Answer : Outer → Type}

/-- A program becomes part of another one, whose effects name its own. -/
def Program.lift (embed : Op → Outer)
    (program : Program Op (fun op => Answer (embed op)) E A) : Program Outer Answer E A :=
  match program with
  | .pure value => .pure value
  | .throw raised => .throw raised
  | .call op next => .call (embed op) fun outcome => lift embed (next outcome)

def Event.lift (embed : Op → Outer) (event : Event Op (fun op => Answer (embed op)) E) :
    Event Outer Answer E := ⟨embed event.op, event.outcome⟩

theorem runs_lift {embed : Op → Outer} {program : Program Op (fun op => Answer (embed op)) E A}
    {trace : List (Event Outer Answer E)} {outcome : Except E A} :
    Runs (program.lift embed) trace outcome ↔
      ∃ inner, trace = inner.map (Event.lift embed) ∧ Runs program inner outcome := by
  induction program generalizing trace with
  | pure value =>
      rw [Program.lift]
      constructor
      · intro run
        cases run
        exact ⟨[], rfl, .pure value⟩
      · rintro ⟨inner, rfl, run⟩
        cases run
        exact .pure value
  | throw raised =>
      rw [Program.lift]
      constructor
      · intro run
        cases run
        exact ⟨[], rfl, .throw raised⟩
      · rintro ⟨inner, rfl, run⟩
        cases run
        exact .throw raised
  | call op rest ih =>
      rw [Program.lift, runs_call]
      constructor
      · rintro ⟨response, tail, rfl, run⟩
        obtain ⟨inner, rfl, ran⟩ := (ih response).mp run
        exact ⟨⟨op, response⟩ :: inner, rfl, .call ran⟩
      · rintro ⟨inner, rfl, run⟩
        cases run with
        | @call _ _ response tail _ ran => exact ⟨response, _, rfl, (ih response).mpr ⟨tail, rfl, ran⟩⟩

theorem confined_lift {embed : Op → Outer} {inside : Outer → Prop}
    (program : Program Op (fun op => Answer (embed op)) E A) (every : ∀ op, inside (embed op)) :
    Confined inside (program.lift embed) := by
  induction program with
  | pure value => trivial
  | throw raised => trivial
  | call op rest ih => exact ⟨every op, ih⟩

end Lift

end Adjudicate.Effect
