/-
This file develops pools of programs that interleave their effects over a shared state, and
registries whose first writer wins.
-/

import Mathlib.Data.Set.Basic
import Mathlib.Logic.Function.Basic
import Adjudicate.Effect.Program

namespace Adjudicate.Effect

variable {Op : Type} {Response : Op → Type} {E A : Type}

/-- The events lead from the program to what is left of it. -/
inductive Reaches (program : Program Op Response E A) :
    List (Event Op Response E) → Program Op Response E A → Prop where
  | start : Reaches program [] program
  | step {trace : List (Event Op Response E)} {op : Op}
      {next : Except E (Response op) → Program Op Response E A}
      (outcome : Except E (Response op)) :
      Reaches program trace (.call op next) → Reaches program (trace ++ [⟨op, outcome⟩]) (next outcome)

/-- A partial run continues with any run of the rest. -/
theorem Reaches.runs {program rest : Program Op Response E A}
    {trace more : List (Event Op Response E)} {result : Except E A}
    (reaches : Reaches program trace rest) (run : Runs rest more result) :
    Runs program (trace ++ more) result := by
  induction reaches generalizing more with
  | start => exact run
  | step outcome _ ih =>
      rw [List.append_assoc]
      exact ih (.call run)

/-- Every program can run to an end. -/
theorem exists_runs [Nonempty E] (program : Program Op Response E A) :
    ∃ trace result, Runs program trace result := by
  obtain ⟨raised⟩ := ‹Nonempty E›
  induction program with
  | pure value => exact ⟨[], .ok value, .pure value⟩
  | throw raised => exact ⟨[], .error raised, .throw raised⟩
  | call op next ih =>
      obtain ⟨trace, result, run⟩ := ih (.error raised)
      exact ⟨_, result, .call run⟩

section Pool

variable {I : Type} {State : Type}

/-- Each member of a pool has its remaining program and its own history. -/
structure Pool (I Op : Type) (Response : Op → Type) (E A State : Type) where
  state : State
  current : I → Program Op Response E A
  history : I → List (Event Op Response E)

/-- In each step some member performs its next effect on the shared state. -/
inductive Reachable [DecidableEq I] (respond : State → Event Op Response E → State → Prop)
    (start : State) (initial : I → Program Op Response E A) :
    Pool I Op Response E A State → Prop where
  | start : Reachable respond start initial ⟨start, initial, fun _ => []⟩
  | step {pool : Pool I Op Response E A State} (i : I) {op : Op}
      {next : Except E (Response op) → Program Op Response E A} (outcome : Except E (Response op))
      (state : State) :
      Reachable respond start initial pool → pool.current i = .call op next →
      respond pool.state ⟨op, outcome⟩ state →
      Reachable respond start initial
        ⟨state, Function.update pool.current i (next outcome),
          Function.update pool.history i (pool.history i ++ [⟨op, outcome⟩])⟩

variable [DecidableEq I] {respond : State → Event Op Response E → State → Prop} {start : State}
  {initial : I → Program Op Response E A} {pool : Pool I Op Response E A State}

/-- The history of a member leads to its remaining program. -/
theorem Reachable.reaches (reachable : Reachable respond start initial pool) (i : I) :
    Reaches (initial i) (pool.history i) (pool.current i) := by
  induction reachable with
  | start => exact .start
  | step j outcome state _ waiting _ ih =>
      by_cases same : i = j
      · subst same
        simp only [Function.update_self]
        exact .step outcome (waiting ▸ ih)
      · simpa only [Function.update_of_ne same] using ih

/-- A member that has finished has run its whole program. -/
theorem Reachable.runs (reachable : Reachable respond start initial pool) {i : I}
    {outcome : Except E A} (finished : pool.current i = .ofExcept outcome) :
    Runs (initial i) (pool.history i) outcome := by
  have rest : Runs (pool.current i) [] outcome := by
    rw [finished]
    exact runs_ofExcept.mpr ⟨rfl, rfl⟩
  have whole := (reachable.reaches i).runs rest
  rwa [List.append_nil] at whole

end Pool

/-- A list splits in one way at an element that no other element resembles. -/
theorem split_unique {A : Type} {marked : A → Prop} {before after earlier later : List A}
    {mark other : A} (same : before ++ mark :: after = earlier ++ other :: later)
    (marks : marked mark) (noneEarlier : ∀ element ∈ earlier, ¬marked element)
    (noneLater : ∀ element ∈ later, ¬marked element) :
    before = earlier ∧ mark = other ∧ after = later := by
  induction before generalizing earlier with
  | nil =>
      cases earlier with
      | nil => simpa using same
      | cons element earlier =>
          obtain ⟨rfl, -⟩ := List.cons.inj same
          exact (noneEarlier mark List.mem_cons_self marks).elim
  | cons element before ih =>
      cases earlier with
      | nil =>
          obtain ⟨-, rfl⟩ := List.cons.inj same
          exact (noneLater mark (by simp) marks).elim
      | cons first earlier =>
          obtain ⟨rfl, rest⟩ := List.cons.inj same
          obtain ⟨rfl, ends⟩ := ih rest (List.forall_mem_cons.mp noneEarlier).2
          exact ⟨rfl, ends⟩

/-- Some events claim a key of a shared registry and some give one back. -/
structure Registry (Op : Type) (Response : Op → Type) (E Key : Type) where
  claims : Event Op Response E → Option Key
  releases : Event Op Response E → Option Key

namespace Registry

variable {Key State : Type} (registry : Registry Op Response E Key)

/-- The last event of the history about the key is a claim. -/
def Holds (history : List (Event Op Response E)) (key : Key) : Prop :=
  history.foldl (fun held event =>
    registry.claims event = some key ∨ (held ∧ registry.releases event ≠ some key)) False

/-- A claim needs a free key, and only a release frees one. -/
structure FirstWriterWins (taken : State → Set Key)
    (respond : State → Event Op Response E → State → Prop) : Prop where
  fresh {before after : State} {event : Event Op Response E} {key : Key} :
    respond before event after → registry.claims event = some key →
      key ∉ taken before ∧ key ∈ taken after
  keeps {before after : State} {event : Event Op Response E} {key : Key} :
    respond before event after → key ∈ taken before → registry.releases event ≠ some key →
      key ∈ taken after

/-- The program releases only keys that it holds. -/
def Careful (program : Program Op Response E A) : Prop :=
  ∀ trace result, Runs program trace result → ∀ before event after key,
    trace = before ++ event :: after → registry.releases event = some key →
      registry.Holds before key

theorem holds_nil (key : Key) : ¬registry.Holds [] key := id

theorem holds_append (history : List (Event Op Response E)) (event : Event Op Response E)
    (key : Key) :
    registry.Holds (history ++ [event]) key ↔
      registry.claims event = some key ∨
        (registry.Holds history key ∧ registry.releases event ≠ some key) := by
  rw [Holds, List.foldl_append]
  exact Iff.rfl

/-- Events about other keys leave the key as it is. -/
theorem holds_append_quiet (history : List (Event Op Response E))
    {more : List (Event Op Response E)} {key : Key}
    (quiet : ∀ event ∈ more, registry.claims event ≠ some key ∧ registry.releases event ≠ some key) :
    registry.Holds (history ++ more) key ↔ registry.Holds history key := by
  induction more generalizing history with
  | nil => rw [List.append_nil]
  | cons event more ih =>
      obtain ⟨head, tail⟩ := List.forall_mem_cons.mp quiet
      rw [List.append_cons, ih _ tail, registry.holds_append]
      simp [head.1, head.2]

/-- A careful program holds every key that its next event releases. -/
theorem Careful.holds [Nonempty E] {program rest : Program Op Response E A}
    (careful : registry.Careful program) {history : List (Event Op Response E)}
    {event : Event Op Response E} {key : Key}
    (reaches : Reaches program (history ++ [event]) rest)
    (released : registry.releases event = some key) : registry.Holds history key := by
  obtain ⟨more, result, run⟩ := exists_runs rest
  exact careful _ result (reaches.runs run) history event more key (by simp) released

variable [Nonempty E] {I : Type} [DecidableEq I] {taken : State → Set Key}
  {respond : State → Event Op Response E → State → Prop} {start : State}
  {initial : I → Program Op Response E A} {pool : Pool I Op Response E A State}

/-- Whatever careful programs interleave, a held key is taken and has a single holder. -/
theorem holders_unique (wins : FirstWriterWins registry taken respond)
    (careful : ∀ i, registry.Careful (initial i)) (reachable : Reachable respond start initial pool) :
    (∀ i key, registry.Holds (pool.history i) key → key ∈ taken pool.state) ∧
      ∀ i j key, registry.Holds (pool.history i) key → registry.Holds (pool.history j) key →
        i = j := by
  induction reachable with
  | start => exact ⟨fun _ _ held => held.elim, fun _ _ _ held => held.elim⟩
  | @step pool i op next outcome state earlier waiting responds ih =>
      obtain ⟨heldTaken, single⟩ := ih
      have whole := (Reachable.step i outcome state earlier waiting responds).reaches i
      simp only [Function.update_self] at whole
      have released {key : Key} (gone : registry.releases ⟨op, outcome⟩ = some key) :
          registry.Holds (pool.history i) key := (careful i).holds registry whole gone
      -- A member other than the acting one keeps what it held.
      have others {j : I} (different : j ≠ i) {key : Key}
          (held : registry.Holds (pool.history j) key) : key ∈ taken state := by
        apply wins.keeps responds (heldTaken j key held)
        intro gone
        exact different (single j i key held (released gone))
      have acting {key : Key}
          (held : registry.Holds (pool.history i ++ [⟨op, outcome⟩]) key) :
          key ∈ taken state ∧ ∀ j, j ≠ i → ¬registry.Holds (pool.history j) key := by
        obtain claimed | ⟨held, kept⟩ := (registry.holds_append _ _ _).mp held
        · obtain ⟨free, now⟩ := wins.fresh responds claimed
          exact ⟨now, fun j _ other => free (heldTaken j key other)⟩
        · exact ⟨wins.keeps responds (heldTaken i key held) kept,
            fun j different other => different (single j i key other held)⟩
      constructor
      · intro j key held
        by_cases same : j = i
        · subst same
          simp only [Function.update_self] at held
          exact (acting held).1
        · simp only [Function.update_of_ne same] at held
          exact others same held
      · intro j k key first second
        by_cases firstActs : j = i
        · subst firstActs
          simp only [Function.update_self] at first
          by_contra different
          simp only [Function.update_of_ne (Ne.symm different)] at second
          exact (acting first).2 k (Ne.symm different) second
        · simp only [Function.update_of_ne firstActs] at first
          by_cases secondActs : k = i
          · subst secondActs
            simp only [Function.update_self] at second
            exact ((acting second).2 j firstActs first).elim
          · simp only [Function.update_of_ne secondActs] at second
            exact single j k key first second

end Registry

end Adjudicate.Effect
