/-
This file models the in-memory buffered sink and proves when it accounts for every record.
-/

import Adjudicate.Sink.Conservation
import Mathlib.Algebra.Order.Group.Multiset
import Mathlib.Tactic.Abel

namespace Adjudicate.Sink

open Js Audit Adjudicate.Effect

/-- The emits are numbered in their order. -/
structure Emission where
  number : Nat
  record : AuditRecord

/-- This is the promise of the inner sink that the running emit awaits. -/
inductive BufferAwaiting where
  | drainEmit (head : Emission)
  | recordEmit

/-- The accepted, the reported and the issued records are observed only. -/
structure BufferState where
  queue : List Emission
  current : Option (Emission × BufferAwaiting)
  waiting : List Emission
  accepted : List Emission
  overflowed : List Emission
  issued : List Emission

namespace BufferState

def settle (state : BufferState) : BufferState := { state with current := none }

def accept (state : BufferState) (emission : Emission) : BufferState :=
  { state with accepted := state.accepted ++ [emission] }

/-- The backlog is emitted first. -/
def drain (state : BufferState) (emission : Emission) : BufferState :=
  match state.queue with
  | [] => { state with current := some (emission, .recordEmit) }
  | head :: _ => { state with current := some (emission, .drainEmit head) }

/-- The push follows whether or not there was something to evict. -/
def enqueue (capacity : WithTop ℚ) (state : BufferState) (emission : Emission) : BufferState :=
  if capacity ≤ (state.queue.length : WithTop ℚ) then
    match state.queue with
    | [] => { state with queue := [emission] }
    | evicted :: rest =>
        { state with queue := rest ++ [emission], overflowed := state.overflowed ++ [evicted] }
  else { state with queue := state.queue ++ [emission] }

def fulfill (state : BufferState) (emission : Emission) : BufferAwaiting → BufferState
  | .drainEmit head => ({ state with queue := state.queue.tail }.accept head).drain emission
  | .recordEmit => (state.accept emission).settle

/-- An emit begins when the one before it has settled. -/
def advance (capacity : WithTop ℚ) (state : BufferState) : SinkEvent → Option BufferState
  | .emit record =>
      let emission : Emission := ⟨state.issued.length, record⟩
      some { state with waiting := state.waiting ++ [emission], issued := state.issued ++ [emission] }
  | .begins =>
      match state.current, state.waiting with
      | none, emission :: waiting => some ({ state with waiting }.drain emission)
      | _, _ => none
  | .fulfilled => state.current.map fun entry => state.fulfill entry.1 entry.2
  | .rejected => state.current.map fun entry => (state.enqueue capacity entry.1).settle

def initial : BufferState where
  queue := []
  current := none
  waiting := []
  accepted := []
  overflowed := []
  issued := []

/-- These emits have not settled. -/
def unsettled (state : BufferState) : List Emission :=
  (state.current.map Prod.fst).toList ++ state.waiting

/-- The running emit awaits its own record only after the backlog. -/
def Awaits (state : BufferState) : BufferAwaiting → Prop
  | .drainEmit head => state.queue.head? = some head
  | .recordEmit => state.queue = []

/-- Every issued record has one place, and the places keep the order of the emits. -/
structure Places (state : BufferState) : Prop where
  placed : (state.accepted ++ state.queue ++ state.overflowed ++ state.unsettled).Perm state.issued
  ordered : (state.accepted ++ state.queue ++ state.unsettled).Pairwise (·.number < ·.number)
  numbered : state.issued.map Emission.number = List.range state.issued.length
  awaits : ∀ emission awaiting, state.current = some (emission, awaiting) → state.Awaits awaiting

theorem places_initial : initial.Places where
  placed := .nil
  ordered := .nil
  numbered := rfl
  awaits := fun _ _ absent => absurd absent (Option.some_ne_none _).symm

/-- The next emit starts as soon as its predecessors have settled. -/
theorem places_drain {state : BufferState} {emission : Emission}
    (placed : (state.accepted ++ state.queue ++ state.overflowed ++ emission :: state.waiting).Perm
      state.issued)
    (ordered : (state.accepted ++ state.queue ++ emission :: state.waiting).Pairwise
      (·.number < ·.number))
    (numbered : state.issued.map Emission.number = List.range state.issued.length) :
    (state.drain emission).Places := by
  unfold drain
  split
  · next empty =>
      refine ⟨placed, ordered, numbered, ?_⟩
      rintro _ _ ⟨⟩
      exact empty
  · next head rest filled =>
      refine ⟨placed, ordered, numbered, ?_⟩
      rintro _ _ ⟨⟩
      exact congrArg List.head? filled

theorem places_enqueue {capacity : WithTop ℚ} {state : BufferState} {emission : Emission}
    (placed : (state.accepted ++ state.queue ++ state.overflowed ++ emission :: state.waiting).Perm
      state.issued)
    (ordered : (state.accepted ++ state.queue ++ emission :: state.waiting).Pairwise
      (·.number < ·.number))
    (numbered : state.issued.map Emission.number = List.range state.issued.length) :
    (state.enqueue capacity emission).settle.Places := by
  have idle : ∀ (other : Emission) (awaiting : BufferAwaiting),
      (none : Option (Emission × BufferAwaiting)) = some (other, awaiting) → False :=
    fun _ _ absent => absurd absent (Option.some_ne_none _).symm
  have pushed : (state.accepted ++ (state.queue ++ [emission]) ++ state.overflowed ++
        state.waiting).Perm state.issued ∧
      (state.accepted ++ (state.queue ++ [emission]) ++ state.waiting).Pairwise
        (·.number < ·.number) := by
    constructor
    · refine .trans ?_ placed
      rw [← Multiset.coe_eq_coe]
      simp only [← Multiset.coe_add, ← Multiset.cons_coe, ← Multiset.singleton_add,
        Multiset.coe_nil, add_zero]
      abel
    · simpa using ordered
  unfold enqueue
  split
  · split
    · next empty =>
        rw [empty] at pushed
        exact ⟨pushed.1, pushed.2, numbered, fun _ _ absent => (idle _ _ absent).elim⟩
    · next evicted rest filled =>
        rw [filled] at pushed
        refine ⟨?_, ?_, numbered, fun _ _ absent => (idle _ _ absent).elim⟩
        · refine .trans ?_ pushed.1
          rw [← Multiset.coe_eq_coe]
          simp only [settle, unsettled, Option.map_none, Option.toList_none, List.nil_append,
            ← Multiset.coe_add, ← Multiset.cons_coe, ← Multiset.singleton_add,
            Multiset.coe_nil, add_zero, List.cons_append]
          abel
        · refine pushed.2.sublist ?_
          simp [settle, unsettled]
  · exact ⟨pushed.1, pushed.2, numbered, fun _ _ absent => (idle _ _ absent).elim⟩

/-- Every event of the sink keeps the places of the records. -/
theorem places_step {capacity : WithTop ℚ} {before after : BufferState} {event : SinkEvent}
    (places : before.Places) (taken : before.advance capacity event = some after) :
    after.Places := by
  have running {emission : Emission} {awaiting : BufferAwaiting}
      (current : before.current = some (emission, awaiting)) :
      before.unsettled = emission :: before.waiting := by
    rw [unsettled, current]
    rfl
  cases event with
  | emit record =>
      obtain rfl := Option.some.inj taken
      let emission : Emission := ⟨before.issued.length, record⟩
      refine ⟨?_, ?_, ?_, places.awaits⟩
      · show (before.accepted ++ before.queue ++ before.overflowed ++
          ((before.current.map Prod.fst).toList ++ (before.waiting ++ [emission]))).Perm _
        rw [← List.append_assoc _ before.waiting, ← List.append_assoc]
        exact places.placed.append_right [emission]
      · show List.Pairwise _ (before.accepted ++ before.queue ++
          ((before.current.map Prod.fst).toList ++ (before.waiting ++ [emission])))
        rw [← List.append_assoc _ before.waiting, ← List.append_assoc, List.pairwise_append]
        refine ⟨places.ordered, List.pairwise_singleton _ _, ?_⟩
        intro earlier member last same
        rw [List.mem_singleton.mp same]
        have known : earlier ∈ before.issued := by
          refine places.placed.mem_iff.mp ?_
          simp only [unsettled, List.mem_append] at member ⊢
          tauto
        have numbered : earlier.number ∈ before.issued.map Emission.number :=
          List.mem_map_of_mem known
        rw [places.numbered] at numbered
        exact List.mem_range.mp numbered
      · show (before.issued ++ [emission]).map Emission.number =
          List.range (before.issued ++ [emission]).length
        rw [List.map_append, places.numbered, List.length_append, List.length_singleton,
          List.range_succ]
        rfl
  | begins =>
      simp only [advance] at taken
      split at taken
      · next emission waiting idle queued =>
          obtain rfl := Option.some.inj taken
          have whole : before.unsettled = emission :: waiting := by
            rw [unsettled, idle, queued]
            rfl
          have placed := places.placed
          have ordered := places.ordered
          rw [whole] at placed ordered
          exact places_drain placed ordered places.numbered
      · cases taken
  | fulfilled =>
      obtain ⟨⟨emission, awaiting⟩, current, rfl⟩ := Option.map_eq_some_iff.mp taken
      have placed := places.placed
      have ordered := places.ordered
      rw [running current] at placed ordered
      have awaits := places.awaits emission awaiting current
      cases awaiting with
      | drainEmit head =>
          obtain ⟨rest, filled⟩ := List.head?_eq_some_iff.mp awaits
          rw [filled] at placed ordered
          refine places_drain ?_ ?_ places.numbered
          · simpa [accept, filled] using placed
          · simpa [accept, filled] using ordered
      | recordEmit =>
          have empty : before.queue = [] := awaits
          rw [empty] at placed ordered
          refine ⟨?_, ?_, places.numbered, fun _ _ absent => absurd absent (Option.some_ne_none _).symm⟩
          · show (before.accepted ++ [emission] ++ before.queue ++ before.overflowed ++
              before.waiting).Perm before.issued
            refine .trans ?_ placed
            rw [empty, ← Multiset.coe_eq_coe]
            simp only [← Multiset.coe_add, ← Multiset.cons_coe, ← Multiset.singleton_add,
              Multiset.coe_nil, add_zero]
            abel
          · show List.Pairwise _ (before.accepted ++ [emission] ++ before.queue ++ before.waiting)
            rw [empty]
            simpa using ordered
  | rejected =>
      obtain ⟨⟨emission, awaiting⟩, current, rfl⟩ := Option.map_eq_some_iff.mp taken
      have placed := places.placed
      have ordered := places.ordered
      rw [running current] at placed ordered
      exact places_enqueue placed ordered places.numbered

theorem drain_queue (state : BufferState) (emission : Emission) :
    (state.drain emission).queue = state.queue := by
  unfold drain
  split <;> rfl

/-- The queue stays within a whole capacity. -/
theorem bounded_step {capacity : WithTop ℚ} (whole : WholeCapacity capacity)
    {before after : BufferState} {event : SinkEvent}
    (bounded : (before.queue.length : WithTop ℚ) ≤ capacity)
    (taken : before.advance capacity event = some after) :
    (after.queue.length : WithTop ℚ) ≤ capacity := by
  cases event with
  | emit record =>
      obtain rfl := Option.some.inj taken
      exact bounded
  | begins =>
      simp only [advance] at taken
      split at taken
      · obtain rfl := Option.some.inj taken
        rw [drain_queue]
        exact bounded
      · cases taken
  | fulfilled =>
      obtain ⟨⟨emission, awaiting⟩, -, rfl⟩ := Option.map_eq_some_iff.mp taken
      cases awaiting with
      | drainEmit head =>
          rw [fulfill, drain_queue, accept]
          refine le_trans (Nat.cast_le.mpr ?_) bounded
          rw [List.length_tail]
          exact Nat.sub_le _ _
      | recordEmit => exact bounded
  | rejected =>
      obtain ⟨⟨emission, awaiting⟩, -, rfl⟩ := Option.map_eq_some_iff.mp taken
      show ((before.enqueue capacity emission).queue.length : WithTop ℚ) ≤ capacity
      unfold enqueue
      split
      · split
        · exact whole.one_le
        · next evicted rest filled =>
            rw [filled] at bounded
            rw [List.length_append]
            exact bounded
      · next room =>
          rw [List.length_append]
          exact whole.room (not_le.mp room)

end BufferState

/-- This is a step of the sink, with or without a failure of the inner one. -/
def BufferStep (capacity : WithTop ℚ) (before : BufferState) (event : SinkEvent)
    (after : BufferState) : Prop :=
  before.advance capacity event = some after

/-- Once every emit has settled, each record is accepted, queued or reported, and only once. -/
structure Accounted (capacity : WithTop ℚ) (state : BufferState) : Prop where
  quiescent : state.current = none → state.waiting = [] → ∀ emission ∈ state.issued,
    ((state.accepted ++ state.queue ++ state.overflowed).map Emission.number).count
      emission.number = 1
  genuine : ∀ emission ∈ state.accepted ++ state.queue ++ state.overflowed,
    emission ∈ state.issued
  bounded : (state.queue.length : WithTop ℚ) ≤ capacity
  ordered : state.accepted.Pairwise (·.number < ·.number)

namespace BufferState

theorem enqueue_waiting {capacity : WithTop ℚ} {state : BufferState} (emission : Emission) :
    (state.enqueue capacity emission).waiting = state.waiting := by
  unfold enqueue
  split
  · split <;> rfl
  · rfl

/-- The queue grows unless a record is evicted. -/
theorem enqueue_longer {capacity : WithTop ℚ} {state : BufferState} (emission : Emission)
    (kept : (state.queue.length : WithTop ℚ) < capacity ∨ state.queue = []) :
    (state.enqueue capacity emission).queue.length = state.queue.length + 1 := by
  unfold enqueue
  split
  · next full =>
      have empty := kept.resolve_left (not_lt.mpr full)
      rw [empty]
      rfl
  · exact List.length_append

/-- A failing emit lengthens the queue of an idle sink unless it evicts a record. -/
theorem exists_longer {capacity : WithTop ℚ} {events : List SinkEvent} {state : BufferState}
    (record : AuditRecord) (run : Run (BufferStep capacity) initial events state)
    (idle : state.current = none) (settled : state.waiting = [])
    (kept : (state.queue.length : WithTop ℚ) < capacity ∨ state.queue = []) :
    ∃ longer after, Run (BufferStep capacity) initial longer after ∧ after.current = none ∧
      after.waiting = [] ∧ after.queue.length = state.queue.length + 1 := by
  let emission : Emission := ⟨state.issued.length, record⟩
  let issued : BufferState := { state with waiting := [], issued := state.issued ++ [emission] }
  obtain ⟨awaiting, started⟩ : ∃ awaiting,
      issued.drain emission = { issued with current := some (emission, awaiting) } := by
    unfold drain
    split
    · exact ⟨_, rfl⟩
    · exact ⟨_, rfl⟩
  have issue : BufferStep capacity state (.emit record) { issued with waiting := [emission] } := by
    simp only [BufferStep, advance, settled, issued, List.nil_append, emission]
  have begin : BufferStep capacity { issued with waiting := [emission] } .begins
      (issued.drain emission) := by
    simp only [BufferStep, advance, issued, idle]
  rw [started] at begin
  have reject : BufferStep capacity { issued with current := some (emission, awaiting) } .rejected
      (({ issued with current := some (emission, awaiting) } : BufferState).enqueue capacity
        emission).settle := rfl
  refine ⟨_, _, ((run.step issue).step begin).step reject, rfl, enqueue_waiting _, ?_⟩
  exact enqueue_longer emission kept

/-- Failing emits fill the queue up to every length whose predecessors fit below the capacity. -/
theorem exists_length {capacity : WithTop ℚ} (record : AuditRecord) (length : ℕ)
    (below : ∀ shorter < length, shorter ≠ 0 → (shorter : WithTop ℚ) < capacity) :
    ∃ events state, Run (BufferStep capacity) initial events state ∧ state.current = none ∧
      state.waiting = [] ∧ state.queue.length = length := by
  induction length with
  | zero => exact ⟨[], initial, .start, rfl, rfl, rfl⟩
  | succ length ih =>
      obtain ⟨events, state, run, idle, settled, same⟩ := ih fun shorter less =>
        below shorter (less.trans (Nat.lt_succ_self _))
      have kept : (state.queue.length : WithTop ℚ) < capacity ∨ state.queue = [] := by
        rcases Nat.eq_zero_or_pos length with rfl | positive
        · exact .inr (List.length_eq_zero_iff.mp same)
        · exact .inl (same ▸ below length (Nat.lt_succ_self _) positive.ne')
      obtain ⟨longer, after, further, idle, settled, grown⟩ :=
        exists_longer record run idle settled kept
      exact ⟨longer, after, further, idle, settled, grown.trans (congrArg _ same)⟩

/-- The places of the records account for them once every emit has settled. -/
theorem Places.accounted {capacity : WithTop ℚ} {state : BufferState} (places : state.Places)
    (bounded : (state.queue.length : WithTop ℚ) ≤ capacity) : Accounted capacity state where
  quiescent := by
    intro idle settled emission issued
    have placed := places.placed
    have none : state.unsettled = [] := by
      rw [unsettled, idle, settled]
      rfl
    rw [none, List.append_nil] at placed
    rw [(placed.map Emission.number).count_eq, places.numbered]
    refine List.count_eq_one_of_mem List.nodup_range ?_
    rw [← places.numbered]
    exact List.mem_map_of_mem issued
  genuine := fun emission member =>
    places.placed.mem_iff.mp (List.mem_append_left _ member)
  bounded := bounded
  ordered := by
    have ordered := places.ordered
    rw [List.append_assoc, List.pairwise_append] at ordered
    exact ordered.1

end BufferState

/-- The sink accounts for its records in every run exactly with a whole capacity. -/
theorem accounted_iff (capacity : WithTop ℚ) :
    (∀ events state, Run (BufferStep capacity) BufferState.initial events state →
      Accounted capacity state) ↔ WholeCapacity capacity := by
  constructor
  · intro accounted
    have filled (length : ℕ) (below : ∀ shorter < length, shorter ≠ 0 →
        (shorter : WithTop ℚ) < capacity) : (length : WithTop ℚ) ≤ capacity := by
      obtain ⟨events, state, run, -, -, rfl⟩ :=
        BufferState.exists_length (linkedRecord [] [] none) length below
      exact (accounted events state run).bounded
    refine wholeCapacity_of_room (filled 1 fun shorter less positive => ?_) ?_
    · exact absurd (Nat.lt_one_iff.mp less) positive
    · intro length room
      refine filled (length + 1) ?_
      intro shorter less _
      exact lt_of_le_of_lt (Nat.cast_le.mpr (Nat.lt_succ_iff.mp less)) room
  · intro whole events state run
    have places : state.Places :=
      run.keeps BufferState.places_initial fun _ _ _ places step => BufferState.places_step places step
    refine places.accounted (run.keeps ?_ fun _ _ _ bounded step =>
      BufferState.bounded_step whole bounded step)
    exact le_trans (Nat.cast_le.mpr (Nat.zero_le 1)) whole.one_le

/-- A queue without room holds the record of the first failing emit. -/
theorem noCapacity_overfull :
    ¬ ∀ events state, Run (BufferStep 0) BufferState.initial events state → Accounted 0 state := by
  intro accounted
  obtain ⟨events, state, run, -, -, length⟩ :=
    @BufferState.exists_length 0 (linkedRecord "h" "1" none) 1
      fun shorter less positive => absurd (Nat.lt_one_iff.mp less) positive
  have bounded := (accounted events state run).bounded
  rw [length, Nat.cast_one] at bounded
  exact absurd bounded (not_le.mpr zero_lt_one)

end Adjudicate.Sink
