/-
This file proves when the persistent buffered sink loses no record and keeps their order.
-/

import Adjudicate.Sink.PersistentBuffered
import Mathlib.Algebra.Order.Floor.Semiring

namespace Adjudicate.Sink

open Js Audit Adjudicate.Effect

/-- The storage keeps what it is given, and its acks succeed. -/
def SpillSucceeds (options : PersistentBufferedSinkOptions) (state : SinkState) : SinkEvent → Prop
  | .rejected => ∀ record awaiting, state.current = some (record, awaiting) →
      (∀ head rest, awaiting ≠ .drainAck head rest) ∧ ∀ evicted, awaiting ≠ .spillAppend evicted
  | .fulfilled => ∀ record evicted, state.current = some (record, .spillAppend evicted) →
      options.maxSize.any (· ≤ state.storage.store.length) = false
  | _ => True

/-- This is a step of the sink over a storage that succeeds. -/
def SinkStep (options : PersistentBufferedSinkOptions) (before : SinkState) (event : SinkEvent)
    (after : SinkState) : Prop :=
  SpillSucceeds options before event ∧ before.advance options event = some after

namespace SinkState

def held (state : SinkState) : List AuditRecord :=
  state.storage.store.map StorageEntry.record ++ state.memQueue

/-- A record leaves its place when the promise that moves it is created. -/
def Placed (state : SinkState) (record : AuditRecord) : Awaiting → Prop
  | .drainEmit head rest => state.storage.store = head :: rest ∧
      state.accepted ++ state.held ++ record :: state.waiting = state.issued
  | .drainAck head rest => state.storage.store = head :: rest ∧
      state.accepted ++ (rest.map StorageEntry.record ++ state.memQueue) ++ record :: state.waiting =
        state.issued
  | .memoryEmit head => state.storage.store = [] ∧ state.memQueue.head? = some head ∧
      state.accepted ++ state.memQueue ++ record :: state.waiting = state.issued
  | .recordEmit => state.storage.store = [] ∧ state.memQueue = [] ∧
      state.accepted ++ record :: state.waiting = state.issued
  | .spillAppend evicted =>
      state.accepted ++ (state.storage.store.map StorageEntry.record ++ evicted :: state.memQueue) ++
        record :: state.waiting = state.issued

/-- Every issued record is accepted, held, awaited or waiting, in this order. -/
structure Conserved (state : SinkState) : Prop where
  numbered : (state.storage.store.map StorageEntry.seqId).Nodup
  fresh : ∀ entry ∈ state.storage.store, entry.seqId < state.storage.nextSeq
  idle : state.current = none → state.accepted ++ state.held ++ state.waiting = state.issued
  running : ∀ record awaiting, state.current = some (record, awaiting) → state.Placed record awaiting

theorem conserved_initial : initial.Conserved where
  numbered := List.nodup_nil
  fresh := fun _ member => absurd member List.not_mem_nil
  idle := fun _ => rfl
  running := fun _ _ absent => absurd absent (Option.some_ne_none _).symm

/-- The numbered storage without records of a running emit. -/
theorem conserved_settle {state : SinkState} {record : AuditRecord} {resolved : Bool}
    (numbered : (state.storage.store.map StorageEntry.seqId).Nodup)
    (fresh : ∀ entry ∈ state.storage.store, entry.seqId < state.storage.nextSeq)
    (idle : state.accepted ++ state.held ++ state.waiting = state.issued) :
    (state.settle record resolved).Conserved where
  numbered := numbered
  fresh := fresh
  idle := fun _ => idle
  running := fun _ _ absent => absurd absent (Option.some_ne_none _).symm

theorem conserved_await {state : SinkState} {record : AuditRecord} {awaiting : Awaiting}
    (numbered : (state.storage.store.map StorageEntry.seqId).Nodup)
    (fresh : ∀ entry ∈ state.storage.store, entry.seqId < state.storage.nextSeq)
    (placed : state.Placed record awaiting) : (state.await record awaiting).Conserved where
  numbered := numbered
  fresh := fresh
  idle := fun absent => absurd absent (Option.some_ne_none _)
  running := by
    rintro other next same
    obtain ⟨rfl, rfl⟩ := Prod.mk.inj (Option.some.inj same)
    cases awaiting <;> exact placed

theorem conserved_drainMemory {state : SinkState} {record : AuditRecord}
    (drained : state.storage.store = [])
    (whole : state.accepted ++ state.memQueue ++ record :: state.waiting = state.issued) :
    (state.drainMemory record).Conserved := by
  have numbered : (state.storage.store.map StorageEntry.seqId).Nodup := by
    rw [drained]
    exact List.nodup_nil
  have fresh : ∀ entry ∈ state.storage.store, entry.seqId < state.storage.nextSeq := by
    rw [drained]
    exact fun _ member => absurd member List.not_mem_nil
  unfold drainMemory
  split
  · next empty =>
      rw [empty, List.append_nil] at whole
      exact conserved_await numbered fresh ⟨drained, empty, whole⟩
  · next head rest queue =>
      exact conserved_await numbered fresh ⟨drained, by rw [queue]; rfl, whole⟩

theorem conserved_drainStorage {state : SinkState} {record : AuditRecord} {rest : List StorageEntry}
    (numbered : (state.storage.store.map StorageEntry.seqId).Nodup)
    (fresh : ∀ entry ∈ state.storage.store, entry.seqId < state.storage.nextSeq)
    (snapshot : state.storage.store = rest)
    (whole : state.accepted ++ state.held ++ record :: state.waiting = state.issued) :
    (state.drainStorage record rest).Conserved := by
  cases rest with
  | nil =>
      rw [held, snapshot] at whole
      exact conserved_drainMemory snapshot whole
  | cons head rest => exact conserved_await numbered fresh ⟨snapshot, whole⟩

theorem conserved_bufferOrSpill {options : PersistentBufferedSinkOptions} {state : SinkState}
    {record : AuditRecord} (numbered : (state.storage.store.map StorageEntry.seqId).Nodup)
    (fresh : ∀ entry ∈ state.storage.store, entry.seqId < state.storage.nextSeq)
    (whole : state.accepted ++ state.held ++ record :: state.waiting = state.issued) :
    (state.bufferOrSpill options record).Conserved := by
  unfold bufferOrSpill
  split
  · refine conserved_settle numbered fresh ?_
    rw [← whole]
    simp [held]
  · split
    · next empty =>
        refine conserved_settle numbered fresh ?_
        rw [← whole]
        simp [held, empty]
    · next evicted rest queue =>
        refine conserved_await numbered fresh ?_
        rw [held, queue] at whole
        exact whole

theorem filter_ack {head : StorageEntry} {rest : List StorageEntry}
    (numbered : ((head :: rest).map StorageEntry.seqId).Nodup) :
    (head :: rest).filter (fun other => other.seqId ≠ head.seqId) = rest := by
  rw [List.map_cons, List.nodup_cons] at numbered
  rw [List.filter_cons_of_neg (by simp), List.filter_eq_self]
  intro entry member
  rw [decide_eq_true_iff]
  intro same
  exact numbered.1 (same ▸ List.mem_map_of_mem member)

theorem conserved_fulfill {options : PersistentBufferedSinkOptions} {state : SinkState}
    {record : AuditRecord} {awaiting : Awaiting} (conserved : state.Conserved)
    (current : state.current = some (record, awaiting))
    (succeeds : SpillSucceeds options state .fulfilled) :
    (state.fulfill options record awaiting).Conserved := by
  have placed := conserved.running record awaiting current
  cases awaiting with
  | drainEmit head rest =>
      obtain ⟨snapshot, whole⟩ := placed
      refine conserved_await conserved.numbered conserved.fresh ⟨snapshot, ?_⟩
      rw [held, snapshot] at whole
      rw [accept, ← whole]
      simp
  | drainAck head rest =>
      obtain ⟨snapshot, whole⟩ := placed
      have numbered := conserved.numbered
      have fresh := conserved.fresh
      rw [snapshot] at numbered fresh
      have left : (state.storage.ack head).store = rest := by
        rw [SpillStorage.ack, snapshot]
        exact filter_ack numbered
      refine conserved_drainStorage ?_ ?_ left ?_
      · change ((state.storage.ack head).store.map StorageEntry.seqId).Nodup
        rw [left]
        exact (List.nodup_cons.mp numbered).2
      · change ∀ entry ∈ (state.storage.ack head).store, entry.seqId < state.storage.nextSeq
        rw [left]
        exact fun entry member => fresh entry (List.mem_cons_of_mem _ member)
      · change state.accepted ++ ((state.storage.ack head).store.map StorageEntry.record ++
          state.memQueue) ++ record :: state.waiting = state.issued
        rw [left]
        exact whole
  | memoryEmit head =>
      obtain ⟨drained, first, whole⟩ := placed
      refine conserved_drainMemory drained ?_
      obtain ⟨rest, queue⟩ := List.head?_eq_some_iff.mp first
      rw [queue] at whole
      simp only [accept, queue, List.tail_cons]
      rw [← whole]
      simp
  | recordEmit =>
      obtain ⟨drained, empty, whole⟩ := placed
      refine conserved_settle conserved.numbered conserved.fresh ?_
      simp only [accept, held, drained, empty]
      rw [← whole]
      simp
  | spillAppend evicted =>
      have room := succeeds record evicted current
      have kept : (state.storage.append options.maxSize evicted).store =
          state.storage.store ++ [{ seqId := state.storage.nextSeq, record := evicted }] := by
        rw [SpillStorage.append, room]
        rfl
      refine conserved_settle ?_ ?_ ?_
      · change ((state.storage.append options.maxSize evicted).store.map StorageEntry.seqId).Nodup
        rw [kept, List.map_append, List.nodup_append]
        refine ⟨conserved.numbered, List.nodup_singleton _, ?_⟩
        intro number member other last
        obtain ⟨entry, known, rfl⟩ := List.mem_map.mp member
        rw [List.mem_singleton.mp last]
        exact (conserved.fresh entry known).ne
      · change ∀ entry ∈ (state.storage.append options.maxSize evicted).store,
          entry.seqId < state.storage.nextSeq + 1
        rw [kept]
        intro entry member
        rcases List.mem_append.mp member with known | last
        · exact (conserved.fresh entry known).trans (Nat.lt_succ_self _)
        · rw [List.mem_singleton.mp last]
          exact Nat.lt_succ_self _
      · change state.accepted ++ ((state.storage.append options.maxSize evicted).store.map
          StorageEntry.record ++ (state.memQueue ++ [record])) ++ state.waiting = state.issued
        rw [kept, ← placed]
        simp

/-- A rejected emit of the inner sink leaves every record in its place. -/
theorem conserved_reject {options : PersistentBufferedSinkOptions} {state : SinkState}
    {record : AuditRecord} {awaiting : Awaiting} (conserved : state.Conserved)
    (current : state.current = some (record, awaiting))
    (succeeds : SpillSucceeds options state .rejected) :
    (state.reject options record awaiting).Conserved := by
  have placed := conserved.running record awaiting current
  obtain ⟨acked, appended⟩ := succeeds record awaiting current
  have whole : state.accepted ++ state.held ++ record :: state.waiting = state.issued := by
    cases awaiting with
    | drainEmit head rest => exact placed.2
    | drainAck head rest => exact absurd rfl (acked head rest)
    | memoryEmit head =>
        rw [held, placed.1]
        exact placed.2.2
    | recordEmit =>
        rw [held, placed.1, placed.2.1, List.map_nil, List.append_nil, List.append_nil]
        exact placed.2.2
    | spillAppend evicted => exact absurd rfl (appended evicted)
  have buffered := @conserved_bufferOrSpill options _ _ conserved.numbered conserved.fresh whole
  cases awaiting with
  | spillAppend evicted => exact absurd rfl (appended evicted)
  | drainEmit => exact buffered
  | drainAck => exact buffered
  | memoryEmit => exact buffered
  | recordEmit => exact buffered

theorem placed_emit {state : SinkState} {record issued : AuditRecord} {awaiting : Awaiting}
    (placed : state.Placed record awaiting) :
    { state with
      waiting := state.waiting ++ [issued]
      issued := state.issued ++ [issued] }.Placed record awaiting := by
  have behind {front : List AuditRecord} (whole : front ++ record :: state.waiting = state.issued) :
      front ++ record :: (state.waiting ++ [issued]) = state.issued ++ [issued] := by
    rw [← whole]
    simp
  cases awaiting with
  | drainEmit head rest => exact ⟨placed.1, behind placed.2⟩
  | drainAck head rest => exact ⟨placed.1, behind placed.2⟩
  | memoryEmit head => exact ⟨placed.1, placed.2.1, behind placed.2.2⟩
  | recordEmit => exact ⟨placed.1, placed.2.1, behind placed.2.2⟩
  | spillAppend evicted => exact behind placed

theorem conserved_step {options : PersistentBufferedSinkOptions} {before after : SinkState}
    {event : SinkEvent} (conserved : before.Conserved) (step : SinkStep options before event after) :
    after.Conserved := by
  obtain ⟨succeeds, taken⟩ := step
  cases event with
  | emit record =>
      obtain rfl := Option.some.inj taken
      refine ⟨conserved.numbered, conserved.fresh, ?_, ?_⟩
      · intro idle
        rw [← conserved.idle idle]
        simp [held]
      · intro other awaiting current
        exact placed_emit (conserved.running other awaiting current)
  | begins =>
      simp only [advance] at taken
      split at taken
      · next record waiting idle queue =>
          obtain rfl := Option.some.inj taken
          have whole := conserved.idle idle
          rw [queue] at whole
          exact conserved_drainStorage conserved.numbered conserved.fresh rfl whole
      · cases taken
  | fulfilled =>
      obtain ⟨⟨record, awaiting⟩, current, rfl⟩ := Option.map_eq_some_iff.mp taken
      exact conserved_fulfill conserved current succeeds
  | rejected =>
      obtain ⟨⟨record, awaiting⟩, current, rfl⟩ := Option.map_eq_some_iff.mp taken
      exact conserved_reject conserved current succeeds

/-- The inner sink has accepted the records that were issued first. -/
theorem accepted_prefix {state : SinkState} (conserved : state.Conserved) :
    state.accepted <+: state.issued := by
  cases current : state.current with
  | none =>
      rw [← conserved.idle current, List.append_assoc]
      exact List.prefix_append _ _
  | some entry =>
      obtain ⟨record, awaiting⟩ := entry
      have placed := conserved.running record awaiting current
      cases awaiting with
      | drainEmit head rest =>
          rw [← placed.2, List.append_assoc]
          exact List.prefix_append _ _
      | drainAck head rest =>
          rw [← placed.2, List.append_assoc]
          exact List.prefix_append _ _
      | memoryEmit head =>
          rw [← placed.2.2, List.append_assoc]
          exact List.prefix_append _ _
      | recordEmit =>
          rw [← placed.2.2]
          exact List.prefix_append _ _
      | spillAppend evicted =>
          rw [← placed, List.append_assoc]
          exact List.prefix_append _ _

/-- The memory queue fits, with room for the record of an emit that is spilling. -/
def Fits (options : PersistentBufferedSinkOptions) (state : SinkState) : Prop :=
  (state.memQueue.length : WithTop ℚ) ≤ options.capacity ∧
    ∀ record evicted, state.current = some (record, .spillAppend evicted) →
      ((state.memQueue.length + 1 : ℕ) : WithTop ℚ) ≤ options.capacity

end SinkState

/-- The capacity is infinite or a whole number from one on. -/
def WholeCapacity (capacity : WithTop ℚ) : Prop :=
  capacity = ⊤ ∨ ∃ whole : ℕ, 1 ≤ whole ∧ capacity = (whole : WithTop ℚ)

theorem WholeCapacity.room {capacity : WithTop ℚ} (whole : WholeCapacity capacity) {length : ℕ}
    (below : (length : WithTop ℚ) < capacity) : ((length + 1 : ℕ) : WithTop ℚ) ≤ capacity := by
  rcases whole with rfl | ⟨bound, -, rfl⟩
  · exact le_top
  · rw [Nat.cast_lt] at below
    exact Nat.cast_le.mpr below

theorem WholeCapacity.one_le {capacity : WithTop ℚ} (whole : WholeCapacity capacity) :
    ((1 : ℕ) : WithTop ℚ) ≤ capacity := by
  rcases whole with rfl | ⟨bound, positive, rfl⟩
  · exact le_top
  · exact Nat.cast_le.mpr positive

/-- A capacity that every reachable length respects is infinite or a whole number. -/
theorem wholeCapacity_of_room {capacity : WithTop ℚ} (one : ((1 : ℕ) : WithTop ℚ) ≤ capacity)
    (room : ∀ length : ℕ, (length : WithTop ℚ) < capacity →
      ((length + 1 : ℕ) : WithTop ℚ) ≤ capacity) : WholeCapacity capacity := by
  cases capacity with
  | top => exact Or.inl rfl
  | coe bound =>
      right
      have cast (length : ℕ) : (length : WithTop ℚ) = ((length : ℚ) : WithTop ℚ) := rfl
      simp only [cast, WithTop.coe_le_coe, WithTop.coe_lt_coe] at one room
      have positive : (0 : ℚ) ≤ bound := le_trans zero_le_one (by exact_mod_cast one)
      refine ⟨⌊bound⌋₊, ?_, ?_⟩
      · exact Nat.le_floor one
      · rcases (Nat.floor_le positive).lt_or_eq with below | same
        · have above := room _ below
          have short := Nat.lt_floor_add_one bound
          push_cast at above
          exact absurd above (not_le.mpr short)
        · rw [cast, same]

namespace SinkState

variable {options : PersistentBufferedSinkOptions} {state : SinkState} {record : AuditRecord}

theorem drainMemory_settled (state : SinkState) (record : AuditRecord) :
    (state.drainMemory record).settled = state.settled := by
  unfold drainMemory
  split <;> rfl

theorem drainStorage_settled (state : SinkState) (record : AuditRecord) (rest : List StorageEntry) :
    (state.drainStorage record rest).settled = state.settled := by
  cases rest with
  | nil => exact drainMemory_settled state record
  | cons => rfl

theorem bufferOrSpill_settled (options : PersistentBufferedSinkOptions) (state : SinkState)
    (record : AuditRecord) :
    (state.bufferOrSpill options record).settled = state.settled ∨
      (state.bufferOrSpill options record).settled = state.settled ++ [(record, false)] := by
  unfold bufferOrSpill
  split
  · exact Or.inr rfl
  · split
    · exact Or.inr rfl
    · exact Or.inl rfl

/-- An emit resolves only when its own record has been accepted after both queues were drained. -/
theorem held_of_resolved {before after : SinkState} {event : SinkEvent}
    (conserved : before.Conserved) (taken : before.advance options event = some after)
    (resolves : after.settled = before.settled ++ [(record, true)]) : after.held = [] := by
  have unsettled (same : after.settled = before.settled) : False := by
    rw [same] at resolves
    exact absurd resolves (by simp)
  have unresolved {other : AuditRecord} (same : after.settled = before.settled ++ [(other, false)]) :
      False := by
    rw [same, List.append_cancel_left_eq] at resolves
    cases resolves
  cases event with
  | emit issued =>
      obtain rfl := Option.some.inj taken
      exact (unsettled rfl).elim
  | begins =>
      simp only [advance] at taken
      split at taken
      · obtain rfl := Option.some.inj taken
        exact (unsettled (drainStorage_settled _ _ _)).elim
      · cases taken
  | fulfilled =>
      obtain ⟨⟨own, awaiting⟩, current, rfl⟩ := Option.map_eq_some_iff.mp taken
      cases awaiting with
      | drainEmit head rest => exact (unsettled rfl).elim
      | drainAck head rest => exact (unsettled (drainStorage_settled _ _ _)).elim
      | memoryEmit head => exact (unsettled (drainMemory_settled _ _)).elim
      | recordEmit =>
          obtain ⟨drained, empty, -⟩ := conserved.running own .recordEmit current
          simp only [held, fulfill, settle, accept, drained, empty]
          rfl
      | spillAppend evicted => exact (unresolved rfl).elim
  | rejected =>
      obtain ⟨⟨own, awaiting⟩, current, rfl⟩ := Option.map_eq_some_iff.mp taken
      have buffered := bufferOrSpill_settled options before own
      cases awaiting with
      | spillAppend evicted => exact (unresolved rfl).elim
      | drainEmit | drainAck | memoryEmit | recordEmit =>
          rcases buffered with same | failed
          · exact (unsettled same).elim
          · exact (unresolved failed).elim

theorem fits_drainMemory (bounded : (state.memQueue.length : WithTop ℚ) ≤ options.capacity) :
    (state.drainMemory record).Fits options := by
  unfold drainMemory
  split
  all_goals exact ⟨bounded, fun _ _ same => by cases same⟩

theorem fits_drainStorage (bounded : (state.memQueue.length : WithTop ℚ) ≤ options.capacity)
    (rest : List StorageEntry) : (state.drainStorage record rest).Fits options := by
  cases rest with
  | nil => exact fits_drainMemory bounded
  | cons head rest => exact ⟨bounded, fun _ _ same => by cases same⟩

theorem fits_bufferOrSpill (whole : WholeCapacity options.capacity)
    (bounded : (state.memQueue.length : WithTop ℚ) ≤ options.capacity) :
    (state.bufferOrSpill options record).Fits options := by
  unfold bufferOrSpill
  split
  · next room =>
      refine ⟨?_, fun _ _ absent => absurd absent (Option.some_ne_none _).symm⟩
      simp only [settle, List.length_append, List.length_singleton]
      exact whole.room room
  · split
    · exact ⟨whole.one_le, fun _ _ absent => absurd absent (Option.some_ne_none _).symm⟩
    · next evicted rest queue =>
        rw [queue, List.length_cons] at bounded
        refine ⟨?_, fun _ _ _ => bounded⟩
        exact le_trans (Nat.cast_le.mpr (Nat.le_succ _)) bounded

/-- The queue stays within a whole capacity. -/
theorem fits_step (whole : WholeCapacity options.capacity) {before after : SinkState}
    {event : SinkEvent} (fits : before.Fits options)
    (taken : before.advance options event = some after) : after.Fits options := by
  cases event with
  | emit issued =>
      obtain rfl := Option.some.inj taken
      exact fits
  | begins =>
      simp only [advance] at taken
      split at taken
      · obtain rfl := Option.some.inj taken
        refine fits_drainStorage ?_ _
        exact fits.1
      · cases taken
  | fulfilled =>
      obtain ⟨⟨own, awaiting⟩, current, rfl⟩ := Option.map_eq_some_iff.mp taken
      cases awaiting with
      | drainEmit head rest => exact ⟨fits.1, fun _ _ same => by cases same⟩
      | drainAck head rest =>
          refine fits_drainStorage ?_ rest
          exact fits.1
      | memoryEmit head =>
          refine fits_drainMemory (le_trans (Nat.cast_le.mpr ?_) fits.1)
          simp only [accept, List.length_tail]
          exact Nat.sub_le _ _
      | recordEmit => exact ⟨fits.1, fun _ _ absent => absurd absent (Option.some_ne_none _).symm⟩
      | spillAppend evicted =>
          refine ⟨?_, fun _ _ absent => absurd absent (Option.some_ne_none _).symm⟩
          simp only [fulfill, settle, List.length_append, List.length_singleton]
          exact fits.2 own evicted current
  | rejected =>
      obtain ⟨⟨own, awaiting⟩, current, rfl⟩ := Option.map_eq_some_iff.mp taken
      cases awaiting with
      | spillAppend evicted =>
          refine ⟨?_, fun _ _ absent => absurd absent (Option.some_ne_none _).symm⟩
          simp only [reject, settle, List.length_append, List.length_singleton]
          exact fits.2 own evicted current
      | drainEmit | drainAck | memoryEmit | recordEmit => exact fits_bufferOrSpill whole fits.1

end SinkState

/-- The sink has lost nothing, keeps the order of the emits and its queue fits. -/
structure Lossless (options : PersistentBufferedSinkOptions) (state : SinkState) : Prop where
  quiescent : state.current = none → state.waiting = [] →
    state.accepted ++ (state.storage.store.map StorageEntry.record ++ state.memQueue) = state.issued
  bounded : (state.memQueue.length : WithTop ℚ) ≤ options.capacity
  ordered : state.accepted <+: state.issued
  resolved : ∀ event after record, SinkStep options state event after →
    after.settled = state.settled ++ [(record, true)] →
      after.storage.store = [] ∧ after.memQueue = []

/-- The sink is idle and nothing has spilled. -/
structure Unspilled (state : SinkState) : Prop where
  idle : state.current = none
  settled : state.waiting = []
  unspilled : state.storage.store = []

/-- Without spilled records an emit starts with the memory queue or with its own record. -/
theorem drainMemory_awaits (state : SinkState) (record : AuditRecord) :
    ∃ awaiting, state.drainMemory record = state.await record awaiting ∧
      (awaiting = .recordEmit ∨ ∃ head, awaiting = .memoryEmit head) := by
  unfold SinkState.drainMemory
  split
  · exact ⟨_, rfl, Or.inl rfl⟩
  · exact ⟨_, rfl, Or.inr ⟨_, rfl⟩⟩

/-- A failing emit on an idle sink lengthens its queue as long as nothing is evicted. -/
theorem failing_emit {options : PersistentBufferedSinkOptions} {events : List SinkEvent}
    {state : SinkState} (record : AuditRecord)
    (run : Run (SinkStep options) SinkState.initial events state) (quiet : Unspilled state)
    (kept : (state.memQueue.length : WithTop ℚ) < options.capacity ∨ state.memQueue = []) :
    ∃ longer after, Run (SinkStep options) SinkState.initial longer after ∧ Unspilled after ∧
      after.memQueue.length = state.memQueue.length + 1 := by
  let issued : SinkState := { state with waiting := [], issued := state.issued ++ [record] }
  obtain ⟨awaiting, started, moves⟩ := drainMemory_awaits issued record
  have issue : SinkStep options state (.emit record) { issued with waiting := [record] } := by
    refine ⟨trivial, ?_⟩
    simp only [SinkState.advance, quiet.settled, issued, List.nil_append]
  have begin : SinkStep options { issued with waiting := [record] } .begins
      (issued.await record awaiting) := by
    refine ⟨trivial, ?_⟩
    rw [← started]
    simp only [SinkState.advance, issued, quiet.idle, quiet.unspilled, SinkState.drainStorage]
  have reject : SinkStep options (issued.await record awaiting) .rejected
      ((issued.await record awaiting).bufferOrSpill options record) := by
    constructor
    · intro own next same
      obtain ⟨rfl, rfl⟩ := Prod.mk.inj (Option.some.inj same)
      rcases moves with rfl | ⟨head, rfl⟩
      · exact ⟨fun _ _ other => (by cases other), fun _ other => (by cases other)⟩
      · exact ⟨fun _ _ other => (by cases other), fun _ other => (by cases other)⟩
    · rcases moves with rfl | ⟨head, rfl⟩
      · rfl
      · rfl
  refine ⟨_, _, ((run.step issue).step begin).step reject, ?_⟩
  have queue : (issued.await record awaiting).memQueue = state.memQueue := rfl
  unfold SinkState.bufferOrSpill
  split
  · refine ⟨⟨rfl, rfl, quiet.unspilled⟩, ?_⟩
    simp only [SinkState.settle, queue, List.length_append, List.length_singleton]
  · next full =>
      have empty := kept.resolve_left (queue ▸ full)
      split
      · refine ⟨⟨rfl, rfl, quiet.unspilled⟩, ?_⟩
        rw [empty]
        rfl
      · next evicted rest filled =>
          rw [queue, empty] at filled
          cases filled

/-- Failing emits fill the queue up to every length whose predecessors fit below the capacity. -/
theorem exists_run_length {options : PersistentBufferedSinkOptions} (record : AuditRecord)
    (length : ℕ) (below : ∀ shorter < length, shorter ≠ 0 → (shorter : WithTop ℚ) < options.capacity) :
    ∃ events state, Run (SinkStep options) SinkState.initial events state ∧ Unspilled state ∧
      state.memQueue.length = length := by
  induction length with
  | zero => exact ⟨[], SinkState.initial, .start, ⟨rfl, rfl, rfl⟩, rfl⟩
  | succ length ih =>
      obtain ⟨events, state, run, quiet, same⟩ := ih fun shorter less =>
        below shorter (less.trans (Nat.lt_succ_self _))
      obtain ⟨longer, after, further, quietAfter, grown⟩ := failing_emit record run quiet (by
        rcases Nat.eq_zero_or_pos length with rfl | positive
        · exact Or.inr (List.length_eq_zero_iff.mp same)
        · exact Or.inl (same ▸ below length (Nat.lt_succ_self _) positive.ne'))
      exact ⟨longer, after, further, quietAfter, grown.trans (congrArg _ same)⟩

theorem conserved_run {options : PersistentBufferedSinkOptions} {events : List SinkEvent}
    {state : SinkState} (run : Run (SinkStep options) SinkState.initial events state) :
    state.Conserved :=
  run.keeps SinkState.conserved_initial fun _ _ _ conserved step =>
    SinkState.conserved_step conserved step

/-- The sink is lossless in every run over a succeeding storage exactly for whole capacities. -/
theorem lossless_iff (options : PersistentBufferedSinkOptions) :
    (∀ events state, Run (SinkStep options) SinkState.initial events state → Lossless options state) ↔
      WholeCapacity options.capacity := by
  constructor
  · intro lossless
    have filled (length : ℕ) (below : ∀ shorter < length, shorter ≠ 0 →
        (shorter : WithTop ℚ) < options.capacity) : (length : WithTop ℚ) ≤ options.capacity := by
      obtain ⟨events, state, run, -, rfl⟩ := exists_run_length (linkedRecord [] [] none) length below
      exact (lossless events state run).bounded
    refine wholeCapacity_of_room (filled 1 fun shorter less positive => ?_) ?_
    · exact absurd (Nat.lt_one_iff.mp less) positive
    · intro length room
      refine filled (length + 1) ?_
      intro shorter less _
      exact lt_of_le_of_lt (Nat.cast_le.mpr (Nat.lt_succ_iff.mp less)) room
  · intro whole events state run
    have conserved := conserved_run run
    have fits : state.Fits options := by
      refine run.keeps ⟨?_, fun _ _ absent => absurd absent (Option.some_ne_none _).symm⟩
        fun _ _ _ fits step => SinkState.fits_step whole fits step.2
      exact le_trans (Nat.cast_le.mpr (Nat.zero_le 1)) whole.one_le
    refine ⟨?_, fits.1, SinkState.accepted_prefix conserved, ?_⟩
    · intro idle empty
      have placed := conserved.idle idle
      rw [empty, List.append_nil] at placed
      exact placed
    · intro event after record step resolves
      exact List.append_eq_nil_iff.mp (SinkState.held_of_resolved conserved step.2 resolves) |>.imp
        List.map_eq_nil_iff.mp id

/-- A sink without room keeps the record of its first failing emit in memory. -/
theorem zeroCapacity_overfull :
    ¬ ∀ events state, Run (SinkStep { capacity := 0, maxSize := none }) SinkState.initial events state →
      Lossless { capacity := 0, maxSize := none } state := by
  intro lossless
  obtain ⟨events, state, run, -, length⟩ := @exists_run_length { capacity := 0, maxSize := none }
    (linkedRecord "h" "1" none) 1
    fun shorter less positive => absurd (Nat.lt_one_iff.mp less) positive
  have bounded := (lossless events state run).bounded
  rw [length, Nat.cast_one] at bounded
  exact absurd bounded (not_le.mpr zero_lt_one)

end Adjudicate.Sink
