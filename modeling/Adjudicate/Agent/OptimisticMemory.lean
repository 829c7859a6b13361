/-
This file proves when the optimistic writes of the memory store lose no update.
-/

import Adjudicate.Agent.MemoryStore

namespace Adjudicate.Agent

open Js Adjudicate.Effect

section Cell

variable {M : Type}

/-- A cell holds a value with its version. -/
abbrev Cell (M : Type) := Option (M × Nat)

def Cell.version (cell : Cell M) : Nat := (cell.map Prod.snd).getD 0

/-- A write raises the version, and a drop forgets it. -/
inductive CellStep (key : JsString) : Cell M → Change M → Cell M → Prop where
  | wrote (cell : Cell M) (memory : M) :
      CellStep key cell (.wrote key memory) (some (memory, Cell.version cell + 1))
  | dropped (held : M × Nat) : CellStep key (some held) (.dropped key) none
  | elsewhere (cell : Cell M) (change : Change M) :
      change.key ≠ key → CellStep key cell change cell

variable {key : JsString} {before after : Cell M} {changes : List (Change M)}

/-- A held version is positive, so that zero stands for an absent cell. -/
def Cell.Counted (cell : Cell M) : Prop := ∀ held ∈ cell, 0 < held.2

theorem counted_of_run (run : Run (CellStep key) before changes after)
    (start : Cell.Counted before) : Cell.Counted after := by
  refine run.keeps start ?_
  intro cell change next counted step
  cases step with
  | wrote _ memory =>
      rintro held ⟨⟩
      exact Nat.succ_pos _
  | dropped held => exact nofun
  | elsewhere _ _ other => exact counted

/-- Without changes of its key a cell stays as it is. -/
theorem unchanged_of_run (run : Run (CellStep key) before changes after)
    (quiet : ∀ change ∈ changes, change.key ≠ key) : after = before := by
  induction run with
  | start => rfl
  | step _ taken ih =>
      rw [List.forall_mem_append, List.forall_mem_singleton] at quiet
      cases taken with
      | wrote _ memory => exact absurd rfl quiet.2
      | dropped held => exact absurd rfl quiet.2
      | elsewhere _ _ other => exact ih quiet.1

/-- This is a write of the cell. -/
def Writes (key : JsString) (changes : List (Change M)) : Prop :=
  ∃ memory, Change.wrote key memory ∈ changes

def Drops (key : JsString) (changes : List (Change M)) : Prop := Change.dropped key ∈ changes

instance [DecidableEq M] (key : JsString) (changes : List (Change M)) :
    Decidable (Drops key changes) :=
  inferInstanceAs (Decidable (_ ∈ _))

/-- Without a drop the version counts on, by every write. -/
theorem version_of_undropped (run : Run (CellStep key) before changes after)
    (kept : ¬Drops key changes) :
    Cell.version before ≤ Cell.version after ∧
      (Writes key changes → Cell.version before < Cell.version after) := by
  induction run with
  | start => exact ⟨Nat.le_refl _, fun ⟨_, absent⟩ => absurd absent List.not_mem_nil⟩
  | @step changes middle last change _ taken ih =>
      have earlier := ih fun dropped => kept (List.mem_append_left _ dropped)
      cases taken with
      | wrote _ memory =>
          have grown : Cell.version before < Cell.version middle + 1 := Nat.lt_succ_of_le earlier.1
          exact ⟨grown.le, fun _ => grown⟩
      | dropped held => exact absurd (List.mem_append_right _ (List.mem_singleton_self _)) kept
      | elsewhere _ _ other =>
          refine ⟨earlier.1, ?_⟩
          rintro ⟨memory, member⟩
          obtain early | own := List.mem_append.mp member
          · exact earlier.2 ⟨memory, early⟩
          · rw [← List.mem_singleton.mp own] at other
            exact absurd rfl other

/-- Without a write a cell is as it was, unless it was held and dropped. -/
theorem content_of_unwritten (run : Run (CellStep key) before changes after)
    (unwritten : ¬Writes key changes) :
    (¬Drops key changes ∧ after = before) ∨ Drops key changes ∧ after = none ∧ before ≠ none := by
  induction run with
  | start => exact .inl ⟨List.not_mem_nil, rfl⟩
  | @step changes middle last change _ taken ih =>
      have earlier := ih fun ⟨memory, member⟩ => unwritten ⟨memory, List.mem_append_left _ member⟩
      cases taken with
      | wrote _ memory =>
          exact absurd ⟨memory, List.mem_append_right _ (List.mem_singleton_self _)⟩ unwritten
      | dropped held =>
          have own : Drops key (changes ++ [.dropped key]) :=
            List.mem_append_right _ (List.mem_singleton_self _)
          obtain ⟨-, same⟩ | ⟨-, absent, -⟩ := earlier
          · exact .inr ⟨own, rfl, same ▸ Option.some_ne_none held⟩
          · cases absent
      | elsewhere _ _ other =>
          have same : Drops key (changes ++ [change]) ↔ Drops key changes := by
            rw [Drops, List.mem_append, List.mem_singleton]
            refine or_iff_left ?_
            rintro rfl
            exact other rfl
          rw [same]
          exact earlier

/-- Between two readings of one version there is a write exactly if there is a drop. -/
theorem writes_iff_drops (run : Run (CellStep key) before changes after)
    (counted : Cell.Counted before) (same : Cell.version before = Cell.version after) :
    Writes key changes ↔ Drops key changes := by
  constructor
  · intro written
    by_contra kept
    exact absurd same (Nat.ne_of_lt ((version_of_undropped run kept).2 written))
  · intro dropped
    by_contra unwritten
    obtain ⟨kept, -⟩ | ⟨-, rfl, held⟩ := content_of_unwritten run unwritten
    · exact kept dropped
    · obtain ⟨content, rfl⟩ := Option.ne_none_iff_exists'.mp held
      exact absurd same (Nat.ne_of_gt (counted content rfl))

end Cell

namespace MemoryState

variable {M P : Type} {opts : MemoryStoreOptions M P} {state before after : MemoryState M}
  {key : JsString}

def cell (state : MemoryState M) (key : JsString) : Cell M :=
  (state.store.get key).map fun entry => (entry.value, entry.version)

theorem version_cell (state : MemoryState M) (key : JsString) :
    Cell.version (state.cell key) = ((state.store.get key).map (·.version)).getD 0 := by
  rw [Cell.version, cell, Option.map_map]
  rfl

/-- The log goes on with the changes that lead every cell to its new content. -/
def Grows (before after : MemoryState M) : Prop :=
  ∃ changes, after.log = before.log ++ changes ∧
    ∀ key, Run (CellStep key) (before.cell key) changes (after.cell key)

theorem Grows.refl (state : MemoryState M) : Grows state state :=
  ⟨[], (List.append_nil _).symm, fun _ => .start⟩

theorem Grows.trans {middle : MemoryState M} (first : Grows before middle)
    (second : Grows middle after) : Grows before after := by
  obtain ⟨early, logged, leads⟩ := first
  obtain ⟨late, further, goes⟩ := second
  refine ⟨early ++ late, ?_, fun key => (leads key).append (goes key)⟩
  rw [further, logged, List.append_assoc]

theorem grows_drop (held : state.store.get key ≠ none) : Grows state (state.drop key) := by
  refine ⟨[.dropped key], rfl, fun other => ?_⟩
  refine .step .start ?_
  by_cases same : other = key
  · subst same
    obtain ⟨entry, found⟩ := Option.ne_none_iff_exists'.mp held
    rw [cell, cell, drop, InsertionMap.get_delete_self, found]
    exact .dropped _
  · rw [cell, cell, drop, InsertionMap.get_delete_of_ne same]
    exact .elsewhere _ _ (Ne.symm same)

/-- A live entry that moves keeps its content. -/
theorem grows_touch {entry : MemoryEntry M} (found : state.store.get key = some entry) :
    Grows state { state with store := state.store.touch key entry } := by
  refine ⟨[], (List.append_nil _).symm, fun other => ?_⟩
  have kept : ({ state with store := state.store.touch key entry } : MemoryState M).cell other =
      state.cell other := by
    by_cases same : other = key
    · rw [cell, cell, same, InsertionMap.get_touch_self, found]
    · rw [cell, cell, InsertionMap.get_touch_of_ne same]
  rw [kept]
  exact .start

theorem grows_write (memory : M) (ttlSeconds : JsNumber) {version : Nat}
    (next : version = Cell.version (state.cell key) + 1) :
    Grows state (state.write opts key memory ttlSeconds version) := by
  refine ⟨[.wrote key memory], rfl, fun other => ?_⟩
  refine .step .start ?_
  by_cases same : other = key
  · subst same
    have written : (state.write opts other memory ttlSeconds version).cell other =
        some (memory, Cell.version (state.cell other) + 1) := by
      rw [cell, write, InsertionMap.get_touch_self, next]
      rfl
    rw [written]
    exact .wrote _ _
  · have kept : (state.write opts key memory ttlSeconds version).cell other = state.cell other := by
      rw [cell, write, InsertionMap.get_touch_of_ne same]
      rfl
    rw [kept]
    exact .elsewhere _ _ (Ne.symm same)

/-- The sweep drops entries that are there. -/
theorem grows_drops (entries : List (JsString × MemoryEntry M))
    (distinct : (entries.map Prod.fst).Nodup)
    (held : ∀ entry ∈ entries, state.store.get entry.1 ≠ none) :
    Grows state (entries.foldl (fun swept entry => swept.drop entry.1) state) := by
  induction entries generalizing state with
  | nil => exact .refl state
  | cons entry rest ih =>
      obtain ⟨own, others⟩ := List.forall_mem_cons.mp held
      obtain ⟨absent, apart⟩ := List.nodup_cons.mp distinct
      refine (grows_drop own).trans (ih apart ?_)
      intro later member
      have different : later.1 ≠ entry.1 := fun same =>
        absent (List.mem_map.mpr ⟨later, member, same⟩)
      rw [drop, InsertionMap.get_delete_of_ne different]
      exact others later member

theorem grows_sweep (state : MemoryState M) : Grows state state.sweep := by
  have some : ((state.store.entries.take sweepBatch).filter fun entry =>
      state.expired entry.2).Sublist state.store.entries :=
    List.filter_sublist.trans (List.take_sublist _ _)
  refine grows_drops _ (state.store.distinct.sublist (some.map Prod.fst)) ?_
  intro entry member absent
  rw [InsertionMap.get_eq_none_iff] at absent
  exact absent (List.mem_map_of_mem (some.subset member))

theorem grows_evictRounds (maxEntries : JsNumber) (rounds : Nat) (state : MemoryState M) :
    Grows state (evictRounds maxEntries rounds state) := by
  induction rounds generalizing state with
  | zero => exact .refl state
  | succ rounds ih =>
      rw [evictRounds]
      split
      · split
        · exact .refl state
        · next oldest first =>
            refine (grows_drop ?_).trans (ih _)
            intro absent
            rw [InsertionMap.get_eq_none_iff] at absent
            obtain ⟨entry, front, rfl⟩ := Option.map_eq_some_iff.mp first
            exact absent (List.mem_map_of_mem (List.mem_of_mem_head? front))
      · exact .refl state

theorem grows_evictIfNeeded (state : MemoryState M) : Grows state (state.evictIfNeeded opts) := by
  unfold evictIfNeeded
  split
  · exact .refl state
  · exact grows_evictRounds _ _ state

theorem grows_readLive (state : MemoryState M) (key : JsString) :
    Grows state (state.readLive key).2 := by
  unfold readLive
  split
  · exact .refl state
  · next entry found =>
      split
      · exact grows_drop (found.symm ▸ Option.some_ne_none entry)
      · exact grows_touch found

/-- What a live reading returns is the content of the cell afterwards. -/
theorem cell_readLive (state : MemoryState M) (key : JsString) :
    (state.readLive key).2.cell key =
      (state.readLive key).1.map fun entry => (entry.value, entry.version) := by
  unfold readLive
  split
  · next absent => rw [cell, absent]
  · split
    · rw [cell, drop, InsertionMap.get_delete_self]
    · rw [cell, InsertionMap.get_touch_self]

theorem version_readLive (state : MemoryState M) (key : JsString) :
    Cell.version ((state.readLive key).2.cell key) =
      ((state.readLive key).1.map (·.version)).getD 0 := by
  rw [cell_readLive, Cell.version, Option.map_map]
  rfl

theorem grows_put (state : MemoryState M) (sessionId : JsString) (memory : M)
    (ttlSeconds : JsNumber) : Grows state (state.put opts sessionId memory ttlSeconds) := by
  refine (grows_sweep state).trans (.trans ?_ (grows_evictIfNeeded _))
  refine grows_write memory ttlSeconds ?_
  rw [version_cell]

theorem grows_putIfVersion (state : MemoryState M) (sessionId : JsString) (memory : M)
    (expectedVersion : Nat) (ttlSeconds : JsNumber) :
    Grows state (state.putIfVersion opts sessionId memory expectedVersion ttlSeconds).2 := by
  have read := (grows_sweep state).trans (grows_readLive state.sweep (opts.keyFor sessionId))
  unfold putIfVersion
  dsimp only
  split
  · exact read
  · refine read.trans (.trans ?_ (grows_evictIfNeeded _))
    refine grows_write memory ttlSeconds ?_
    rw [version_readLive]

/-- Every call of the store changes its cells one after the other. -/
theorem grows_perform (call : MemoryCall M P) (state : MemoryState M) :
    Grows state (state.perform opts call) := by
  cases call with
  | get sessionId => exact grows_readLive state _
  | put sessionId memory ttlSeconds => exact grows_put state sessionId memory ttlSeconds
  | mergeReads sessionId patch ttlSeconds => exact grows_readLive state _
  | mergeWrites position =>
      unfold perform
      dsimp only
      split
      · exact .refl state
      · exact grows_put { state with merging := state.merging.eraseIdx position } _ _ _
  | getVersioned sessionId => exact grows_readLive state _
  | putIfVersion sessionId memory expectedVersion ttlSeconds =>
      exact grows_putIfVersion state sessionId memory expectedVersion ttlSeconds
  | clock now => exact ⟨[], (List.append_nil _).symm, fun key => .start⟩

/-- The calls of all clients run one after the other. -/
def Step (opts : MemoryStoreOptions M P) (before : MemoryState M) (call : MemoryCall M P)
    (after : MemoryState M) : Prop :=
  after = before.perform opts call

theorem grows_run {calls : List (MemoryCall M P)} (run : Run (Step opts) before calls after) :
    Grows before after :=
  run.keeps (.refl before) fun _ call _ grown taken => grown.trans (taken ▸ grows_perform call _)

theorem counted_run {calls : List (MemoryCall M P)} (run : Run (Step opts) initial calls state)
    (key : JsString) : Cell.Counted (state.cell key) := by
  obtain ⟨changes, -, leads⟩ := grows_run run
  exact counted_of_run (leads key) nofun

def changesSince (before after : MemoryState M) : List (Change M) :=
  after.log.drop before.log.length

theorem Grows.leads (grows : Grows before after) (key : JsString) :
    Run (CellStep key) (before.cell key) (changesSince before after) (after.cell key) := by
  obtain ⟨changes, logged, leads⟩ := grows
  rw [changesSince, logged, List.drop_left]
  exact leads key

/-- A successful write found its expected version, stored the memory and then evicted at most. -/
theorem putIfVersion_ok {sessionId : JsString} {memory : M} {expected next : Nat}
    {ttlSeconds : JsNumber}
    (succeeds : state.putIfVersion opts sessionId memory expected ttlSeconds = (some next, after)) :
    Cell.version ((state.compared opts sessionId).cell (opts.keyFor sessionId)) = expected ∧
      after = ((state.compared opts sessionId).write opts (opts.keyFor sessionId) memory ttlSeconds
        (expected + 1)).evictIfNeeded opts := by
  unfold putIfVersion at succeeds
  dsimp only at succeeds
  split at succeeds
  · cases congrArg Prod.fst succeeds
  · next found =>
      rw [compared, version_readLive, ← not_not.mp found]
      exact ⟨rfl, (congrArg Prod.snd succeeds).symm⟩

end MemoryState

section Optimistic

open MemoryState

variable {M P : Type} {opts : MemoryStoreOptions M P}

/-- A successful optimistic write follows no other write since its version was read exactly if the
entry was not dropped in between, and its memory stays until the next change of the entry. -/
theorem putIfVersion_lossless_iff {calls later : List (MemoryCall M P)}
    {state read waiting written : MemoryState M} {sessionId : JsString} {found : Option M}
    {version next : Nat} {memory : M} {ttlSeconds : JsNumber}
    (reached : Run (Step opts) initial calls state)
    (reads : state.getVersioned opts sessionId = ((found, version), read))
    (waits : Run (Step opts) read later waiting)
    (succeeds : waiting.putIfVersion opts sessionId memory version ttlSeconds =
      (some next, written)) :
    (¬Writes (opts.keyFor sessionId) (changesSince read (waiting.compared opts sessionId)) ↔
        ¬Drops (opts.keyFor sessionId) (changesSince read (waiting.compared opts sessionId))) ∧
      ∀ (further : List (MemoryCall M P)) (reading : MemoryState M),
        Run (Step opts) written further reading →
        (∀ change ∈ (reading.get opts sessionId).2.log.drop
            ((waiting.compared opts sessionId).log.length + 1),
          change.key ≠ opts.keyFor sessionId) →
        (reading.get opts sessionId).1 = some memory := by
  obtain ⟨matched, rfl⟩ := putIfVersion_ok succeeds
  constructor
  · have own : read = (state.readLive (opts.keyFor sessionId)).2 := (congrArg Prod.snd reads).symm
    have versioned : Cell.version (read.cell (opts.keyFor sessionId)) = version := by
      rw [own, version_readLive]
      exact congrArg (·.1.2) reads
    have counted : Cell.Counted (read.cell (opts.keyFor sessionId)) := by
      have further : Run (Step opts) initial (calls ++ [.getVersioned sessionId]) read :=
        reached.step (congrArg Prod.snd reads).symm
      exact counted_run further _
    have leads : Grows read (waiting.compared opts sessionId) :=
      (grows_run waits).trans ((grows_sweep waiting).trans (grows_readLive _ _))
    rw [not_iff_not]
    exact writes_iff_drops (leads.leads _) counted (versioned.trans matched.symm)
  · intro further reading runs quiet
    have stored : ((waiting.compared opts sessionId).write opts (opts.keyFor sessionId) memory
        ttlSeconds (version + 1)).cell (opts.keyFor sessionId) = some (memory, version + 1) := by
      rw [cell, write, InsertionMap.get_touch_self]
      rfl
    have leads := ((@grows_evictIfNeeded _ _ opts ((waiting.compared opts sessionId).write opts
      (opts.keyFor sessionId) memory ttlSeconds (version + 1))).trans ((grows_run runs).trans
        (grows_readLive reading (opts.keyFor sessionId)))).leads (opts.keyFor sessionId)
    have length : ((waiting.compared opts sessionId).write opts (opts.keyFor sessionId) memory
        ttlSeconds (version + 1)).log.length =
          (waiting.compared opts sessionId).log.length + 1 := List.length_append
    rw [changesSince, length] at leads
    have kept := unchanged_of_run leads quiet
    rw [stored, cell_readLive] at kept
    obtain ⟨entry, live, content⟩ := Option.map_eq_some_iff.mp kept
    show ((reading.readLive (opts.keyFor sessionId)).1.map (·.value)) = some memory
    rw [live, Option.map_some, (Prod.mk.inj content).1]

end Optimistic

/-- This store lets an entry live for an hour and does not bound their number. -/
def hourlyStore : MemoryStoreOptions Nat Unit where
  defaultTtl := .ofNat 3600
  maxEntries := none
  keyFor := id
  spread current _ := current.getD 0

namespace MemoryState

/-- The first memory of the session is stored with version one. -/
def remembered : MemoryState Nat := initial.put hourlyStore "s" 1 (.ofNat 10)

/-- A client has read that version. -/
def recalled : MemoryState Nat := (remembered.getVersioned hourlyStore "s").2

/-- The memory has expired and another one was stored. -/
def replaced : MemoryState Nat :=
  ({ recalled with now := 60000 } : MemoryState Nat).put hourlyStore "s" 2 (.ofNat 10)

theorem run_remembered : Run (Step hourlyStore) initial ([] ++ [.put "s" 1 (.ofNat 10)]) remembered :=
  .step .start rfl

theorem reads_remembered : remembered.getVersioned hourlyStore "s" = ((some 1, 1), recalled) :=
  Prod.ext (by decide +kernel) rfl

theorem run_replaced : Run (Step hourlyStore) recalled
    ([] ++ [.clock 60000] ++ [.put "s" 2 (.ofNat 10)]) replaced := by
  have ticks : Run (Step hourlyStore) recalled ([] ++ [.clock 60000])
      { recalled with now := 60000 } := .step .start rfl
  exact .step ticks rfl

end MemoryState

open MemoryState in
/-- A version that was read goes on with the write that expects it. -/
theorem putIfVersion_lossless_second :
    ¬Writes "s" (changesSince recalled (recalled.compared hourlyStore "s")) := by
  obtain ⟨next, written, succeeds⟩ : ∃ next written,
      recalled.putIfVersion hourlyStore "s" 2 1 (.ofNat 10) = (some next, written) := by
    have answered : (recalled.putIfVersion hourlyStore "s" 2 1 (.ofNat 10)).1 = some 2 := by
      decide +kernel
    exact ⟨2, _, Prod.ext answered rfl⟩
  refine (putIfVersion_lossless_iff run_remembered reads_remembered .start succeeds).1.mpr ?_
  exact of_decide_eq_false (by decide +kernel)

open MemoryState in
/-- A version that starts again after an expiry matches a memory that was never read. -/
theorem putIfVersion_afterExpiry : ∃ (calls later : List (MemoryCall Nat Unit))
    (state read waiting written : MemoryState Nat) (found : Option Nat) (version next : Nat),
    Run (Step hourlyStore) initial calls state ∧
      state.getVersioned hourlyStore "s" = ((found, version), read) ∧
      Run (Step hourlyStore) read later waiting ∧
      waiting.putIfVersion hourlyStore "s" 3 version (.ofNat 10) = (some next, written) ∧
      Writes "s" (changesSince read waiting) := by
  have answered : (replaced.putIfVersion hourlyStore "s" 3 1 (.ofNat 10)).1 = some 2 := by
    decide +kernel
  have writes : Writes "s" (changesSince recalled replaced) := ⟨2, by decide +kernel⟩
  exact ⟨_, _, remembered, recalled, replaced, _, some 1, 1, 2, run_remembered, reads_remembered,
    run_replaced, Prod.ext answered rfl, writes⟩

end Adjudicate.Agent
