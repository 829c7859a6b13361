/-
This file compares the restarted store of remediation proposals with the in-memory one.
-/

import Adjudicate.Adjutant.ProposalStorePostgres
import Mathlib.Data.List.Nodup

namespace Adjudicate.Adjutant

open Js Canonical

section Calls

variable {T : Type}

theorem writeThrough_concat (calls : List (StoreCall T)) (call : StoreCall T) :
    writeThrough (calls ++ [call]) = (writeThrough calls).perform call := List.foldl_append

theorem memory_concat (calls : List (StoreCall T)) (call : StoreCall T) :
    memory (calls ++ [call]) = call.perform (memory calls) := List.foldl_append

/-- The cache is the in-memory store. -/
theorem writeThrough_byId (calls : List (StoreCall T)) :
    (writeThrough calls).byId = memory calls := by
  induction calls using List.reverseRecOn with
  | nil => rfl
  | append_singleton calls call ih =>
      rw [writeThrough_concat, memory_concat, ← ih]
      cases call with
      | put proposal => rfl
      | markResolved proposalId status instant =>
          rw [WriteThrough.perform, StoreCall.perform, ProposalMap.markResolved]
          cases (writeThrough calls).byId.lookup proposalId with
          | none => rfl
          | some prev => rfl

theorem memory_nodup (calls : List (StoreCall T)) : (keys (memory calls)).Nodup := by
  induction calls using List.reverseRecOn with
  | nil => exact List.nodup_nil
  | append_singleton calls call ih =>
      rw [memory_concat]
      cases call with
      | put proposal => exact ProposalMap.put_nodup ih proposal
      | markResolved proposalId status instant => exact ProposalMap.markResolved_nodup ih _ _ _

theorem aboutProposal_concat_of_eq (statements : List (Statement T)) {statement : Statement T}
    {id : JsString} (same : id = statement.proposalId) :
    aboutProposal id (statements ++ [statement]) = aboutProposal id statements ++ [statement] := by
  rw [aboutProposal, List.filter_append, List.filter_cons_of_pos (by simp [same])]
  rfl

theorem aboutProposal_concat_of_ne (statements : List (Statement T)) {statement : Statement T}
    {id : JsString} (other : id ≠ statement.proposalId) :
    aboutProposal id (statements ++ [statement]) = aboutProposal id statements := by
  rw [aboutProposal, List.filter_append, List.filter_cons_of_neg (by simpa using other.symm)]
  exact List.append_nil _

/-- The proposal in memory is the one that its statements recall. -/
theorem recall_fired (calls : List (StoreCall T)) (id : JsString) :
    (aboutProposal id (writeThrough calls).fired).foldl Statement.recall none =
      ((memory calls).get id).map insertedRow := by
  induction calls using List.reverseRecOn with
  | nil => rfl
  | append_singleton calls call ih =>
      rw [writeThrough_concat, memory_concat]
      cases call with
      | put proposal =>
          rw [WriteThrough.perform, StoreCall.perform, ProposalMap.get_put]
          by_cases same : id = proposal.proposalId
          · rw [if_pos same, aboutProposal_concat_of_eq _ same, List.foldl_append]
            rfl
          · rw [if_neg same, aboutProposal_concat_of_ne _ same]
            exact ih
      | markResolved proposalId status instant =>
          rw [WriteThrough.perform, StoreCall.perform, ProposalMap.get_markResolved,
            writeThrough_byId]
          cases found : (memory calls).lookup proposalId with
          | none =>
              refine ih.trans (congrArg _ ?_)
              by_cases same : id = proposalId
              · rw [if_pos same, same, ProposalMap.get, found]
                rfl
              · rw [if_neg same]
          | some prev =>
              dsimp only
              by_cases same : id = proposalId
              · rw [if_pos same, aboutProposal_concat_of_eq _ same, List.foldl_append, ih,
                  List.foldl_cons, List.foldl_nil, Statement.recall, Statement.effect,
                  Option.map_map, Option.map_map]
                rfl
              · rw [if_neg same, aboutProposal_concat_of_ne _ same]
                exact ih

/-- Every fired statement bears the instant of its call. -/
theorem stamps_fired (calls : List (StoreCall T)) :
    ((writeThrough calls).fired.map Statement.stamp).Sublist (calls.map StoreCall.stamp) := by
  induction calls using List.reverseRecOn with
  | nil => exact .slnil
  | append_singleton calls call ih =>
      rw [writeThrough_concat, List.map_append]
      cases call with
      | put proposal =>
          rw [WriteThrough.perform, List.map_append]
          exact ih.append (.refl _)
      | markResolved proposalId status instant =>
          rw [WriteThrough.perform]
          cases (writeThrough calls).byId.lookup proposalId with
          | none => exact ih.trans (List.sublist_append_left _ _)
          | some prev =>
              dsimp only
              rw [List.map_append]
              exact ih.append (.refl _)

end Calls

section Order

variable {T : Type} [LinearOrder T] {calls : List (StoreCall T)}
  (ordered : calls.Pairwise fun first second => first.stamp < second.stamp)

include ordered

/-- No two statements bear the same instant. -/
theorem fired_distinct {first second : Statement T} (firstIn : first ∈ (writeThrough calls).fired)
    (secondIn : second ∈ (writeThrough calls).fired) (same : first.stamp = second.stamp) :
    first = second := by
  have stamps : (calls.map StoreCall.stamp).Nodup :=
    (List.pairwise_map.mpr ordered).imp fun before => before.ne
  exact List.inj_on_of_nodup_map (stamps.sublist (stamps_fired calls)) firstIn secondIn same

/-- The map holds the proposals in the order of their last update, each by an earlier call. -/
theorem memory_sorted :
    (memory calls).Pairwise (fun first second => first.2.updatedAt < second.2.updatedAt) ∧
      ∀ entry ∈ memory calls, entry.2.updatedAt ∈ calls.map StoreCall.stamp := by
  induction calls using List.reverseRecOn with
  | nil => exact ⟨.nil, fun _ entryIn => (List.not_mem_nil entryIn).elim⟩
  | append_singleton calls call ih =>
      obtain ⟨earlier, -, later⟩ := List.pairwise_append.mp ordered
      obtain ⟨sorted, stamped⟩ := ih earlier
      have latest : ∀ entry ∈ memory calls, entry.2.updatedAt < call.stamp := by
        intro entry entryIn
        obtain ⟨former, formerIn, same⟩ := List.mem_map.mp (stamped entry entryIn)
        exact same ▸ later former formerIn call (List.mem_singleton_self call)
      -- The changed proposal moves behind the others.
      have moved : ∀ (id : JsString) (proposal : StoredProposal T),
          proposal.updatedAt = call.stamp →
          (deleteOwn (memory calls) id ++ [(id, proposal)]).Pairwise
              (fun first second => first.2.updatedAt < second.2.updatedAt) ∧
            ∀ entry ∈ deleteOwn (memory calls) id ++ [(id, proposal)],
              entry.2.updatedAt ∈ (calls ++ [call]).map StoreCall.stamp := by
        intro id proposal stamp
        refine ⟨List.pairwise_append.mpr ⟨sorted.filter _, List.pairwise_singleton _ _, ?_⟩, ?_⟩
        · intro first firstIn second secondIn
          obtain rfl := List.mem_singleton.mp secondIn
          exact lt_of_lt_of_eq (latest first (List.mem_filter.mp firstIn).1) stamp.symm
        · intro entry entryIn
          rw [List.map_append]
          rcases List.mem_append.mp entryIn with kept | last
          · exact List.mem_append_left _ (stamped entry (List.mem_filter.mp kept).1)
          · obtain rfl := List.mem_singleton.mp last
            exact List.mem_append_right _ (List.mem_singleton.mpr stamp)
      rw [memory_concat]
      cases call with
      | put proposal => exact moved proposal.proposalId proposal rfl
      | markResolved proposalId status instant =>
          rw [StoreCall.perform, ProposalMap.markResolved]
          cases (memory calls).lookup proposalId with
          | none =>
              refine ⟨sorted, fun entry entryIn => ?_⟩
              rw [List.map_append]
              exact List.mem_append_left _ (stamped entry entryIn)
          | some prev => exact moved proposalId _ rfl

end Order

section Table

variable {T : Type}

/-- Every row is stored under its own proposal. -/
theorem lookup_applyAll_proposalId {statements : List (Statement T)} {id : JsString}
    {row : ProposalRow T} (found : (applyAll statements).lookup id = some row) :
    row.proposalId = id := by
  have content := content_effects keepsColumns_onConflict (aboutProposal id statements)
  rw [← lookup_applyAll, found] at content
  obtain ⟨last, isLast, same⟩ := Option.map_eq_some_iff.mp content.symm
  obtain ⟨statement, stated, inserts⟩ := List.mem_filterMap.mp (List.mem_of_getLast? isLast)
  have named := of_decide_eq_true (List.mem_filter.mp stated).2
  cases statement with
  | insert next =>
      obtain rfl := Option.some.inj inserts
      exact (congrArg Prod.fst same).symm.trans named
  | update proposalId status updatedAt => cases inserts

theorem rowToProposal_injective {left right : ProposalRow T}
    (same : rowToProposal left = rowToProposal right) : left = right := by
  cases left
  cases right
  simpa [rowToProposal] using same

theorem effects_some_iff {merge : Option (ProposalRow T) → ProposalRow T → ProposalRow T}
    (columns : KeepsColumns merge) (statements : List (Statement T)) :
    (statements.foldl (Statement.effect merge) none).isSome ↔
      statements.filterMap Statement.inserted ≠ [] := by
  rw [← Option.isSome_map (f := ProposalRow.content), content_effects columns, Option.isSome_map,
    List.getLast?_isSome]

/-- Statements in another order leave rows for the same proposals. -/
theorem lookup_applyAll_isSome {applied : List (Statement T)} {calls : List (StoreCall T)}
    (all : applied.Perm (writeThrough calls).fired) (id : JsString) :
    ((applyAll applied).lookup id).isSome ↔ ((memory calls).get id).isSome := by
  have inserted : ((aboutProposal id applied).filterMap Statement.inserted).Perm
      ((aboutProposal id (writeThrough calls).fired).filterMap Statement.inserted) :=
    (all.filter _).filterMap _
  rw [lookup_applyAll, effects_some_iff keepsColumns_onConflict, ← List.length_pos_iff,
    inserted.length_eq, List.length_pos_iff, ← effects_some_iff keepsColumns_newest, recall_fired,
    Option.isSome_map]

end Table

section Agreement

variable {T : Type}

theorem ProposalRow.eq_of_content {left right : ProposalRow T}
    (content : left.content = right.content) (status : left.status = right.status)
    (createdAt : left.createdAt = right.createdAt) (updatedAt : left.updatedAt = right.updatedAt) :
    left = right := by
  cases left
  cases right
  simp only [ProposalRow.content, Prod.mk.injEq] at content
  obtain ⟨rfl, rfl, rfl, rfl, rfl, rfl, rfl, rfl⟩ := content
  obtain rfl : _ = _ := status
  obtain rfl : _ = _ := createdAt
  obtain rfl : _ = _ := updatedAt
  rfl

/-- The table has the proposal of the memory exactly when its statements settle. -/
theorem store_eq_iff {applied fired : List (Statement T)} {row : ProposalRow T}
    (distinct : ∀ first ∈ applied, ∀ second ∈ fired, first.stamp = second.stamp → first = second)
    (recalled : fired.foldl Statement.recall none = some row) :
    applied.foldl Statement.store none = some row ↔ Settles applied fired := by
  have content := content_effects keepsColumns_newest fired
  have createdAt := createdAt_recall fired
  obtain ⟨last, isLast, status, stamp⟩ := last_effects keepsColumns_newest fired recalled
  rw [recalled] at content createdAt
  have storedContent := content_effects keepsColumns_onConflict applied
  have storedCreatedAt := createdAt_store applied
  constructor
  · intro stored
    obtain ⟨latest, isLatest, -, instant⟩ := last_effects keepsColumns_onConflict applied stored
    rw [stored] at storedContent storedCreatedAt
    refine ⟨?_, storedContent.symm.trans content, storedCreatedAt.symm.trans createdAt⟩
    rw [isLatest, isLast, distinct latest (List.mem_of_getLast? isLatest) last
      (List.mem_of_getLast? isLast) (instant.symm.trans stamp)]
  · intro settled
    obtain ⟨same, sameContent, sameCreatedAt⟩ := settled
    rw [sameContent, ← content] at storedContent
    rw [sameCreatedAt, ← createdAt] at storedCreatedAt
    obtain ⟨other, stored, content⟩ := Option.map_eq_some_iff.mp storedContent
    obtain ⟨latest, isLatest, otherStatus, instant⟩ :=
      last_effects keepsColumns_onConflict applied stored
    rw [stored] at storedCreatedAt
    obtain rfl : latest = last := Option.some.inj (isLatest.symm.trans (same.trans isLast))
    rw [show applied.foldl Statement.store none = some other from stored]
    exact congrArg some (ProposalRow.eq_of_content content (otherStatus.trans status.symm)
      (Option.some.inj storedCreatedAt) (instant.trans stamp.symm))

variable [LinearOrder T] {table : Props (ProposalRow T)}

/-- A restart within the capacity loads every row, in the order of the updates. -/
theorem restart_loads {capacity : Nat} (distinct : (keys table).Nodup)
    (keyed : ∀ entry ∈ table, entry.2.proposalId = entry.1) (bounded : table.length ≤ capacity) :
    (restart capacity table).Perm (mapValues rowToProposal table) ∧
      (restart capacity table).Pairwise
        fun first second => first.2.updatedAt ≤ second.2.updatedAt := by
  have newest : ((sortBy (fun row => OrderDual.toDual row.updatedAt)
      (table.map Prod.snd)).take capacity).Perm (table.map Prod.snd) := by
    rw [List.take_of_length_le (by rwa [(sortBy_perm _ _).length_eq, List.length_map])]
    exact sortBy_perm _ _
  have entries : ((table.map Prod.snd).map fun row => (row.proposalId, rowToProposal row)) =
      mapValues rowToProposal table := by
    rw [List.map_map, mapValues]
    exact List.map_congr_left fun entry entryIn => Prod.ext (keyed entry entryIn) rfl
  have loaded := ((sortBy_perm ProposalRow.updatedAt _).trans newest).map fun row =>
    (row.proposalId, rowToProposal row)
  rw [entries] at loaded
  rw [restart, defineAll_of_nodup ((keys_perm loaded).nodup_iff.mpr (by rwa [keys_mapValues]))]
  exact ⟨loaded, List.pairwise_map.mpr (sortBy_pairwise ProposalRow.updatedAt _)⟩

omit [LinearOrder T] in
theorem sameReads_mapValues (right : ProposalMap JsValue T) :
    SameReads (mapValues copied right) right where
  get proposalId := lookup_mapValues copied right proposalId
  getByToken token := by
    rw [ProposalMap.getByToken, ProposalMap.getByToken, mapValues, List.find?_map, Option.map_map,
      Option.map_map]
    rfl
  list filter := by
    have copies : (mapValues copied right).map Prod.snd = (right.map Prod.snd).map copied := by
      rw [mapValues, List.map_map, List.map_map]
      rfl
    rw [ProposalMap.list, ProposalMap.list, copies, List.filter_map, List.map_reverse]
    rfl

end Agreement

section Restarted

variable {T : Type} [LinearOrder T] {calls : List (StoreCall T)} {capacity : Nat}
  {applied : List (Statement T)}
  (ordered : calls.Pairwise fun first second => first.stamp < second.stamp)
  (bounded : (memory calls).length ≤ capacity)
  (all : applied.Perm (writeThrough calls).fired)

include bounded all

/-- The restarted store has the proposals of the table. -/
theorem restart_applied : (restart capacity (applyAll applied)).Perm
      (mapValues rowToProposal (applyAll applied)) ∧
    (restart capacity (applyAll applied)).Pairwise
      fun first second => first.2.updatedAt ≤ second.2.updatedAt := by
  have distinct := applyAll_nodup applied
  refine restart_loads distinct (fun entry entryIn => ?_) ?_
  · exact lookup_applyAll_proposalId ((lookup_eq_some distinct entry.1 entry.2).mpr entryIn)
  · have known : keys (applyAll applied) ⊆ keys (memory calls) := by
      intro id idIn
      by_contra absent
      have some := lookup_applyAll_isSome all id
      rw [ProposalMap.get, lookup_eq_none.mpr absent] at some
      have missing : (applyAll applied).lookup id = none :=
        Option.not_isSome_iff_eq_none.mp fun stored => Bool.false_ne_true (some.mp stored)
      exact lookup_eq_none.mp missing idIn
    have shorter := (List.subperm_of_subset distinct known).length_le
    rw [keys, keys, List.length_map, List.length_map] at shorter
    exact shorter.trans bounded

theorem get_restart (id : JsString) : (restart capacity (applyAll applied)).get id =
    ((applyAll applied).lookup id).map rowToProposal := by
  have loaded := (restart_applied bounded all).1
  have distinct : (keys (mapValues rowToProposal (applyAll applied))).Nodup := by
    rw [keys_mapValues]
    exact applyAll_nodup applied
  rw [ProposalMap.get, lookup_perm loaded ((keys_perm loaded).nodup_iff.mpr distinct),
    lookup_mapValues]

include ordered

theorem get_restart_iff {id : JsString} {proposal : StoredProposal T}
    (stored : (memory calls).get id = some proposal) :
    (restart capacity (applyAll applied)).get id = some (copied proposal) ↔
      Settles (aboutProposal id applied) (aboutProposal id (writeThrough calls).fired) := by
  have recalled := recall_fired calls id
  rw [stored] at recalled
  rw [get_restart bounded all, ← store_eq_iff _ recalled, ← lookup_applyAll, copied,
    ← Option.map_some, (Option.map_injective fun _ _ => rowToProposal_injective).eq_iff]
  intro first firstIn second secondIn
  exact fired_distinct ordered (all.mem_iff.mp (List.mem_filter.mp firstIn).1)
    (List.mem_filter.mp secondIn).1

/-- The restarted store reads as the in-memory one exactly when the statements of every proposal
settle on the same last write. -/
theorem restart_sameReads_iff :
    SameReads (restart capacity (applyAll applied)) (memory calls) ↔
      ∀ id ∈ keys (memory calls),
        Settles (aboutProposal id applied) (aboutProposal id (writeThrough calls).fired) := by
  have distinct := memory_nodup calls
  constructor
  · intro same id idIn
    obtain ⟨proposal, stored⟩ :=
      Option.ne_none_iff_exists'.mp fun absent => lookup_eq_none.mp absent idIn
    refine (get_restart_iff ordered bounded all stored).mp ?_
    rw [same.get, ProposalMap.get, stored]
    rfl
  · intro settled
    obtain ⟨loaded, sorted⟩ := restart_applied bounded all
    have copies : (keys (mapValues copied (memory calls))).Nodup := by rwa [keys_mapValues]
    have ownKeys : (keys (restart capacity (applyAll applied))).Nodup := by
      refine (keys_perm loaded).nodup_iff.mpr ?_
      rw [keys_mapValues]
      exact applyAll_nodup applied
    have whole : (restart capacity (applyAll applied)).Perm (mapValues copied (memory calls)) := by
      refine perm_of_lookup ownKeys copies fun id => ?_
      rw [lookup_mapValues]
      cases stored : (memory calls).lookup id with
      | none =>
          have absent := (lookup_applyAll_isSome all id).not
          rw [ProposalMap.get, stored, Option.not_isSome_iff_eq_none] at absent
          rw [← ProposalMap.get, get_restart bounded all, absent.mpr (by simp)]
          rfl
      | some proposal =>
          exact (get_restart_iff ordered bounded all stored).mpr
            (settled id (mem_keys_of_mem (mem_of_lookup stored)))
    have same : restart capacity (applyAll applied) = mapValues copied (memory calls) := by
      have order := (memory_sorted ordered).1
      refine whole.eq_of_pairwise ?_ sorted (List.pairwise_map.mpr (order.imp le_of_lt))
      intro first second firstIn secondIn below above
      obtain ⟨one, oneIn, rfl⟩ := List.mem_map.mp (whole.mem_iff.mp firstIn)
      obtain ⟨two, twoIn, rfl⟩ := List.mem_map.mp secondIn
      have stamps : ((memory calls).map fun entry => entry.2.updatedAt).Nodup :=
        List.pairwise_map.mpr (order.imp ne_of_lt)
      rw [List.inj_on_of_nodup_map stamps oneIn twoIn (le_antisymm below above)]
    rw [same]
    exact sameReads_mapValues (memory calls)

end Restarted

/-- This is a restart with a review that an operator has approved. -/
def sampleProposal (proposalId : JsString) (instant : Nat) : StoredProposal Nat where
  proposalId := proposalId
  incidentId := "inc-1"
  action := "restart"
  blastRadius := JsNumber.ofNat 2
  disposition := .review
  status := .pendingReview
  approvalToken := some (proposalId ++ "-token")
  intentHash := none
  envelope := none
  createdAt := instant
  updatedAt := instant

/-- Statements about different proposals may pass each other. -/
theorem restart_sameReads_interleaved : SameReads
    (restart 1000 (applyAll [.insert (insertedRow (sampleProposal "n2" 2)),
      .insert (insertedRow (sampleProposal "n1" 1)), .update "n1" .executed 3]))
    (memory [.put (sampleProposal "n1" 1), .put (sampleProposal "n2" 2),
      .markResolved "n1" .executed 3]) := by
  refine (restart_sameReads_iff ?_ ?_ ?_).mpr ?_
  · decide
  · decide
  · exact .swap _ _ _
  · have ids : keys (memory [.put (sampleProposal "n1" 1), .put (sampleProposal "n2" 2),
        .markResolved "n1" .executed 3]) = ["n2", "n1"] := by decide
    rw [ids]
    exact List.forall_mem_cons.mpr
      ⟨⟨rfl, rfl, rfl⟩, List.forall_mem_singleton.mpr ⟨rfl, rfl, rfl⟩⟩

/-- The update passes before the insertion it depends on, so the restarted store shows the executed
proposal as pending again. -/
theorem resolved_pendingAgain : ¬∀ (calls : List (StoreCall Nat)) (capacity : Nat)
    (applied : List (Statement Nat)),
    (calls.Pairwise fun first second => first.stamp < second.stamp) →
    (memory calls).length ≤ capacity → applied.Perm (writeThrough calls).fired →
    SameReads (restart capacity (applyAll applied)) (memory calls) := by
  intro always
  have reads := always
    [.put (sampleProposal "n1" 1), .markResolved "n1" .executed 2] 1000
    [.update "n1" .executed 2, .insert (insertedRow (sampleProposal "n1" 1))]
    (by decide) (by decide) (.swap _ _ _)
  have pending := congrArg (Option.map RemediationProposal.status) (reads.get "n1")
  have executed : some RemediationProposalStatus.pendingReview = some .executed := pending
  cases executed

end Adjudicate.Adjutant
