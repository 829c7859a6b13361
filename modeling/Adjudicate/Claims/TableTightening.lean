/-
This file shows that a tightened consistency table never lets more claims through.
-/

import Adjudicate.Claims.ConsistencyGuarantees
import Adjudicate.Claims.RegistryDiff

namespace Adjudicate.Claims

open Js

/-- A table that indexes gives the gate the relations that the lint compares. -/
theorem relationByPair_of_indexed {table : List ConsistencyConstraint}
    {index : Props ConsistencyRelation} (indexed : indexTable table = .ok index) :
    relationByPair table = index := by
  unfold indexTable at indexed
  unfold relationByPair
  induction table using List.reverseRecOn generalizing index with
  | nil => exact Except.ok.inj indexed
  | append_singleton table constraint ih =>
      rw [List.foldlM_append] at indexed
      obtain ⟨before, earlier, last⟩ := bind_eq_ok.mp indexed
      obtain ⟨added, stored, done⟩ := bind_eq_ok.mp last
      obtain rfl := Except.ok.inj done
      rw [List.foldl_append, ih earlier, (indexConstraint_ok.mp stored).2]
      rfl

/-- The pair may be rendered together. -/
def Permits (index : Props ConsistencyRelation) (key : JsString) : Prop :=
  index.lookup key = some .implication ∨ index.lookup key = some .compatible

theorem not_permits {index : Props ConsistencyRelation} {key : JsString} :
    ¬Permits index key ↔ index.lookup key = none ∨ index.lookup key = some .mutualExclusion := by
  unfold Permits
  cases found : index.lookup key with
  | none => simp
  | some relation => cases relation <;> simp

/-- A pair without a relaxation was permitted before when it is permitted after. -/
theorem permits_of_pairFinding {before : Props ConsistencyRelation} {key : JsString}
    {relation : ConsistencyRelation} (permissive : isPermissive relation = true)
    (clean : Clean (pairFinding before key relation)) : Permits before key := by
  have permitted : relation ≠ .mutualExclusion := by
    rintro rfl
    cases permissive
  unfold pairFinding at clean
  unfold Permits
  cases found : before.lookup key with
  | none => simp [found, permitted] at clean
  | some prior =>
      cases prior with
      | implication => exact .inl rfl
      | compatible => exact .inr rfl
      | mutualExclusion => simp [found, permitted.symm, permissive] at clean

section

variable {before after : List ConsistencyConstraint}
  {beforeIndex afterIndex : Props ConsistencyRelation} {validated : List ConsistencyClaim}

theorem permits_before (beforeIndexed : indexTable before = .ok beforeIndex)
    (afterIndexed : indexTable after = .ok afterIndex)
    (clean : IsTightening (classifyConsistencyTableDiff before after)) {key : JsString}
    (permitted : Permits afterIndex key) : Permits beforeIndex key := by
  rw [classifyConsistencyTableDiff, relationByPair_of_indexed beforeIndexed,
    relationByPair_of_indexed afterIndexed, isTightening_append, isTightening_filterMap] at clean
  obtain found | found := permitted
  · exact permits_of_pairFinding rfl (clean.1 _ (mem_of_lookup found))
  · exact permits_of_pairFinding rfl (clean.1 _ (mem_of_lookup found))

/-- A conflict stays a conflict when the table is tightened. -/
theorem conflicts_after
    (tightened : ∀ key, Permits afterIndex key → Permits beforeIndex key)
    {claimA claimB : ConsistencyClaim} (conflict : Conflicts beforeIndex claimA claimB) :
    Conflicts afterIndex claimA claimB := by
  obtain ⟨subject, same | ⟨apart, related⟩⟩ := conflict
  · exact ⟨subject, .inl same⟩
  · refine ⟨subject, .inr ⟨apart, not_permits.mp ?_⟩⟩
    intro permitted
    exact not_permits.mpr related (tightened _ permitted)

theorem suppressed_after
    (tightened : ∀ key, Permits afterIndex key → Permits beforeIndex key) {place : Nat}
    (lost : (gateMarks validated beforeIndex).suppressed place = true) :
    (gateMarks validated afterIndex).suppressed place = true := by
  obtain ⟨first, second, claimA, claimB, visited, cause⟩ := (gateMarks_suppressed _ _ place).mp lost
  refine (gateMarks_suppressed _ _ place).mpr ⟨first, second, claimA, claimB, visited, ?_⟩
  exact cause.imp_left fun conflict => ⟨conflicts_after tightened conflict.1, conflict.2⟩

theorem recorded_after
    (tightened : ∀ key, Permits afterIndex key → Permits beforeIndex key) {place : Nat}
    (recorded : ((gateMarks validated beforeIndex).recordByIndex place).isSome = true) :
    ((gateMarks validated afterIndex).recordByIndex place).isSome = true := by
  obtain ⟨first, second, claimA, claimB, visited, conflict, here⟩ :=
    (gateMarks_recorded _ _ place).mp recorded
  exact (gateMarks_recorded _ _ place).mpr
    ⟨first, second, claimA, claimB, visited, conflicts_after tightened conflict, here⟩

/-- A smaller selection keeps a part of the members in their order. -/
theorem membersAt_sublist {fewer more : Nat → Bool}
    (fits : ∀ place, fewer place = true → more place = true) :
    (membersAt validated fewer).Sublist (membersAt validated more) := by
  have kept : (validated.zipIdx.filter fun member => fewer member.2).Sublist
      (validated.zipIdx.filter fun member => more member.2) :=
    List.monotone_filter_right _ fun member => fits member.2
  exact kept.map Prod.fst

theorem renderable_sublist
    (tightened : ∀ key, Permits afterIndex key → Permits beforeIndex key) :
    (renderableOf validated (gateMarks validated afterIndex)).Sublist
      (renderableOf validated (gateMarks validated beforeIndex)) := by
  refine membersAt_sublist ?_
  intro place kept
  cases lost : (gateMarks validated beforeIndex).suppressed place with
  | false => rfl
  | true => simp [suppressed_after tightened lost] at kept

/-- Without a record after, there was none before. -/
theorem terminal_before
    (tightened : ∀ key, Permits afterIndex key → Permits beforeIndex key)
    (rendered : (assemble validated (gateMarks validated afterIndex)).terminal = .render) :
    (assemble validated (gateMarks validated beforeIndex)).terminal = .render := by
  rw [assemble_terminal, suppressions_eq_nil] at rendered ⊢
  have fewer := @membersAt_sublist validated _ _ fun place =>
    @recorded_after beforeIndex afterIndex validated tightened place
  rw [rendered] at fewer
  exact List.sublist_nil.mp fewer

end

/-- Two tables that index, with no relaxation between them: what the later one renders, the
earlier one rendered too. -/
theorem checkConsistency_tightened {before after : List ConsistencyConstraint}
    {beforeIndex afterIndex : Props ConsistencyRelation}
    (beforeIndexed : indexTable before = .ok beforeIndex)
    (afterIndexed : indexTable after = .ok afterIndex)
    (clean : IsTightening (classifyConsistencyTableDiff before after))
    (claims : List ConsistencyClaim) :
    ∃ earlier later, checkConsistency claims (some before) = .ok earlier ∧
      checkConsistency claims (some after) = .ok later ∧
      later.renderable.Sublist earlier.renderable ∧
      (later.terminal = .render → earlier.terminal = .render) := by
  have tightened (key : JsString) (permitted : Permits afterIndex key) : Permits beforeIndex key :=
    permits_before beforeIndexed afterIndexed clean permitted
  have checked {table : List ConsistencyConstraint} {index : Props ConsistencyRelation}
      (indexed : indexTable table = .ok index) : checkConsistency claims (some table) =
        .ok (assemble (validatedOf claims) (gateMarks (validatedOf claims) index)) := by
    rw [checkConsistency, consistencyMarks, tableOf, Option.getD_some, indexed, ok_bind, ok_bind]
  exact ⟨_, _, checked beforeIndexed, checked afterIndexed, renderable_sublist tightened,
    terminal_before tightened⟩

/-- The default table with one more exclusion and one permission withdrawn. -/
def tightenedTable : List ConsistencyConstraint :=
  [⟨"ORDER_FULFILLMENT_STAGE", "ORDER_ESTIMATED_ARRIVAL", .mutualExclusion⟩,
   ⟨"PURCHASE_COMPLETED", "PAYMENT_SETTLED", .implication⟩,
   ⟨"ORDER_MODIFIABLE", "ORDER_FULFILLMENT_STAGE", .mutualExclusion⟩,
   ⟨"ORDER_MODIFIABLE", "PAYMENT_SETTLED", .mutualExclusion⟩]

theorem checkConsistency_tightened_contested : ∃ earlier later,
    checkConsistency contestedClaims (some defaultConsistencyTable) = .ok earlier ∧
      checkConsistency contestedClaims (some tightenedTable) = .ok later ∧
      later.renderable.Sublist earlier.renderable ∧
      (later.terminal = .render → earlier.terminal = .render) := by
  have indexedBefore : indexTable defaultConsistencyTable =
      .ok (relationByPair defaultConsistencyTable) := by decide +kernel
  have indexedAfter : indexTable tightenedTable = .ok (relationByPair tightenedTable) := by
    decide +kernel
  have clean : IsTightening
      (classifyConsistencyTableDiff defaultConsistencyTable tightenedTable) := by decide +kernel
  exact checkConsistency_tightened indexedBefore indexedAfter clean contestedClaims

end Adjudicate.Claims
