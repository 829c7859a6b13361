/-
This file puts together what the consistency gate guarantees for every table that indexes.
-/

import Adjudicate.Claims.ConsistencyOrder

namespace Adjudicate.Claims

open Js

/-- The separator of a pair key does not occur in the name. -/
def NulFree (text : JsString) : Prop := (0 : CodeUnit) ∉ text

instance (text : JsString) : Decidable (NulFree text) := inferInstanceAs (Decidable (_ ∉ _))

/-- A pair key determines its unordered pair. -/
theorem pairKey_injective {typeA typeB otherA otherB : JsString} (freeA : NulFree typeA)
    (freeB : NulFree typeB) (same : pairKey typeA typeB = pairKey otherA otherB) :
    typeA = otherA ∧ typeB = otherB ∨ typeA = otherB ∧ typeB = otherA := by
  have parts {a b c d : JsString} (left : NulFree a) (right : NulFree b)
      (joined : a ++ 0 :: b = c ++ 0 :: d) : a = c ∧ b = d := by
    obtain ⟨first, -, second⟩ := (List.append_cons_inj_of_notMem left right).mp joined
    exact ⟨first, second⟩
  unfold pairKey at same
  split at same <;> split at same
  · exact .inl (parts freeA freeB same)
  · exact .inr (parts freeA freeB same)
  · exact .inr (parts freeB freeA same).symm
  · exact .inl (parts freeB freeA same).symm

/-- A constraint is indexed when its pair has no other relation yet. -/
theorem indexConstraint_ok {before index : Props ConsistencyRelation}
    {constraint : ConsistencyConstraint} :
    indexConstraint before constraint = .ok index ↔
      (∀ relation, before.lookup (pairKey constraint.typeA constraint.typeB) = some relation →
        relation = constraint.relation) ∧
      index = setOwn before (pairKey constraint.typeA constraint.typeB) constraint.relation := by
  unfold indexConstraint
  cases known : before.lookup (pairKey constraint.typeA constraint.typeB) with
  | none => simp [known, eq_comm]
  | some existing =>
      by_cases same : existing = constraint.relation
      · simp [known, same, eq_comm]
      · simp [known, same]

/-- A table that indexes is read back through its keys. -/
theorem indexTable_lookup {table : List ConsistencyConstraint} {index : Props ConsistencyRelation}
    (indexed : indexTable table = .ok index) :
    (∀ constraint ∈ table,
      index.lookup (pairKey constraint.typeA constraint.typeB) = some constraint.relation) ∧
    ∀ key relation, index.lookup key = some relation → ∃ constraint ∈ table,
      pairKey constraint.typeA constraint.typeB = key ∧ constraint.relation = relation := by
  unfold indexTable at indexed
  induction table using List.reverseRecOn generalizing index with
  | nil =>
      obtain rfl := Except.ok.inj indexed
      exact ⟨nofun, nofun⟩
  | append_singleton table constraint ih =>
      rw [List.foldlM_append] at indexed
      obtain ⟨before, earlier, last⟩ := bind_eq_ok.mp indexed
      obtain ⟨reads, stems⟩ := ih earlier
      obtain ⟨added, stored, done⟩ := bind_eq_ok.mp last
      obtain rfl := Except.ok.inj done
      obtain ⟨agrees, grown⟩ := indexConstraint_ok.mp stored
      subst grown
      constructor
      · intro other inside
        rw [lookup_setOwn]
        obtain older | rfl := List.mem_append.mp inside |>.imp_right List.mem_singleton.mp
        · split
          · rename_i same
            rw [← agrees other.relation (same ▸ reads other older)]
          · exact reads other older
        · simp
      · intro key relation found
        rw [lookup_setOwn] at found
        split at found
        · rename_i same
          exact ⟨constraint, by simp, same.symm, Option.some.inj found⟩
        · obtain ⟨other, inside, named, related⟩ := stems key relation found
          exact ⟨other, List.mem_append_left _ inside, named, related⟩

/-- The table lets the two types be rendered together. -/
def Declared (table : List ConsistencyConstraint) (typeA typeB : JsString) : Prop :=
  ∃ constraint ∈ table,
    (constraint.typeA = typeA ∧ constraint.typeB = typeB ∨
      constraint.typeA = typeB ∧ constraint.typeB = typeA) ∧
    (constraint.relation = .implication ∨ constraint.relation = .compatible)

section

variable {table : List ConsistencyConstraint} {index : Props ConsistencyRelation}
  {validated : List ConsistencyClaim}

/-- Members that neither repeat nor contradict each other have a declared relation. -/
theorem declared_of_apart (indexed : indexTable table = .ok index)
    (free : ∀ constraint ∈ table, NulFree constraint.typeA ∧ NulFree constraint.typeB)
    {claimA claimB : ConsistencyClaim} (fresh : ¬Repeats claimA claimB)
    (fine : ¬Conflicts index claimA claimB) (subject : claimA.subject = claimB.subject) :
    claimA.type ≠ claimB.type ∧ Declared table claimA.type claimB.type := by
  have type : claimA.type ≠ claimB.type := by
    intro type
    cases same : sameValue claimA.value claimB.value with
    | true => exact fresh ⟨subject, type, same⟩
    | false => exact fine ⟨subject, .inl ⟨type, same⟩⟩
  refine ⟨type, ?_⟩
  have permitted := not_or.mp fun relation => fine ⟨subject, .inr ⟨type, relation⟩⟩
  cases found : index.lookup (pairKey claimA.type claimB.type) with
  | none => exact absurd found permitted.1
  | some relation =>
      obtain ⟨constraint, inside, named, related⟩ := (indexTable_lookup indexed).2 _ _ found
      obtain ⟨freeA, freeB⟩ := free constraint inside
      refine ⟨constraint, inside, pairKey_injective freeA freeB named, ?_⟩
      rw [related]
      cases relation with
      | mutualExclusion => exact absurd found permitted.2
      | implication => exact .inl rfl
      | compatible => exact .inr rfl

theorem record_recordByIndex {marks : Marks} {position other : Nat}
    {record found : SuppressionRecord}
    (known : (marks.record position record).recordByIndex other = some found) :
    marks.recordByIndex other = some found ∨ other = position ∧ found = record := by
  simp only [Marks.record] at known
  cases old : marks.recordByIndex position with
  | some earlier =>
      rw [old] at known
      exact .inl known
  | none =>
      rw [old] at known
      simp only [Function.update_apply] at known
      split at known
      · rename_i here
        exact .inr ⟨here, (Option.some.inj known).symm⟩
      · exact .inl known

theorem mem_conflictTypes (typeA typeB : JsString) :
    typeA ∈ conflictTypes typeA typeB ∧ typeB ∈ conflictTypes typeA typeB := by
  unfold conflictTypes
  split
  · rename_i same
    simp [same]
  · split <;> simp

/-- Every record names the subject and the type of the claim at its place. -/
theorem record_names {place : Nat} {record : SuppressionRecord}
    (recorded : (gateMarks validated index).recordByIndex place = some record) :
    ∃ claim, validated[place]? = some claim ∧ record.subject = claim.subject ∧
      claim.type ∈ record.conflictTypes := by
  let Fits (marks : Marks) : Prop := ∀ place record, marks.recordByIndex place = some record →
    ∃ claim, validated[place]? = some claim ∧ record.subject = claim.subject ∧
      claim.type ∈ record.conflictTypes
  have fits : Fits (gateMarks validated index) := by
    refine List.foldlRecOn (motive := Fits) _ _ nofun ?_
    intro marks kept pair inside
    obtain ⟨first, second⟩ := pair
    obtain ⟨ordered, claimA, claimB, foundA, foundB, subject⟩ :=
      (mem_visitedPairs validated).mp inside
    have types := mem_conflictTypes claimA.type claimB.type
    rw [visitPair_visited index validated ⟨ordered, foundA, foundB, subject⟩]
    intro other found known
    obtain ⟨-, -, reason, visited⟩ | ⟨-, -, visited⟩ | ⟨-, -, visited⟩ :=
      visitClaims_cases index marks first second subject
    · rw [visited] at known
      obtain known | ⟨rfl, rfl⟩ := record_recordByIndex known
      · obtain known | ⟨rfl, rfl⟩ := record_recordByIndex known
        · exact kept other found known
        · exact ⟨claimA, foundA, rfl, types.1⟩
      · exact ⟨claimB, foundB, subject, types.2⟩
    · rw [visited] at known
      exact kept other found known
    · rw [visited] at known
      exact kept other found known
  exact fits place record recorded

end

/-- The result carries the record of the place, which names the claim's subject and type. -/
def Recorded (marks : Marks) (result : ConsistencyResult) (place : Nat) (claim : ConsistencyClaim) :
    Prop :=
  ∃ record ∈ result.suppressions, marks.recordByIndex place = some record ∧
    record.subject = claim.subject ∧ claim.type ∈ record.conflictTypes

def Rendered (marks : Marks) (result : ConsistencyResult) (place : Nat) (claim : ConsistencyClaim) :
    Prop :=
  marks.suppressed place = false ∧ claim ∈ result.renderable

/-- Two lists hold the same claims up to order and equal values. -/
def SameClaims (left right : List ConsistencyClaim) : Prop :=
  Multiset.Rel Repeats (left : Multiset ConsistencyClaim) right

def suppressedMembers (claims : List ConsistencyClaim) (marks : Marks) : List ConsistencyClaim :=
  membersAt (validatedOf claims) marks.suppressed

def recordedMembers (claims : List ConsistencyClaim) (marks : Marks) : List ConsistencyClaim :=
  membersAt (validatedOf claims) fun place => (marks.recordByIndex place).isSome

/-- What the gate guarantees for a list of claims, its marks and its result. -/
structure Guarantees (claims : List ConsistencyClaim)
    (options : Option (List ConsistencyConstraint)) (marks : Marks) (result : ConsistencyResult) :
    Prop where
  consistent : result.renderable.Pairwise fun claimA claimB => claimA.subject = claimB.subject →
    claimA.type ≠ claimB.type ∧ Declared (tableOf options) claimA.type claimB.type
  accounted : ∀ place claim, (validatedOf claims)[place]? = some claim →
    Rendered marks result place claim ∨ Recorded marks result place claim ∨
      ∃ other same, (validatedOf claims)[other]? = some same ∧ Repeats same claim ∧
        (Rendered marks result other same ∨ Recorded marks result other same)
  terminal : result.terminal = .render ↔ result.suppressions = []
  validatedOnly : ∀ others, validatedOf others = validatedOf claims →
    checkConsistency others options = checkConsistency claims options
  unordered : ∀ others, claims.Perm others → ∃ otherMarks other,
    consistencyMarks others options = .ok otherMarks ∧
    checkConsistency others options = .ok other ∧ other.terminal = result.terminal ∧
    SameClaims result.renderable other.renderable ∧
    SameClaims (suppressedMembers claims marks) (suppressedMembers others otherMarks) ∧
    SameClaims (recordedMembers claims marks) (recordedMembers others otherMarks)

section

variable {claims : List ConsistencyClaim} {options : Option (List ConsistencyConstraint)}
  {index : Props ConsistencyRelation} {validated : List ConsistencyClaim}

/-- The suppressions are the records of the recorded members. -/
theorem suppressions_eq_nil :
    (assemble validated (gateMarks validated index)).suppressions = [] ↔
      (membersAt validated fun place =>
        ((gateMarks validated index).recordByIndex place).isSome) = [] := by
  rw [List.eq_nil_iff_forall_not_mem, List.eq_nil_iff_forall_not_mem]
  constructor
  · intro none_recorded claim inside
    obtain ⟨place, found, recorded⟩ := mem_membersAt.mp inside
    obtain ⟨record, known⟩ := Option.isSome_iff_exists.mp recorded
    refine none_recorded record (List.mem_filterMap.mpr ⟨place, ?_, known⟩)
    exact List.mem_range.mpr (List.getElem?_eq_some_iff.mp found).1
  · intro none_recorded record inside
    obtain ⟨place, -, known⟩ := List.mem_filterMap.mp inside
    obtain ⟨claim, found, -⟩ := record_names known
    exact none_recorded claim (mem_membersAt.mpr ⟨place, found, by simp [known]⟩)

theorem assemble_renderable (marks : Marks) :
    (assemble validated marks).renderable = renderableOf validated marks := rfl

theorem assemble_terminal (marks : Marks) :
    (assemble validated marks).terminal = .render ↔
      (assemble validated marks).suppressions = [] := by
  unfold assemble
  simp only [List.length_eq_zero_iff]
  split <;> simp_all

theorem assemble_terminal_escalate (marks : Marks) :
    (assemble validated marks).terminal = .render ∨
      (assemble validated marks).terminal = .escalate := by
  unfold assemble
  simp only
  split <;> simp

/-- The terminal does not depend on the order. -/
theorem terminal_perm {permuted : List ConsistencyClaim}
    (names : ∀ claim ∈ validated, HasDistinctNames claim.value)
    (perm : validated.Perm permuted) :
    (assemble permuted (gateMarks permuted index)).terminal =
      (assemble validated (gateMarks validated index)).terminal := by
  have recorded := @recorded_perm index validated permuted names perm
  have same : (assemble permuted (gateMarks permuted index)).terminal = .render ↔
      (assemble validated (gateMarks validated index)).terminal = .render := by
    rw [assemble_terminal, assemble_terminal, suppressions_eq_nil, suppressions_eq_nil]
    constructor
    · intro empty
      exact (empty ▸ recorded).eq_nil
    · intro empty
      exact (empty ▸ recorded.symm).eq_nil
  obtain one | one := @assemble_terminal_escalate permuted (gateMarks permuted index)
  · exact one.trans (same.mp one).symm
  · obtain two | two := @assemble_terminal_escalate validated (gateMarks validated index)
    · exact (same.mpr two).trans two.symm
    · exact one.trans two.symm

/-- Every validated claim is rendered, recorded, or said by a claim that is. -/
theorem accounted_of_gate (names : ∀ claim ∈ validated, HasDistinctNames claim.value)
    {place : Nat} {claim : ConsistencyClaim} (found : validated[place]? = some claim) :
    Recorded (gateMarks validated index) (assemble validated (gateMarks validated index)) place
        claim ∨
      ∃ other same, validated[other]? = some same ∧ Repeats same claim ∧
        Rendered (gateMarks validated index) (assemble validated (gateMarks validated index)) other
          same := by
  by_cases contested : Contested index validated claim
  · left
    obtain ⟨record, known⟩ := Option.isSome_iff_exists.mp ((recorded_iff names found).mpr contested)
    obtain ⟨named, found', subject, type⟩ := record_names known
    obtain rfl := Option.some.inj (found.symm.trans found')
    refine ⟨record, List.mem_filterMap.mpr ⟨place, ?_, known⟩, known, subject, type⟩
    exact List.mem_range.mpr (List.getElem?_eq_some_iff.mp found).1
  · right
    obtain ⟨other, same, found', repeats, kept⟩ :=
      uncontested_rendered names (List.mem_of_getElem? found) contested
    refine ⟨other, same, found', repeats, kept, ?_⟩
    rw [assemble_renderable]
    exact mem_membersAt.mpr ⟨other, found', by simp [kept]⟩

/-- Every list of claims has a result that keeps the guarantees. -/
theorem checkConsistency_guarantees {marks : Marks}
    (names : ∀ claim ∈ claims, HasDistinctNames claim.value)
    (free : ∀ constraint ∈ tableOf options, NulFree constraint.typeA ∧ NulFree constraint.typeB)
    (marked : consistencyMarks claims options = .ok marks) :
    ∃ result, checkConsistency claims options = .ok result ∧
      Guarantees claims options marks result := by
  obtain ⟨index, indexed, walked⟩ := bind_eq_ok.mp marked
  obtain rfl := Except.ok.inj walked
  have marksOf (others : List ConsistencyClaim) :
      consistencyMarks others options = .ok (gateMarks (validatedOf others) index) := by
    rw [consistencyMarks, indexed, ok_bind]
  have resultOf (others : List ConsistencyClaim) : checkConsistency others options =
      .ok (assemble (validatedOf others) (gateMarks (validatedOf others) index)) := by
    rw [checkConsistency, marksOf, ok_bind]
  have namesOf : ∀ claim ∈ validatedOf claims, HasDistinctNames claim.value :=
    fun claim inside => names claim (List.mem_filter.mp inside).1
  refine ⟨_, resultOf claims, ?_⟩
  constructor
  · refine renderable_pairwise.imp ?_
    intro claimA claimB ⟨fresh, fine⟩ subject
    exact declared_of_apart indexed free fresh fine subject
  · intro place claim found
    obtain recorded | ⟨other, same, found', repeats, rendered⟩ := accounted_of_gate namesOf found
    · exact .inr (.inl recorded)
    · exact .inr (.inr ⟨other, same, found', repeats, .inl rendered⟩)
  · exact assemble_terminal _
  · intro others same
    rw [resultOf, resultOf, same]
  · intro others perm
    have validatedPerm : (validatedOf claims).Perm (validatedOf others) := perm.filter _
    have namesOthers : ∀ claim ∈ validatedOf others, HasDistinctNames claim.value :=
      fun claim inside => namesOf claim (validatedPerm.mem_iff.mpr inside)
    refine ⟨_, _, marksOf others, resultOf others, terminal_perm namesOf validatedPerm, ?_, ?_, ?_⟩
    · rw [assemble_renderable, assemble_renderable]
      exact rel_repeats_of_classes (fun _ inside => namesOf _ (renderable_subset inside))
        (fun _ inside => namesOthers _ (renderable_subset inside))
        (Multiset.coe_eq_coe.mpr (renderable_classes_perm namesOf validatedPerm))
    · exact rel_repeats_of_classes (fun _ inside => namesOf _ (renderable_subset inside))
        (fun _ inside => namesOthers _ (renderable_subset inside))
        (suppressed_classes_perm namesOf validatedPerm)
    · exact rel_repeats_of_classes (fun _ inside => namesOf _ (renderable_subset inside))
        (fun _ inside => namesOthers _ (renderable_subset inside))
        (Multiset.coe_eq_coe.mpr ((recorded_perm namesOf validatedPerm).map classOf))

end

/-- One subject with a stage and an arrival that exclude each other, and a third claim. -/
def contestedClaims : List ConsistencyClaim :=
  [⟨"order-1", "ORDER_FULFILLMENT_STAGE", .validated, .str "packed"⟩,
   ⟨"order-1", "ORDER_ESTIMATED_ARRIVAL", .validated, .str "today"⟩,
   ⟨"order-1", "ORDER_MODIFIABLE", .unknown, .bool true⟩,
   ⟨"order-2", "ORDER_MODIFIABLE", .validated, .bool true⟩]

theorem checkConsistency_guarantees_contested : ∃ marks result,
    consistencyMarks contestedClaims none = .ok marks ∧
    checkConsistency contestedClaims none = .ok result ∧
    Guarantees contestedClaims none marks result := by
  have names : ∀ claim ∈ contestedClaims, HasDistinctNames claim.value := by
    intro claim inside
    simp only [contestedClaims, List.mem_cons, List.not_mem_nil, or_false] at inside
    obtain rfl | rfl | rfl | rfl := inside <;> exact trivial
  have free : ∀ constraint ∈ tableOf none,
      NulFree constraint.typeA ∧ NulFree constraint.typeB := by decide +kernel
  have indexed : indexTable (tableOf none) = .ok
      [(pairKey "ORDER_FULFILLMENT_STAGE" "ORDER_ESTIMATED_ARRIVAL", .mutualExclusion),
       (pairKey "PURCHASE_COMPLETED" "PAYMENT_SETTLED", .implication),
       (pairKey "ORDER_FULFILLMENT_STAGE" "ORDER_MODIFIABLE", .compatible)] := by decide +kernel
  have marked := congrArg (· >>= fun index => Except.ok
    (gateMarks (validatedOf contestedClaims) index)) indexed
  obtain ⟨result, checked, guarantees⟩ := checkConsistency_guarantees names free marked
  exact ⟨_, result, marked, checked, guarantees⟩

end Adjudicate.Claims
