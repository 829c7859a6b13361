/-
This file proves what the consistency gate promises about every set of claims.
-/

import Adjudicate.Claims.ConsistencyGate
import Mathlib.Data.Multiset.ZeroCons

namespace Adjudicate.Claims

open Js

theorem pairKey_comm (typeA typeB : JsString) : pairKey typeA typeB = pairKey typeB typeA := by
  unfold pairKey
  by_cases lower : typeA ≤ typeB <;> by_cases upper : typeB ≤ typeA
  · rw [le_antisymm lower upper]
  · simp [lower, upper]
  · simp [lower, upper]
  · exact absurd (le_total typeA typeB) (by simp [lower, upper])

section

variable {index : Props ConsistencyRelation} {validated : List ConsistencyClaim}

theorem repeats_refl {claim : ConsistencyClaim} (names : HasDistinctNames claim.value) :
    Repeats claim claim := ⟨rfl, rfl, sameValue_refl _ names⟩

theorem repeats_symm {claimA claimB : ConsistencyClaim} (namesA : HasDistinctNames claimA.value)
    (namesB : HasDistinctNames claimB.value) (repeats : Repeats claimA claimB) :
    Repeats claimB claimA :=
  ⟨repeats.1.symm, repeats.2.1.symm, sameValue_symm _ _ namesA namesB repeats.2.2⟩

theorem repeats_trans {first second third : ConsistencyClaim} (lower : Repeats first second)
    (upper : Repeats second third) : Repeats first third :=
  ⟨lower.1.trans upper.1, lower.2.1.trans upper.2.1, sameValue_trans _ _ _ lower.2.2 upper.2.2⟩

theorem conflicts_symm {claimA claimB : ConsistencyClaim} (namesA : HasDistinctNames claimA.value)
    (namesB : HasDistinctNames claimB.value) (conflicts : Conflicts index claimA claimB) :
    Conflicts index claimB claimA := by
  obtain ⟨subject, ⟨type, differs⟩ | ⟨type, relation⟩⟩ := conflicts
  · refine ⟨subject.symm, .inl ⟨type.symm, ?_⟩⟩
    cases same : sameValue claimB.value claimA.value with
    | false => rfl
    | true => simp [sameValue_symm _ _ namesB namesA same] at differs
  · rw [pairKey_comm] at relation
    exact ⟨subject.symm, .inr ⟨Ne.symm type, relation⟩⟩

/-- A conflict carries over to everything that repeats one side of it. -/
theorem conflicts_congr {claimA claimB other : ConsistencyClaim}
    (conflicts : Conflicts index claimA other) (repeats : Repeats claimA claimB) :
    Conflicts index claimB other := by
  obtain ⟨sameSubject, sameType, sameValues⟩ := repeats
  obtain ⟨subject, ⟨type, differs⟩ | ⟨type, relation⟩⟩ := conflicts
  · refine ⟨sameSubject ▸ subject, .inl ⟨sameType ▸ type, ?_⟩⟩
    cases same : sameValue claimB.value other.value with
    | false => rfl
    | true => simp [sameValue_trans _ _ _ sameValues same] at differs
  · exact ⟨sameSubject ▸ subject, .inr (sameType ▸ ⟨type, relation⟩)⟩

/-- Some validated claim conflicts with the claim. -/
def Contested (index : Props ConsistencyRelation) (validated : List ConsistencyClaim)
    (claim : ConsistencyClaim) : Prop :=
  ∃ other ∈ validated, Conflicts index claim other

/-- A place is recorded exactly when its claim is contested. -/
theorem recorded_iff (names : ∀ claim ∈ validated, HasDistinctNames claim.value) {place : Nat}
    {claim : ConsistencyClaim} (found : validated[place]? = some claim) :
    ((gateMarks validated index).recordByIndex place).isSome = true ↔
      Contested index validated claim := by
  rw [gateMarks_recorded]
  constructor
  · intro ⟨first, second, claimA, claimB, ⟨ordered, foundA, foundB, subject⟩, conflicts, here⟩
    have inA := List.mem_of_getElem? foundA
    have inB := List.mem_of_getElem? foundB
    obtain rfl | rfl := here
    · obtain rfl := Option.some.inj (found.symm.trans foundA)
      exact ⟨claimB, inB, conflicts⟩
    · obtain rfl := Option.some.inj (found.symm.trans foundB)
      exact ⟨claimA, inA, conflicts_symm (names _ inA) (names _ inB) conflicts⟩
  · intro ⟨other, inside, conflicts⟩
    obtain ⟨there, found'⟩ := List.getElem?_of_mem inside
    have inClaim := List.mem_of_getElem? found
    obtain before | rfl | after := lt_trichotomy place there
    · exact ⟨place, there, claim, other, ⟨before, found, found', conflicts.1⟩, conflicts, .inl rfl⟩
    · -- A claim does not conflict with itself.
      obtain rfl := Option.some.inj (found.symm.trans found')
      obtain ⟨-, ⟨-, differs⟩ | ⟨type, -⟩⟩ := conflicts
      · simp [sameValue_refl _ (names _ inClaim)] at differs
      · exact absurd rfl type
    · have turned := conflicts_symm (names _ inClaim) (names _ inside) conflicts
      exact ⟨there, place, other, claim, ⟨after, found', found, turned.1⟩, turned, .inr rfl⟩

/-- A place is suppressed when it is recorded or repeats an earlier place. -/
theorem suppressed_iff (place : Nat) :
    (gateMarks validated index).suppressed place = true ↔
      ((gateMarks validated index).recordByIndex place).isSome = true ∨
        ∃ first claimA claimB, Visited validated first place claimA claimB ∧
          Repeats claimA claimB := by
  rw [gateMarks_suppressed, gateMarks_recorded]
  constructor
  · intro ⟨first, second, claimA, claimB, visited, marked⟩
    obtain ⟨conflicts, here⟩ | ⟨repeats, rfl⟩ := marked
    · exact .inl ⟨first, second, claimA, claimB, visited, conflicts, here⟩
    · exact .inr ⟨first, claimA, claimB, visited, repeats⟩
  · intro marked
    obtain ⟨first, second, claimA, claimB, visited, conflict⟩ | ⟨first, claimA, claimB, visited, repeats⟩ :=
      marked
    · exact ⟨first, second, claimA, claimB, visited, .inl conflict⟩
    · exact ⟨first, place, claimA, claimB, visited, .inr ⟨repeats, rfl⟩⟩

theorem mem_membersAt {selects : Nat → Bool} {claim : ConsistencyClaim} :
    claim ∈ membersAt validated selects ↔
      ∃ place, validated[place]? = some claim ∧ selects place = true := by
  simp only [membersAt, List.mem_map, List.mem_filter, List.mem_zipIdx_iff_getElem?, Prod.exists,
    exists_and_right, exists_eq_right]

/-- Selecting by a property of the claim is filtering. -/
theorem membersAt_eq_filter {selects : Nat → Bool} {keep : ConsistencyClaim → Bool}
    (agree : ∀ place claim, validated[place]? = some claim → selects place = keep claim) :
    membersAt validated selects = validated.filter keep := by
  have same : validated.zipIdx.filter (fun member => selects member.2) =
      validated.zipIdx.filter (keep ∘ Prod.fst) := by
    refine List.filter_congr ?_
    intro member inside
    exact agree member.2 member.1 (List.mem_zipIdx_iff_getElem?.mp inside)
  rw [membersAt, same, ← List.filter_map, List.zipIdx_map_fst]

/-- Members at different places keep the order of their places. -/
theorem membersAt_pairwise {selects : Nat → Bool}
    {relation : ConsistencyClaim → ConsistencyClaim → Prop}
    (each : ∀ first second claimA claimB, first < second → validated[first]? = some claimA →
      validated[second]? = some claimB → selects first = true → selects second = true →
      relation claimA claimB) : (membersAt validated selects).Pairwise relation := by
  have ordered : validated.zipIdx.Pairwise fun before after => before.2 < after.2 := by
    rw [← List.pairwise_map (R := (· < ·)), List.zipIdx_map_snd]
    exact List.pairwise_lt_range'
  rw [membersAt, List.pairwise_map]
  refine List.Pairwise.imp_of_mem ?_ (ordered.filter _)
  intro before after inBefore inAfter earlier
  obtain ⟨foundA, keptA⟩ := List.mem_filter.mp inBefore
  obtain ⟨foundB, keptB⟩ := List.mem_filter.mp inAfter
  exact each before.2 after.2 before.1 after.1 earlier (List.mem_zipIdx_iff_getElem?.mp foundA)
    (List.mem_zipIdx_iff_getElem?.mp foundB) keptA keptB

/-- The claims that are neither contested nor repeated earlier. -/
def renderableOf (validated : List ConsistencyClaim) (marks : Marks) : List ConsistencyClaim :=
  membersAt validated fun place => !marks.suppressed place

theorem renderable_pairwise :
    (renderableOf validated (gateMarks validated index)).Pairwise fun claimA claimB =>
      ¬Repeats claimA claimB ∧ ¬Conflicts index claimA claimB := by
  refine membersAt_pairwise ?_
  intro first second claimA claimB ordered foundA foundB keptA keptB
  simp only [Bool.not_eq_eq_eq_not, Bool.not_true] at keptA keptB
  constructor
  · intro repeats
    have lost := (gateMarks_suppressed index validated second).mpr
      ⟨first, second, claimA, claimB, ⟨ordered, foundA, foundB, repeats.1⟩, .inr ⟨repeats, rfl⟩⟩
    simp [keptB] at lost
  · intro conflicts
    have lost := (gateMarks_suppressed index validated second).mpr
      ⟨first, second, claimA, claimB, ⟨ordered, foundA, foundB, conflicts.1⟩,
        .inl ⟨conflicts, .inr rfl⟩⟩
    simp [keptB] at lost

/-- An uncontested claim is said once, at the first of the places that say it. -/
theorem uncontested_rendered (names : ∀ claim ∈ validated, HasDistinctNames claim.value)
    {claim : ConsistencyClaim} (inside : claim ∈ validated)
    (uncontested : ¬Contested index validated claim) :
    ∃ (place : Nat) (first : ConsistencyClaim), validated[place]? = some first ∧
      Repeats first claim ∧ (gateMarks validated index).suppressed place = false := by
  classical
  have said : ∃ (place : Nat) (first : ConsistencyClaim), validated[place]? = some first ∧
      Repeats first claim := by
    obtain ⟨place, found⟩ := List.getElem?_of_mem inside
    exact ⟨place, claim, found, repeats_refl (names claim inside)⟩
  obtain ⟨first, found, repeats⟩ := Nat.find_spec said
  refine ⟨Nat.find said, first, found, repeats, ?_⟩
  by_contra lost
  have inFirst := List.mem_of_getElem? found
  obtain recorded | ⟨earlier, claimA, claimB, ⟨ordered, foundA, foundB, -⟩, again⟩ :=
    (suppressed_iff _).mp (Bool.not_eq_false _ ▸ lost)
  · obtain ⟨other, inOther, conflicts⟩ := (recorded_iff names found).mp recorded
    exact uncontested ⟨other, inOther, conflicts_congr conflicts repeats⟩
  · obtain rfl := Option.some.inj (found.symm.trans foundB)
    exact Nat.find_min said ordered ⟨claimA, foundA, repeats_trans again repeats⟩

end

end Adjudicate.Claims
