/-
This file shows that the consistency gate does not depend on the order of its claims.
-/

import Adjudicate.Claims.ConsistencyLaws
import Mathlib.Data.Multiset.MapFold

namespace Adjudicate.Claims

open Js

/-- The claims that say the same as the claim. -/
def classOf (claim : ConsistencyClaim) : Set ConsistencyClaim :=
  {other | HasDistinctNames other.value ∧ Repeats claim other}

theorem classOf_eq_iff {claimA claimB : ConsistencyClaim} (namesA : HasDistinctNames claimA.value)
    (namesB : HasDistinctNames claimB.value) :
    classOf claimA = classOf claimB ↔ Repeats claimA claimB := by
  constructor
  · intro same
    have inside : claimB ∈ classOf claimB := ⟨namesB, repeats_refl namesB⟩
    rw [← same] at inside
    exact inside.2
  · intro repeats
    ext other
    constructor
    · intro ⟨names, said⟩
      exact ⟨names, repeats_trans (repeats_symm namesA namesB repeats) said⟩
    · intro ⟨names, said⟩
      exact ⟨names, repeats_trans repeats said⟩

/-- Lists with the same classes are related, member by member, up to order. -/
theorem rel_repeats_of_classes {left right : List ConsistencyClaim}
    (namesLeft : ∀ claim ∈ left, HasDistinctNames claim.value)
    (namesRight : ∀ claim ∈ right, HasDistinctNames claim.value)
    (classes : (left.map classOf : Multiset (Set ConsistencyClaim)) = right.map classOf) :
    Multiset.Rel Repeats (left : Multiset ConsistencyClaim) right := by
  rw [← Multiset.map_coe, ← Multiset.map_coe, ← Multiset.rel_eq, Multiset.rel_map] at classes
  refine classes.mono ?_
  intro claimA inLeft claimB inRight same
  exact (classOf_eq_iff (namesLeft _ inLeft) (namesRight _ inRight)).mp same

section

variable {index : Props ConsistencyRelation} {validated permuted : List ConsistencyClaim}

theorem contested_perm (perm : validated.Perm permuted) (claim : ConsistencyClaim) :
    Contested index permuted claim ↔ Contested index validated claim :=
  exists_congr fun _ => and_congr perm.symm.mem_iff Iff.rfl

/-- The renderable classes are those of the uncontested claims. -/
theorem mem_renderable_classes (names : ∀ claim ∈ validated, HasDistinctNames claim.value)
    (said : Set ConsistencyClaim) :
    said ∈ (renderableOf validated (gateMarks validated index)).map classOf ↔
      ∃ claim ∈ validated, ¬Contested index validated claim ∧ classOf claim = said := by
  rw [List.mem_map]
  constructor
  · intro ⟨claim, rendered, same⟩
    obtain ⟨place, found, kept⟩ := mem_membersAt.mp rendered
    refine ⟨claim, List.mem_of_getElem? found, ?_, same⟩
    intro contested
    have lost := (suppressed_iff place).mpr (.inl ((recorded_iff names found).mpr contested))
    simp [lost] at kept
  · intro ⟨claim, inside, uncontested, same⟩
    obtain ⟨place, first, found, repeats, kept⟩ := uncontested_rendered names inside uncontested
    refine ⟨first, mem_membersAt.mpr ⟨place, found, by simp [kept]⟩, ?_⟩
    rw [← same]
    exact (classOf_eq_iff (names _ (List.mem_of_getElem? found)) (names _ inside)).mpr repeats

theorem renderable_subset {selects : Nat → Bool} {claim : ConsistencyClaim}
    (inside : claim ∈ membersAt validated selects) : claim ∈ validated := by
  obtain ⟨place, found, -⟩ := mem_membersAt.mp inside
  exact List.mem_of_getElem? found

theorem renderable_classes_nodup (names : ∀ claim ∈ validated, HasDistinctNames claim.value) :
    ((renderableOf validated (gateMarks validated index)).map classOf).Nodup := by
  rw [List.Nodup, List.pairwise_map]
  refine List.Pairwise.imp_of_mem ?_ renderable_pairwise
  intro claimA claimB inA inB apart same
  exact apart.1 ((classOf_eq_iff (names _ (renderable_subset inA))
    (names _ (renderable_subset inB))).mp same)

/-- The renderable classes do not depend on the order. -/
theorem renderable_classes_perm (names : ∀ claim ∈ validated, HasDistinctNames claim.value)
    (perm : validated.Perm permuted) :
    ((renderableOf validated (gateMarks validated index)).map classOf).Perm
      ((renderableOf permuted (gateMarks permuted index)).map classOf) := by
  have namesPermuted : ∀ claim ∈ permuted, HasDistinctNames claim.value :=
    fun claim inside => names claim (perm.mem_iff.mpr inside)
  rw [List.perm_ext_iff_of_nodup (renderable_classes_nodup names)
    (renderable_classes_nodup namesPermuted)]
  intro said
  rw [mem_renderable_classes names, mem_renderable_classes namesPermuted]
  refine exists_congr fun claim => and_congr perm.mem_iff (and_congr ?_ Iff.rfl)
  rw [contested_perm perm]

/-- The selected and the remaining members make up the whole list. -/
theorem membersAt_partition (selects : Nat → Bool) :
    (membersAt validated selects ++ membersAt validated fun place => !selects place).Perm
      validated := by
  have parts := (List.filter_append_perm (fun member : ConsistencyClaim × Nat => selects member.2)
    validated.zipIdx).map Prod.fst
  rwa [List.map_append, List.zipIdx_map_fst] at parts

/-- What is not rendered does not depend on the order either. -/
theorem suppressed_classes_perm (names : ∀ claim ∈ validated, HasDistinctNames claim.value)
    (perm : validated.Perm permuted) :
    ((membersAt validated (gateMarks validated index).suppressed).map classOf :
        Multiset (Set ConsistencyClaim)) =
      (membersAt permuted (gateMarks permuted index).suppressed).map classOf := by
  have whole (claims : List ConsistencyClaim) :
      ((membersAt claims (gateMarks claims index).suppressed).map classOf :
          Multiset (Set ConsistencyClaim)) +
        (renderableOf claims (gateMarks claims index)).map classOf = claims.map classOf := by
    rw [Multiset.coe_add, ← List.map_append, Multiset.coe_eq_coe]
    exact (membersAt_partition _).map classOf
  have rendered : ((renderableOf validated (gateMarks validated index)).map classOf :
      Multiset (Set ConsistencyClaim)) =
        (renderableOf permuted (gateMarks permuted index)).map classOf :=
    Multiset.coe_eq_coe.mpr (renderable_classes_perm names perm)
  have total : (validated.map classOf : Multiset (Set ConsistencyClaim)) = permuted.map classOf :=
    Multiset.coe_eq_coe.mpr (perm.map classOf)
  rw [← whole validated, ← whole permuted, rendered] at total
  exact add_right_cancel total

open Classical in
/-- The recorded members are the contested ones, in any order. -/
theorem recorded_perm (names : ∀ claim ∈ validated, HasDistinctNames claim.value)
    (perm : validated.Perm permuted) :
    (membersAt validated fun place =>
        ((gateMarks validated index).recordByIndex place).isSome).Perm
      (membersAt permuted fun place =>
        ((gateMarks permuted index).recordByIndex place).isSome) := by
  have contestedOf (claims : List ConsistencyClaim)
      (namesOf : ∀ claim ∈ claims, HasDistinctNames claim.value) :
      (membersAt claims fun place => ((gateMarks claims index).recordByIndex place).isSome) =
        claims.filter fun claim => Contested index claims claim := by
    refine membersAt_eq_filter ?_
    intro place claim found
    rw [Bool.eq_iff_iff, recorded_iff namesOf found, decide_eq_true_eq]
  rw [contestedOf validated names,
    contestedOf permuted fun claim inside => names claim (perm.mem_iff.mpr inside)]
  simp only [contested_perm perm]
  exact perm.filter _

end

end Adjudicate.Claims
