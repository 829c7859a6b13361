/-
This file shows which positions the consistency gate visits, suppresses and records.
-/

import Adjudicate.Claims.Consistency
import Mathlib.Data.List.Pairwise

namespace Adjudicate.Claims

open Js

/-- A property that each step keeps or adds holds at the end when it held or was added. -/
theorem foldl_iff {S X : Type} {step : S → X → S} {holds : S → Prop} {adds : X → Prop}
    {items : List X}
    (each : ∀ item ∈ items, ∀ state, holds (step state item) ↔ holds state ∨ adds item)
    (state : S) : holds (items.foldl step state) ↔ holds state ∨ ∃ item ∈ items, adds item := by
  induction items generalizing state with
  | nil => simp
  | cons item items ih =>
      rw [List.foldl_cons, ih fun other inside => each other (List.mem_cons_of_mem _ inside),
        each item List.mem_cons_self, or_assoc, List.exists_mem_cons_iff]

/-- An increasing list is paired off in increasing order. -/
theorem mem_unorderedPairs {positions : List Nat} (increasing : positions.Pairwise (· < ·))
    (first second : Nat) :
    (first, second) ∈ unorderedPairs positions ↔
      first ∈ positions ∧ second ∈ positions ∧ first < second := by
  induction positions with
  | nil => simp [unorderedPairs]
  | cons position rest ih =>
      obtain ⟨below, increasing⟩ := List.pairwise_cons.mp increasing
      rw [unorderedPairs, List.mem_append, ih increasing]
      simp only [List.mem_map, Prod.mk.injEq, List.mem_cons]
      constructor
      · intro paired
        obtain ⟨other, inside, rfl, rfl⟩ | ⟨inFirst, inSecond, ordered⟩ := paired
        · exact ⟨.inl rfl, .inr inside, below _ inside⟩
        · exact ⟨.inr inFirst, .inr inSecond, ordered⟩
      · intro ⟨inFirst, inSecond, ordered⟩
        obtain rfl | inFirst := inFirst
        · obtain rfl | inSecond := inSecond
          · omega
          · exact .inl ⟨_, inSecond, rfl, rfl⟩
        · obtain rfl | inSecond := inSecond
          · have above := below _ inFirst
            omega
          · exact .inr ⟨inFirst, inSecond, ordered⟩

section

variable (validated : List ConsistencyClaim)

/-- The positions of one subject. -/
def positionsOf (subject : JsString) : List Nat :=
  (validated.zipIdx.filter fun member => member.1.subject = subject).map Prod.snd

theorem mem_positionsOf {subject : JsString} {position : Nat} :
    position ∈ positionsOf validated subject ↔
      ∃ claim, validated[position]? = some claim ∧ claim.subject = subject := by
  simp only [positionsOf, List.mem_map, List.mem_filter, List.mem_zipIdx_iff_getElem?,
    decide_eq_true_eq]
  constructor
  · intro ⟨⟨claim, place⟩, ⟨found, same⟩, here⟩
    subst here
    exact ⟨claim, found, same⟩
  · intro ⟨claim, found, same⟩
    exact ⟨(claim, position), ⟨found, same⟩, rfl⟩

theorem positionsOf_increasing (subject : JsString) :
    (positionsOf validated subject).Pairwise (· < ·) := by
  have kept : (positionsOf validated subject).Sublist (validated.zipIdx.map Prod.snd) :=
    List.filter_sublist.map Prod.snd
  rw [List.zipIdx_map_snd] at kept
  exact List.Pairwise.sublist kept List.pairwise_lt_range'

theorem positionsOf_append (claim : ConsistencyClaim) (subject : JsString) :
    positionsOf (validated ++ [claim]) subject =
      positionsOf validated subject ++ if claim.subject = subject then [validated.length] else [] := by
  simp only [positionsOf, List.zipIdx_append, List.filter_append, List.map_append]
  split
  · rename_i same
    simp [same]
  · rename_i other
    simp [other]

/-- Each subject has one bucket, which holds its positions. -/
theorem lookup_bySubject :
    (keys (bySubject validated)).Nodup ∧ ∀ subject, (bySubject validated).lookup subject =
      if positionsOf validated subject = [] then none else some (positionsOf validated subject) := by
  induction validated using List.reverseRecOn with
  | nil => exact ⟨List.nodup_nil, fun subject => rfl⟩
  | append_singleton validated claim ih =>
      obtain ⟨distinct, buckets⟩ := ih
      have grown : bySubject (validated ++ [claim]) =
          setOwn (bySubject validated) claim.subject
            (((bySubject validated).lookup claim.subject).getD [] ++ [validated.length]) := by
        simp [bySubject, List.zipIdx_append]
      rw [grown]
      refine ⟨setOwn_nodup distinct _ _, ?_⟩
      intro subject
      rw [lookup_setOwn, positionsOf_append, buckets claim.subject, buckets subject]
      by_cases same : subject = claim.subject
      · subst same
        by_cases fresh : positionsOf validated claim.subject = []
        · simp [fresh]
        · simp [fresh]
      · simp [same, Ne.symm same]

/-- The gate visits every pair of places with one subject once, the earlier place first. -/
theorem mem_visitedPairs {first second : Nat} :
    (first, second) ∈ visitedPairs validated ↔
      first < second ∧ ∃ claimA claimB, validated[first]? = some claimA ∧
        validated[second]? = some claimB ∧ claimA.subject = claimB.subject := by
  obtain ⟨distinct, buckets⟩ := lookup_bySubject validated
  have bucket {subject : JsString} {positions : List Nat} :
      (subject, positions) ∈ bySubject validated ↔
        positionsOf validated subject ≠ [] ∧ positions = positionsOf validated subject := by
    rw [← lookup_eq_some distinct, buckets]
    by_cases empty : positionsOf validated subject = []
    · simp [empty]
    · rw [if_neg empty, Option.some.injEq, eq_comm]
      exact (and_iff_right empty).symm
  simp only [visitedPairs, List.mem_flatMap, Prod.exists, bucket]
  constructor
  · intro visited
    obtain ⟨subject, positions, ⟨-, rfl⟩, paired⟩ := visited
    obtain ⟨inFirst, inSecond, ordered⟩ :=
      (mem_unorderedPairs (positionsOf_increasing validated subject) _ _).mp paired
    obtain ⟨claimA, foundA, subjectA⟩ := (mem_positionsOf validated).mp inFirst
    obtain ⟨claimB, foundB, subjectB⟩ := (mem_positionsOf validated).mp inSecond
    exact ⟨ordered, claimA, claimB, foundA, foundB, subjectA.trans subjectB.symm⟩
  · intro ⟨ordered, claimA, claimB, foundA, foundB, same⟩
    have inFirst := (mem_positionsOf validated).mpr ⟨claimA, foundA, same⟩
    have inSecond := (mem_positionsOf validated).mpr ⟨claimB, foundB, rfl⟩
    exact ⟨claimB.subject, _, ⟨List.ne_nil_of_mem inFirst, rfl⟩,
      (mem_unorderedPairs (positionsOf_increasing validated _) _ _).mpr
        ⟨inFirst, inSecond, ordered⟩⟩

end

section

variable (index : Props ConsistencyRelation)

/-- Two claims of one subject and type say the same. -/
def Repeats (claimA claimB : ConsistencyClaim) : Prop :=
  claimA.subject = claimB.subject ∧ claimA.type = claimB.type ∧
    sameValue claimA.value claimB.value = true

/-- Two claims about one subject may not be rendered together. -/
def Conflicts (claimA claimB : ConsistencyClaim) : Prop :=
  claimA.subject = claimB.subject ∧
    (claimA.type = claimB.type ∧ sameValue claimA.value claimB.value = false ∨
      claimA.type ≠ claimB.type ∧
        (index.lookup (pairKey claimA.type claimB.type) = none ∨
          index.lookup (pairKey claimA.type claimB.type) = some .mutualExclusion))

theorem record_suppressed (marks : Marks) (position : Nat) (record : SuppressionRecord)
    (other : Nat) : (marks.record position record).suppressed other = true ↔
      marks.suppressed other = true ∨ other = position := by
  simp only [Marks.record, Function.update_apply]
  by_cases same : other = position <;> simp [same]

theorem record_recorded (marks : Marks) (position : Nat) (record : SuppressionRecord)
    (other : Nat) : ((marks.record position record).recordByIndex other).isSome = true ↔
      (marks.recordByIndex other).isSome = true ∨ other = position := by
  simp only [Marks.record]
  cases known : marks.recordByIndex position with
  | some old =>
      by_cases same : other = position
      · simp [same, known]
      · simp [same]
  | none =>
      simp only [Function.update_apply]
      by_cases same : other = position <;> simp [same]

/-- One visit suppresses and records both places of a conflict and suppresses a repetition. -/
theorem visitClaims_cases (marks : Marks) (iA iB : Nat) {claimA claimB : ConsistencyClaim}
    (subject : claimA.subject = claimB.subject) :
    (Conflicts index claimA claimB ∧ ¬Repeats claimA claimB ∧ ∃ reason,
      visitClaims index marks iA iB claimA claimB =
        suppressPair marks claimA.subject iA iB claimA.type claimB.type reason) ∨
    (¬Conflicts index claimA claimB ∧ Repeats claimA claimB ∧
      visitClaims index marks iA iB claimA claimB = marks.suppress iB) ∨
    (¬Conflicts index claimA claimB ∧ ¬Repeats claimA claimB ∧
      visitClaims index marks iA iB claimA claimB = marks) := by
  unfold visitClaims Conflicts Repeats
  by_cases type : claimA.type = claimB.type
  · cases same : sameValue claimA.value claimB.value with
    | true => simp [subject, type]
    | false => simp [subject, type]
  · cases declared : index.lookup (pairKey claimA.type claimB.type) with
    | none => simp [subject, type]
    | some relation => cases relation <;> simp [subject, type]

variable (validated : List ConsistencyClaim)

/-- The earlier and the later place of a visited pair with their claims. -/
def Visited (first second : Nat) (claimA claimB : ConsistencyClaim) : Prop :=
  first < second ∧ validated[first]? = some claimA ∧ validated[second]? = some claimB ∧
    claimA.subject = claimB.subject

theorem visitPair_visited {first second : Nat} {claimA claimB : ConsistencyClaim}
    (visited : Visited validated first second claimA claimB) (marks : Marks) :
    visitPair validated index marks (first, second) =
      visitClaims index marks first second claimA claimB := by
  obtain ⟨-, foundA, foundB, -⟩ := visited
  simp only [visitPair, foundA, foundB]

theorem visited_unique {first second : Nat} {claimA claimB otherA otherB : ConsistencyClaim}
    (visited : Visited validated first second claimA claimB)
    (again : Visited validated first second otherA otherB) :
    otherA = claimA ∧ otherB = claimB := by
  obtain ⟨-, foundA, foundB, -⟩ := visited
  obtain ⟨-, foundA', foundB', -⟩ := again
  exact ⟨Option.some.inj (foundA'.symm.trans foundA), Option.some.inj (foundB'.symm.trans foundB)⟩

/-- What one visit adds to a property of the marks, the whole walk adds pair by pair. -/
theorem gateMarks_iff {holds : Marks → Prop}
    {adds : Nat → Nat → ConsistencyClaim → ConsistencyClaim → Prop}
    (start : ¬holds Marks.start)
    (each : ∀ marks first second claimA claimB, claimA.subject = claimB.subject →
      (holds (visitClaims index marks first second claimA claimB) ↔
        holds marks ∨ adds first second claimA claimB)) :
    holds (gateMarks validated index) ↔ ∃ first second claimA claimB,
      Visited validated first second claimA claimB ∧ adds first second claimA claimB := by
  unfold gateMarks
  rw [@foldl_iff Marks (Nat × Nat) (visitPair validated index) holds
    (fun pair => ∃ claimA claimB, Visited validated pair.1 pair.2 claimA claimB ∧
      adds pair.1 pair.2 claimA claimB)]
  · rw [or_iff_right start]
    constructor
    · intro ⟨⟨first, second⟩, _, claimA, claimB, visited, added⟩
      exact ⟨first, second, claimA, claimB, visited, added⟩
    · intro ⟨first, second, claimA, claimB, visited, added⟩
      refine ⟨(first, second), ?_, claimA, claimB, visited, added⟩
      obtain ⟨ordered, foundA, foundB, subject⟩ := visited
      exact (mem_visitedPairs validated).mpr ⟨ordered, claimA, claimB, foundA, foundB, subject⟩
  · intro ⟨first, second⟩ inside marks
    obtain ⟨ordered, claimA, claimB, foundA, foundB, subject⟩ := (mem_visitedPairs validated).mp inside
    have visited : Visited validated first second claimA claimB :=
      ⟨ordered, foundA, foundB, subject⟩
    rw [visitPair_visited index validated visited, each _ _ _ _ _ subject]
    refine or_congr Iff.rfl ?_
    constructor
    · intro added
      exact ⟨claimA, claimB, visited, added⟩
    · intro ⟨otherA, otherB, again, added⟩
      obtain ⟨rfl, rfl⟩ := visited_unique validated visited again
      exact added

/-- A place is recorded when it takes part in a conflict. -/
theorem gateMarks_recorded (place : Nat) :
    ((gateMarks validated index).recordByIndex place).isSome = true ↔
      ∃ first second claimA claimB, Visited validated first second claimA claimB ∧
        Conflicts index claimA claimB ∧ (place = first ∨ place = second) := by
  refine @gateMarks_iff index validated
    (fun marks => (marks.recordByIndex place).isSome = true) _ Bool.false_ne_true ?_
  intro marks first second claimA claimB subject
  obtain ⟨conflicts, -, reason, visited⟩ | ⟨fine, -, visited⟩ | ⟨fine, -, visited⟩ :=
    visitClaims_cases index marks first second subject
  · rw [visited, suppressPair, record_recorded, record_recorded, or_assoc]
    simp [conflicts]
  · rw [visited]
    simp [fine, Marks.suppress]
  · rw [visited]
    simp [fine]

/-- A place is suppressed when it takes part in a conflict or repeats an earlier place. -/
theorem gateMarks_suppressed (place : Nat) :
    (gateMarks validated index).suppressed place = true ↔
      ∃ first second claimA claimB, Visited validated first second claimA claimB ∧
        (Conflicts index claimA claimB ∧ (place = first ∨ place = second) ∨
          Repeats claimA claimB ∧ place = second) := by
  refine @gateMarks_iff index validated
    (fun marks => marks.suppressed place = true) _ Bool.false_ne_true ?_
  intro marks first second claimA claimB subject
  obtain ⟨conflicts, fresh, reason, visited⟩ | ⟨fine, repeats, visited⟩ | ⟨fine, fresh, visited⟩ :=
    visitClaims_cases index marks first second subject
  · rw [visited, suppressPair, record_suppressed, record_suppressed, or_assoc]
    simp [conflicts, fresh]
  · rw [visited]
    simp only [Marks.suppress, Function.update_apply]
    by_cases later : place = second <;> simp [later, fine, repeats]
  · rw [visited]
    simp [fine, fresh]

end

end Adjudicate.Claims
