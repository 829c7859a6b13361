/-
This file develops what happened in a history since something else last happened.
-/

import Mathlib.Data.Set.Function
import Mathlib.Data.List.Basic

namespace Adjudicate.Effect

variable {A : Type}

/-- A granting entry occurs, and every entry after it holds. -/
def Since (holds grants : A → Prop) (seen : List A) : Prop :=
  ∃ early grant late, seen = early ++ grant :: late ∧ grants grant ∧ ∀ entry ∈ late, holds entry

section Since

variable {holds grants : A → Prop} {seen : List A}

theorem since_append {later : List A} (before : Since holds grants seen)
    (calm : ∀ entry ∈ later, holds entry) : Since holds grants (seen ++ later) := by
  obtain ⟨early, grant, late, rfl, granted, after⟩ := before
  refine ⟨early, grant, late ++ later, by simp, granted, ?_⟩
  exact List.forall_mem_append.mpr ⟨after, calm⟩

theorem since_concat {entry : A} (before : Since holds grants seen) (calm : holds entry) :
    Since holds grants (seen ++ [entry]) :=
  since_append before (by simpa using calm)

theorem since_last {entry : A} (granted : grants entry) : Since holds grants (seen ++ [entry]) :=
  ⟨seen, entry, [], rfl, granted, by simp⟩

/-- A granting entry among entries that hold is recent. -/
theorem since_of_mem {later : List A} {grant : A} (inside : grant ∈ later) (granted : grants grant)
    (calm : ∀ entry ∈ later, holds entry) : Since holds grants (seen ++ later) := by
  obtain ⟨early, late, rfl⟩ := List.append_of_mem inside
  refine ⟨seen ++ early, grant, late, by simp, granted, ?_⟩
  intro entry member
  exact calm entry (List.mem_append_right early (List.mem_cons_of_mem grant member))

theorem Since.imp {still more : A → Prop} (before : Since holds grants seen)
    (weaker : ∀ entry, holds entry → still entry) (other : ∀ entry, grants entry → more entry) :
    Since still more seen := by
  obtain ⟨early, grant, late, split, granted, after⟩ := before
  exact ⟨early, grant, late, split, other grant granted, fun entry inside => weaker _ (after _ inside)⟩

theorem Since.mono {more : A → Prop} (before : Since holds grants seen)
    (weaker : ∀ entry, grants entry → more entry) : Since holds more seen :=
  before.imp (fun _ still => still) weaker

/-- The grant has a position that only entries that hold come after. -/
theorem Since.position (before : Since holds grants seen) :
    ∃ (i : Nat) (grant : A), seen[i]? = some grant ∧ grants grant ∧
      ∀ (j : Nat) (entry : A), i < j → seen[j]? = some entry → holds entry := by
  obtain ⟨early, grant, late, rfl, granted, after⟩ := before
  refine ⟨early.length, grant, by simp, granted, ?_⟩
  intro j entry above found
  apply after
  obtain ⟨offset, rfl⟩ : ∃ offset, j = early.length + (offset + 1) := ⟨j - early.length - 1, by omega⟩
  rw [List.getElem?_append_right (by omega)] at found
  have inside : late[offset]? = some entry := by simpa using found
  exact List.mem_of_getElem? inside

end Since

/-- Uses that each have a grant since the last use have grants of their own. -/
theorem exists_ownGrants {events : List A} {uses : A → Prop} {grants : A → A → Prop}
    (granted : ∀ early use late, events = early ++ use :: late → uses use →
      Since (fun entry => ¬uses entry) (fun grant => grants grant use) early) :
    ∃ source : Nat → Nat,
      Set.InjOn source {i | ∃ use, events[i]? = some use ∧ uses use} ∧
      ∀ i use, events[i]? = some use → uses use →
        source i < i ∧ ∃ grant, events[source i]? = some grant ∧ grants grant use := by
  have each (i : Nat) : ∃ j, ∀ use, events[i]? = some use → uses use →
      j < i ∧ (∃ grant, events[j]? = some grant ∧ grants grant use) ∧
        ∀ k entry, j < k → k < i → events[k]? = some entry → ¬uses entry := by
    by_cases used : ∃ use, events[i]? = some use ∧ uses use
    · obtain ⟨use, found, isUse⟩ := used
      obtain ⟨inside, same⟩ := List.getElem?_eq_some_iff.mp found
      have split : events = events.take i ++ use :: events.drop (i + 1) := by
        rw [← same, ← List.drop_eq_getElem_cons inside, List.take_append_drop]
      obtain ⟨j, grant, at_j, granted, after⟩ := (granted _ _ _ split isUse).position
      have below : j < i := by
        obtain ⟨bound, -⟩ := List.getElem?_eq_some_iff.mp at_j
        rw [List.length_take] at bound
        omega
      refine ⟨j, ?_⟩
      intro other found' _
      obtain rfl := Option.some.inj (found.symm.trans found')
      refine ⟨below, ⟨grant, ?_, granted⟩, ?_⟩
      · rwa [List.getElem?_take_of_lt below] at at_j
      · intro k entry above under found''
        apply after k entry above
        rwa [List.getElem?_take_of_lt under]
    · exact ⟨0, fun use found isUse => absurd ⟨use, found, isUse⟩ used⟩
  choose source each using each
  refine ⟨source, ?_, fun i use found isUse => ?_⟩
  · have apart {i j : Nat} (used : ∃ use, events[i]? = some use ∧ uses use)
        (later : ∃ use, events[j]? = some use ∧ uses use) (below : i < j) : source i < source j := by
      obtain ⟨first, at_i, isFirst⟩ := used
      obtain ⟨second, at_j, isSecond⟩ := later
      obtain ⟨early, -⟩ := each i first at_i isFirst
      obtain ⟨-, -, calm⟩ := each j second at_j isSecond
      by_contra crossed
      exact calm i first (by omega) below at_i isFirst
    intro i used j later same
    rcases Nat.lt_trichotomy i j with below | rfl | above
    · have := apart used later below
      omega
    · rfl
    · have := apart later used above
      omega
  · obtain ⟨below, grant, -⟩ := each i use found isUse
    exact ⟨below, grant⟩

end Adjudicate.Effect
