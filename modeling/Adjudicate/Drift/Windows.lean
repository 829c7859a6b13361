/-
This file relates the counters of the drift detector to the streams of keys it has seen.
-/

import Adjudicate.Drift.Detector
import Mathlib.Data.List.DropRight

namespace Adjudicate.Drift

open Js

section Baseline

variable {max : Nat} {seen : List JsString} {counter : Counter} {key : JsString}

/-- These are the categories that get a counter of their own. -/
def admitted (max : Nat) (seen : List JsString) : List JsString := seen.eraseDups.take max

/-- A counter has the admitted categories and the bucket once it was needed. -/
structure Folds (max : Nat) (seen : List JsString) (counter : Counter) : Prop where
  room : min counter.size max = min seen.eraseDups.length max
  known : ∀ key, key ∈ counter.entries.map Prod.fst ↔
    key ∈ admitted max seen ∨ key = overflow ∧ max < seen.eraseDups.length
  positive : ∀ key count, counter.get key = some count → 0 < count
  sum : (counter.entries.map Prod.snd).sum = seen.length

theorem eraseDups_concat (seen : List JsString) (key : JsString) :
    (seen ++ [key]).eraseDups =
      if key ∈ seen then seen.eraseDups else seen.eraseDups ++ [key] := by
  rw [List.eraseDups_append]
  split
  · next old => simp [List.removeAll, old]
  · next fresh =>
      have alone : [key].removeAll seen = [key] := by simp [List.removeAll, fresh]
      rw [alone]
      rfl

theorem admitted_concat_of_full (full : max ≤ seen.eraseDups.length) :
    admitted max (seen ++ [key]) = admitted max seen := by
  rw [admitted, eraseDups_concat]
  split
  · rfl
  · exact List.take_append_of_le_length full

theorem mem_of_admitted (inside : key ∈ admitted max seen) : key ∈ seen :=
  List.mem_eraseDups.mp (List.mem_of_mem_take inside)

/-- A category is left out only when the cap is exceeded. -/
theorem overflows_of_mem (old : key ∈ seen) (outside : key ∉ admitted max seen) :
    max < seen.eraseDups.length := by
  by_contra fits
  rw [admitted, List.take_of_length_le (not_lt.mp fits)] at outside
  exact outside (List.mem_eraseDups.mpr old)

theorem folds_nil : Folds max [] .empty where
  room := rfl
  known key := by simp [admitted, InsertionMap.empty]
  positive key count found := by cases found
  sum := rfl

theorem get_set_positive {counter : Counter} {key : JsString} {value : Nat}
    (positive : ∀ key count, counter.get key = some count → 0 < count) (raised : 0 < value)
    (other : JsString) (count : Nat) (found : (counter.set key value).get other = some count) :
    0 < count := by
  by_cases same : other = key
  · subst same
    rw [InsertionMap.get_set_self] at found
    exact Option.some.inj found ▸ raised
  · rw [InsertionMap.get_set_of_ne same] at found
    exact positive other count found

/-- Each further key is counted under its category or in the bucket. -/
theorem Folds.add (folds : Folds max seen counter) (key : JsString) :
    Folds max (seen ++ [key]) (add counter key max) := by
  obtain ⟨room, known, positive, sum⟩ := folds
  have length : (seen ++ [key]).length = seen.length + 1 := List.length_append
  rw [Drift.add]
  cases found : counter.get key with
  | some count =>
      dsimp only
      have stored : key ∈ counter.entries.map Prod.fst :=
        List.mem_map_of_mem (InsertionMap.get_eq_some_iff.mp found)
      have added := counter.sum_set key (count + 1)
      rw [found, Option.getD_some] at added
      -- The category is an old one, or the bucket itself after an overflow.
      have kept : admitted max (seen ++ [key]) = admitted max seen ∧
          (max < (seen ++ [key]).eraseDups.length ↔ max < seen.eraseDups.length) ∧
          min (seen ++ [key]).eraseDups.length max = min seen.eraseDups.length max := by
        by_cases old : key ∈ seen
        · rw [admitted, eraseDups_concat, if_pos old]
          exact ⟨rfl, Iff.rfl, rfl⟩
        · rcases (known key).mp stored with inside | ⟨-, overflowed⟩
          · exact absurd (mem_of_admitted inside) old
          · refine ⟨admitted_concat_of_full overflowed.le, ?_⟩
            rw [eraseDups_concat, if_neg old, List.length_append, List.length_singleton]
            omega
      refine ⟨?_, ?_, get_set_positive positive count.succ_pos, by omega⟩
      · rw [InsertionMap.size_set_of_mem stored, kept.2.2, room]
      · intro other
        rw [InsertionMap.mem_keys_set, kept.1, kept.2.1, ← known other]
        exact ⟨Or.rec (fun same => same ▸ stored) id, .inr⟩
  | none =>
      dsimp only
      have fresh : key ∉ counter.entries.map Prod.fst := InsertionMap.get_eq_none_iff.mp found
      split
      · next spare =>
          have unseen : key ∉ seen := by
            intro old
            have outside : key ∉ admitted max seen := fun inside =>
              fresh ((known key).mpr (.inl inside))
            have := overflows_of_mem old outside
            omega
          have added := counter.sum_set key 1
          rw [found, Option.getD_none] at added
          refine ⟨?_, ?_, get_set_positive positive Nat.one_pos, by omega⟩
          · rw [InsertionMap.size_set_of_notMem fresh, eraseDups_concat, if_neg unseen,
              List.length_append, List.length_singleton]
            omega
          · intro other
            have fits : seen.eraseDups.length < max := by omega
            have before := known other
            rw [admitted, List.take_of_length_le fits.le] at before
            rw [InsertionMap.mem_keys_set, before, admitted, eraseDups_concat, if_neg unseen,
              List.take_of_length_le (by simpa using fits), List.mem_append, List.mem_singleton,
              List.length_append, List.length_singleton]
            have under : ¬max < seen.eraseDups.length + 1 := by omega
            have below : ¬max < seen.eraseDups.length := by omega
            tauto
      · next full =>
          have added := counter.sum_set overflow ((counter.get overflow).getD 0 + 1)
          have exceeded : max < (seen ++ [key]).eraseDups.length := by
            rw [eraseDups_concat]
            split
            · next old => exact overflows_of_mem old fun inside => fresh ((known key).mpr (.inl inside))
            · rw [List.length_append, List.length_singleton]
              omega
          have reached : max ≤ seen.eraseDups.length := by omega
          refine ⟨?_, ?_, get_set_positive positive (Nat.succ_pos _), by omega⟩
          · have larger : counter.size ≤ (counter.set overflow
                ((counter.get overflow).getD 0 + 1)).size := by
              by_cases there : overflow ∈ counter.entries.map Prod.fst
              · rw [InsertionMap.size_set_of_mem there]
              · rw [InsertionMap.size_set_of_notMem there]
                exact Nat.le_succ _
            omega
          · intro other
            rw [InsertionMap.mem_keys_set, known other, admitted_concat_of_full reached]
            constructor
            · rintro (same | inside | ⟨same, -⟩)
              · exact .inr ⟨same, exceeded⟩
              · exact .inl inside
              · exact .inr ⟨same, exceeded⟩
            · rintro (inside | ⟨same, -⟩)
              · exact .inr (.inl inside)
              · exact .inl same

end Baseline

section Recent

variable {keys : List JsString} {counter : Counter} {recentWindow : Nat}

/-- A counter has the counts of a queue of keys. -/
def Counts (keys : List JsString) (counter : Counter) : Prop :=
  ∀ key, counter.get key = if keys.count key = 0 then none else some (keys.count key)

theorem counts_nil : Counts [] .empty := fun _ => rfl

theorem Counts.getD (counts : Counts keys counter) (key : JsString) :
    (counter.get key).getD 0 = keys.count key := by
  rw [counts key]
  split
  · next zero => exact zero.symm
  · rfl

theorem Counts.push (counts : Counts keys counter) (key : JsString) :
    Counts (keys ++ [key]) (counter.set key ((counter.get key).getD 0 + 1)) := by
  intro other
  rw [counts.getD, List.count_append]
  by_cases same : other = key
  · subst same
    rw [InsertionMap.get_set_self, List.count_singleton_self, if_neg (Nat.succ_ne_zero _)]
  · have apart : [key].count other = 0 :=
      List.count_eq_zero_of_not_mem fun inside => same (List.mem_singleton.mp inside)
    rw [InsertionMap.get_set_of_ne same, counts other, apart, Nat.add_zero]

/-- The oldest key takes its count with it. -/
theorem Counts.shift {evicted : JsString} (counts : Counts (evicted :: keys) counter) :
    Counts keys (if (counter.get evicted).getD 0 - 1 = 0 then counter.delete evicted
      else counter.set evicted ((counter.get evicted).getD 0 - 1)) := by
  have left : (counter.get evicted).getD 0 - 1 = keys.count evicted := by
    rw [counts.getD, List.count_cons_self]
    rfl
  rw [left]
  intro other
  by_cases same : other = evicted
  · subst same
    split
    · exact InsertionMap.get_delete_self _ _
    · exact InsertionMap.get_set_self _ _ _
  · have kept : counter.get other =
        if keys.count other = 0 then none else some (keys.count other) := by
      rw [counts other, List.count_cons_of_ne (Ne.symm same)]
    rw [← kept]
    split
    · exact InsertionMap.get_delete_of_ne same
    · exact InsertionMap.get_set_of_ne same

/-- The loop leaves the newest keys with their counts. -/
theorem evict_counts (counts : Counts keys counter) :
    (evict recentWindow keys counter).1 = keys.rtake recentWindow ∧
      Counts (keys.rtake recentWindow) (evict recentWindow keys counter).2 := by
  induction keys generalizing counter with
  | nil =>
      rw [List.rtake_nil, evict]
      exact ⟨rfl, counts⟩
  | cons evicted rest ih =>
      rw [evict]
      split
      · next long =>
          have tail : (evicted :: rest).rtake recentWindow = rest.rtake recentWindow := by
            rw [List.rtake, List.rtake, List.length_cons, Nat.succ_sub (Nat.le_of_lt_succ long),
              List.drop_succ_cons]
          rw [tail]
          exact ih counts.shift
      · next short =>
          have whole : (evicted :: rest).rtake recentWindow = evicted :: rest := by
            rw [List.rtake, Nat.sub_eq_zero_of_le (not_lt.mp short), List.drop_zero]
          rw [whole]
          exact ⟨rfl, counts⟩

theorem rtake_concat (stream : List JsString) (key : JsString) (size : Nat) :
    (stream.rtake size ++ [key]).rtake size = (stream ++ [key]).rtake size := by
  cases size with
  | zero => rw [List.rtake_zero, List.rtake_zero]
  | succ size =>
      rw [List.rtake_concat_succ, List.rtake_concat_succ, List.rtake_eq_reverse_take_reverse,
        List.rtake_eq_reverse_take_reverse, List.rtake_eq_reverse_take_reverse,
        List.reverse_reverse, List.take_take, Nat.min_eq_left (Nat.le_succ size)]

end Recent

end Adjudicate.Drift
