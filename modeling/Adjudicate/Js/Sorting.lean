/-
This file models the stable sort of arrays by a key and the distinct items of arrays.
-/

import Mathlib.Data.List.Sort

namespace Adjudicate.Js

theorem eraseDups_nodup {A : Type} [BEq A] [LawfulBEq A] (items : List A) : items.eraseDups.Nodup := by
  induction size : items.length using Nat.strong_induction_on generalizing items with
  | _ count ih =>
      cases items with
      | nil => exact List.nodup_nil
      | cons item rest =>
          rw [List.eraseDups_cons, List.nodup_cons, List.mem_eraseDups]
          refine ⟨by simp, ?_⟩
          have shorter := List.length_filter_le (fun other => !other == item) rest
          rw [List.length_cons] at size
          exact ih _ (by omega) _ rfl

/-- The distinct items are the same for every order of the items. -/
theorem eraseDups_perm {A : Type} [BEq A] [LawfulBEq A] {left right : List A}
    (perm : left.Perm right) : left.eraseDups.Perm right.eraseDups := by
  refine (List.perm_ext_iff_of_nodup (eraseDups_nodup left) (eraseDups_nodup right)).mpr ?_
  intro item
  rw [List.mem_eraseDups, List.mem_eraseDups]
  exact perm.mem_iff

variable {A K : Type} [LinearOrder K] (key : A → K)

/-- This is `sort` with a comparator that is negative exactly on smaller keys. -/
def sortBy (items : List A) : List A :=
  items.insertionSort fun first second => key first ≤ key second

theorem sortBy_perm (items : List A) : (sortBy key items).Perm items :=
  List.perm_insertionSort _ _

@[simp] theorem mem_sortBy {items : List A} {item : A} : item ∈ sortBy key items ↔ item ∈ items :=
  (sortBy_perm key items).mem_iff

theorem sortBy_pairwise (items : List A) :
    (sortBy key items).Pairwise fun first second => key first ≤ key second := by
  have total : Std.Total fun first second : A => key first ≤ key second :=
    ⟨fun first second => le_total (key first) (key second)⟩
  have transitive : IsTrans A fun first second => key first ≤ key second :=
    ⟨fun _ _ _ => le_trans⟩
  exact List.pairwise_insertionSort _ items

/-- The sort keeps the order of the items with one key. -/
theorem sortBy_filter (shared : K) (items : List A) :
    (sortBy key items).filter (key · = shared) = items.filter (key · = shared) := by
  have total : Std.Total fun first second : A => key first ≤ key second :=
    ⟨fun first second => le_total (key first) (key second)⟩
  have transitive : IsTrans A fun first second => key first ≤ key second :=
    ⟨fun _ _ _ => le_trans⟩
  have tied : (items.filter (key · = shared)).Pairwise fun first second => key first ≤ key second := by
    apply List.pairwise_of_forall_mem_list
    intro first firstIn second secondIn
    have firstKey := (List.mem_filter.mp firstIn).2
    have secondKey := (List.mem_filter.mp secondIn).2
    rw [decide_eq_true_iff] at firstKey secondKey
    exact (firstKey.trans secondKey.symm).le
  have kept := (List.sublist_insertionSort tied List.filter_sublist).filter (key · = shared)
  simp only [List.filter_filter, Bool.and_self] at kept
  exact (kept.eq_of_length ((sortBy_perm key items).filter _).length_eq.symm).symm

/-- The sorted array forgets the order of the items when equal keys mean equal items. -/
theorem sortBy_congr {left right : List A} (perm : left.Perm right)
    (exact : ∀ first ∈ left, ∀ second ∈ left, key first = key second → first = second) :
    sortBy key left = sortBy key right := by
  have whole := (sortBy_perm key left).trans (perm.trans (sortBy_perm key right).symm)
  refine whole.eq_of_pairwise ?_ (sortBy_pairwise key left) (sortBy_pairwise key right)
  intro first second firstIn secondIn below above
  exact exact first ((mem_sortBy key).mp firstIn) second
    (perm.mem_iff.mpr ((mem_sortBy key).mp secondIn)) (le_antisymm below above)

/-- The order of the records shows through the sort exactly where two entries share a key. -/
theorem sortBy_filterMap_perm_iff {R : Type} [DecidableEq R] (entry : R → Option A)
    (records : List R) :
    (∀ other : List R, other.Perm records →
      sortBy key (other.filterMap entry) = sortBy key (records.filterMap entry)) ↔
      ∀ first ∈ records, ∀ second ∈ records, ∀ one ∈ entry first, ∀ two ∈ entry second,
        key one = key two → one = two := by
  constructor
  · intro stable first firstIn second secondIn one oneAt two twoAt tied
    -- The order that starts with a record shows its entry first among the entries of its key.
    have leading (record : R) (member : record ∈ records) (item : A) (itemAt : entry record = some item)
        (shared : key item = key two) :
        ((records.filterMap entry).filter (key · = key two)).head? = some item := by
      have sorted := congrArg (List.filter (key · = key two))
        (stable _ (List.perm_cons_erase member).symm)
      rw [sortBy_filter, sortBy_filter, List.filterMap_cons_some itemAt,
        List.filter_cons_of_pos (by simpa using shared)] at sorted
      rw [← sorted, List.head?_cons]
    have firstLeads := leading first firstIn one oneAt tied
    rw [leading second secondIn two twoAt rfl] at firstLeads
    exact (Option.some.inj firstLeads).symm
  · intro exact other perm
    refine sortBy_congr key (perm.filterMap entry) ?_
    intro one oneIn two twoIn tied
    obtain ⟨first, firstIn, oneAt⟩ := List.mem_filterMap.mp oneIn
    obtain ⟨second, secondIn, twoAt⟩ := List.mem_filterMap.mp twoIn
    exact exact first (perm.mem_iff.mp firstIn) second (perm.mem_iff.mp secondIn) one oneAt two twoAt tied

end Adjudicate.Js
