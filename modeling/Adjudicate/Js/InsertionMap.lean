/-
This file develops maps that keep the order in which their keys were inserted.
-/

import Mathlib

namespace Adjudicate.Js

/-- Every key has one entry. -/
structure InsertionMap (K V : Type) where
  entries : List (K × V)
  distinct : (entries.map Prod.fst).Nodup

namespace InsertionMap

variable {K V : Type} [DecidableEq K]

def empty : InsertionMap K V := ⟨[], List.nodup_nil⟩

def get (map : InsertionMap K V) (key : K) : Option V := map.entries.lookup key

def size (map : InsertionMap K V) : Nat := map.entries.length

/-- This is the key that was inserted first. -/
def oldest (map : InsertionMap K V) : Option K := map.entries.head?.map Prod.fst

def delete (map : InsertionMap K V) (key : K) : InsertionMap K V where
  entries := map.entries.filter fun entry => entry.1 ≠ key
  distinct := map.distinct.sublist (List.filter_sublist.map Prod.fst)

theorem replace_keys (entries : List (K × V)) (key : K) (value : V) :
    (entries.map fun entry => if entry.1 = key then (key, value) else entry).map Prod.fst =
      entries.map Prod.fst := by
  rw [List.map_map]
  apply List.map_congr_left
  intro entry _
  rw [Function.comp_apply]
  split
  · next same => exact same.symm
  · rfl

/-- A known key keeps its place. -/
def set (map : InsertionMap K V) (key : K) (value : V) : InsertionMap K V :=
  if known : key ∈ map.entries.map Prod.fst then
    { entries := map.entries.map fun entry => if entry.1 = key then (key, value) else entry
      distinct := (replace_keys map.entries key value).symm ▸ map.distinct }
  else
    { entries := map.entries ++ [(key, value)]
      distinct := by
        rw [List.map_append, List.nodup_append]
        refine ⟨map.distinct, List.nodup_singleton _, ?_⟩
        intro other member last same
        rw [List.mem_singleton.mp same]
        exact fun equal : other = key => known (equal ▸ member) }

/-- This inserts an entry anew at the end. -/
def touch (map : InsertionMap K V) (key : K) (value : V) : InsertionMap K V :=
  (map.delete key).set key value

variable {map : InsertionMap K V} {key other : K} {value : V}

@[simp] theorem get_empty (key : K) : (empty : InsertionMap K V).get key = none := rfl

theorem lookup_eq_none {entries : List (K × V)} (absent : key ∉ entries.map Prod.fst) :
    entries.lookup key = none := by
  rw [List.lookup_eq_none_iff]
  intro entry member
  rw [bne_iff_ne]
  rintro rfl
  exact absent (List.mem_map_of_mem member)

theorem get_eq_none_iff : map.get key = none ↔ key ∉ map.entries.map Prod.fst := by
  constructor
  · intro absent member
    obtain ⟨entry, inside, rfl⟩ := List.mem_map.mp member
    have other := List.lookup_eq_none_iff.mp absent entry inside
    exact absurd rfl (bne_iff_ne.mp other)
  · exact lookup_eq_none

/-- The entry of a key is the one that is found. -/
theorem get_eq_some_iff : map.get key = some value ↔ (key, value) ∈ map.entries := by
  obtain ⟨entries, distinct⟩ := map
  unfold get
  induction entries with
  | nil => exact ⟨nofun, nofun⟩
  | cons entry rest ih =>
      obtain ⟨first, stored⟩ := entry
      obtain ⟨absent, others⟩ := List.nodup_cons.mp distinct
      rw [List.lookup_cons]
      by_cases same : key = first
      · subst same
        rw [beq_self_eq_true]
        constructor
        · rintro ⟨⟩
          exact List.mem_cons_self
        · intro member
          obtain equal | later := List.mem_cons.mp member
          · cases equal
            rfl
          · exact absurd (List.mem_map_of_mem later) absent
      · rw [beq_eq_false_iff_ne.mpr same]
        refine (ih others).trans ⟨List.mem_cons_of_mem _, ?_⟩
        intro member
        obtain equal | later := List.mem_cons.mp member
        · cases equal
          exact absurd rfl same
        · exact later

/-- Two maps with the same entries of a key find the same value. -/
theorem get_congr {left right : InsertionMap K V}
    (same : ∀ value, (key, value) ∈ left.entries ↔ (key, value) ∈ right.entries) :
    left.get key = right.get key := by
  apply Option.ext
  intro value
  rw [get_eq_some_iff, get_eq_some_iff]
  exact same value

@[simp] theorem get_delete_self (map : InsertionMap K V) (key : K) :
    (map.delete key).get key = none := by
  rw [get_eq_none_iff]
  intro member
  obtain ⟨entry, inside, same⟩ := List.mem_map.mp member
  exact of_decide_eq_true (List.mem_filter.mp inside).2 same

theorem get_delete_of_ne (apart : other ≠ key) : (map.delete key).get other = map.get other := by
  refine get_congr fun value => ?_
  rw [delete, List.mem_filter]
  exact ⟨fun inside => inside.1, fun inside => ⟨inside, decide_eq_true apart⟩⟩

@[simp] theorem get_set_self (map : InsertionMap K V) (key : K) (value : V) :
    (map.set key value).get key = some value := by
  rw [get_eq_some_iff, set]
  split
  · next known =>
      obtain ⟨entry, inside, same⟩ := List.mem_map.mp known
      exact List.mem_map.mpr ⟨entry, inside, if_pos same⟩
  · exact List.mem_append_right _ (List.mem_singleton_self _)

theorem get_set_of_ne (apart : other ≠ key) : (map.set key value).get other = map.get other := by
  refine get_congr fun found => ?_
  rw [set]
  split
  · constructor
    · intro member
      obtain ⟨entry, inside, same⟩ := List.mem_map.mp member
      split at same
      · cases same
        exact absurd rfl apart
      · rw [← same]
        exact inside
    · intro inside
      exact List.mem_map.mpr ⟨_, inside, if_neg apart⟩
  · rw [List.mem_append, List.mem_singleton]
    refine ⟨fun member => member.resolve_right ?_, .inl⟩
    intro equal
    exact apart (Prod.mk.inj equal).1

theorem mem_keys_set : other ∈ (map.set key value).entries.map Prod.fst ↔
    other = key ∨ other ∈ map.entries.map Prod.fst := by
  rw [set]
  split
  · next known =>
      rw [replace_keys]
      exact ⟨.inr, Or.rec (fun same => same ▸ known) id⟩
  · rw [List.map_append, List.mem_append, List.map_singleton, List.mem_singleton]
    exact or_comm

theorem size_set_of_mem (known : key ∈ map.entries.map Prod.fst) :
    (map.set key value).size = map.size := by
  rw [size, set, dif_pos known]
  exact List.length_map _

theorem size_set_of_notMem (absent : key ∉ map.entries.map Prod.fst) :
    (map.set key value).size = map.size + 1 := by
  rw [size, set, dif_neg absent]
  exact List.length_append

/-- The entry of a known key stands alone among the others. -/
theorem exists_split (found : map.get key = some value) :
    ∃ front back, map.entries = front ++ (key, value) :: back ∧
      (∀ entry ∈ front, entry.1 ≠ key) ∧ ∀ entry ∈ back, entry.1 ≠ key := by
  obtain ⟨front, back, split⟩ := List.append_of_mem (get_eq_some_iff.mp found)
  have distinct := map.distinct
  rw [split, List.map_append, List.map_cons, List.nodup_middle, List.nodup_cons,
    ← List.map_append] at distinct
  have others : ∀ entry ∈ front ++ back, entry.1 ≠ key := fun entry entryIn equal =>
    distinct.1 (List.mem_map.mpr ⟨entry, entryIn, equal⟩)
  exact ⟨front, back, split, List.forall_mem_append.mp others⟩

/-- An entry that is set replaces the amount of its key in the sum. -/
theorem sum_set (map : InsertionMap K Nat) (key : K) (value : Nat) :
    ((map.set key value).entries.map Prod.snd).sum + (map.get key).getD 0 =
      (map.entries.map Prod.snd).sum + value := by
  cases found : map.get key with
  | none =>
      rw [set, dif_neg (get_eq_none_iff.mp found), List.map_append, List.sum_append]
      simp
  | some old =>
      have known : key ∈ map.entries.map Prod.fst :=
        List.mem_map_of_mem (get_eq_some_iff.mp found)
      have entries : (map.set key value).entries =
          map.entries.map fun entry => if entry.1 = key then (key, value) else entry := by
        rw [set, dif_pos known]
      have kept (part : List (K × Nat)) (apart : ∀ entry ∈ part, entry.1 ≠ key) :
          (part.map fun entry => if entry.1 = key then (key, value) else entry) = part :=
        (List.map_congr_left fun entry entryIn => if_neg (apart entry entryIn)).trans
          (List.map_id part)
      obtain ⟨front, back, split, early, late⟩ := exists_split found
      rw [entries, split, List.map_append, List.map_cons, if_pos rfl, kept front early,
        kept back late]
      simp only [List.map_append, List.map_cons, List.sum_append, List.sum_cons, Option.getD_some]
      omega

theorem sum_delete (map : InsertionMap K Nat) (key : K) :
    ((map.delete key).entries.map Prod.snd).sum + (map.get key).getD 0 =
      (map.entries.map Prod.snd).sum := by
  have kept (part : List (K × Nat)) (apart : ∀ entry ∈ part, entry.1 ≠ key) :
      part.filter (fun entry => entry.1 ≠ key) = part :=
    List.filter_eq_self.mpr fun entry entryIn => decide_eq_true (apart entry entryIn)
  have entries : (map.delete key).entries = map.entries.filter fun entry => entry.1 ≠ key := rfl
  rw [entries]
  cases found : map.get key with
  | none =>
      rw [kept map.entries fun entry entryIn same =>
        get_eq_none_iff.mp found (List.mem_map.mpr ⟨entry, entryIn, same⟩)]
      rfl
  | some old =>
      obtain ⟨front, back, split, early, late⟩ := exists_split found
      rw [split, List.filter_append, List.filter_cons_of_neg (by simp), kept front early,
        kept back late]
      simp only [List.map_append, List.map_cons, List.sum_append, List.sum_cons, Option.getD_some]
      omega

@[simp] theorem get_touch_self (map : InsertionMap K V) (key : K) (value : V) :
    (map.touch key value).get key = some value := get_set_self _ _ _

theorem get_touch_of_ne (apart : other ≠ key) : (map.touch key value).get other = map.get other :=
  (get_set_of_ne apart).trans (get_delete_of_ne apart)

end InsertionMap

/-- Items whose keys are listed once add up key by key. -/
theorem sum_fibers {T : Type} {K : Type} [DecidableEq K] (key : T → K) (amount : T → Nat)
    {keys : List K} (distinct : keys.Nodup) {items : List T}
    (covered : ∀ item ∈ items, key item ∈ keys) :
    (keys.map fun k => ((items.filter (key · = k)).map amount).sum).sum = (items.map amount).sum := by
  induction items with
  | nil => simp
  | cons item rest ih =>
      obtain ⟨known, others⟩ := List.forall_mem_cons.mp covered
      have single (k : K) : (((item :: rest).filter (key · = k)).map amount).sum =
          (if k = key item then amount item else 0) + ((rest.filter (key · = k)).map amount).sum := by
        by_cases same : key item = k
        · simp [same]
        · simp [same, Ne.symm same]
      have alone : (keys.map fun k => if k = key item then amount item else 0).sum = amount item := by
        rw [← List.sum_toFinset _ distinct, Finset.sum_ite_eq']
        exact if_pos (List.mem_toFinset.mpr known)
      simp only [single, List.sum_map_add, alone, ih others, List.map_cons, List.sum_cons]

end Adjudicate.Js
