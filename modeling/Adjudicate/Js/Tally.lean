/-
This file counts entries in tables that keep one row for each key.
-/

import Mathlib

namespace Adjudicate.Js

variable {T K : Type} [DecidableEq K] (key : T → K)

/-- A further entry of a known key raises the count of the row that is there. -/
def tally : List (T × Nat) → T → List (T × Nat)
  | [], entry => [(entry, 1)]
  | (kept, count) :: rest, entry =>
      if key kept = key entry then (kept, count + 1) :: rest else (kept, count) :: tally rest entry

/-- The rows have distinct keys, stem from entries, and count the entries of their keys. -/
structure Tallies (entries : List T) (table : List (T × Nat)) : Prop where
  distinct : (table.map (key ·.1)).Nodup
  stems : ∀ row ∈ table, row.1 ∈ entries
  covers : ∀ entry ∈ entries, ∃ row ∈ table, key row.1 = key entry
  counts : ∀ row ∈ table, row.2 = entries.countP (key · = key row.1)

variable {key} {entries : List T} {table : List (T × Nat)} {entry : T}

theorem tally_of_absent (absent : ∀ row ∈ table, key row.1 ≠ key entry) :
    tally key table entry = table ++ [(entry, 1)] := by
  induction table with
  | nil => rfl
  | cons row rest ih =>
      obtain ⟨other, others⟩ := List.forall_mem_cons.mp absent
      rw [tally, if_neg other, ih others]
      rfl

/-- The table of a known key keeps its rows but for one count. -/
theorem tally_of_present {row : T × Nat} {front back : List (T × Nat)}
    (distinct : ((front ++ row :: back).map (key ·.1)).Nodup) (same : key row.1 = key entry) :
    tally key (front ++ row :: back) entry = front ++ (row.1, row.2 + 1) :: back := by
  induction front with
  | nil =>
      obtain ⟨kept, count⟩ := row
      rw [List.nil_append, tally, if_pos same]
      rfl
  | cons first rest ih =>
      rw [List.cons_append, List.map_cons, List.nodup_cons] at distinct
      have other : key first.1 ≠ key entry := by
        rw [← same]
        intro equal
        refine distinct.1 (List.mem_map.mpr ⟨row, ?_, equal.symm⟩)
        exact List.mem_append_right _ List.mem_cons_self
      rw [List.cons_append, tally, if_neg other, ih distinct.2]
      rfl

theorem length_le_tally (table : List (T × Nat)) (entry : T) :
    table.length ≤ (tally key table entry).length := by
  induction table with
  | nil => exact Nat.zero_le _
  | cons row rest ih =>
      rw [tally]
      split
      · exact Nat.le_refl _
      · exact Nat.succ_le_succ ih

theorem tallies_nil : Tallies key [] [] :=
  ⟨List.nodup_nil, nofun, nofun, nofun⟩

/-- Each further entry is counted under its key. -/
theorem Tallies.tally (tallies : Tallies key entries table) (entry : T) :
    Tallies key (entries ++ [entry]) (tally key table entry) := by
  have counted (row : T × Nat) (known : row ∈ table) (other : key entry ≠ key row.1) :
      row.2 = (entries ++ [entry]).countP (key · = key row.1) := by
    rw [tallies.counts row known, List.countP_append, List.countP_singleton]
    simp [other]
  by_cases present : ∃ row ∈ table, key row.1 = key entry
  · obtain ⟨row, member, same⟩ := present
    obtain ⟨front, back, rfl⟩ := List.append_of_mem member
    have distinct := tallies.distinct
    rw [tally_of_present distinct same]
    have keys : (front ++ (row.1, row.2 + 1) :: back).map (key ·.1) =
        (front ++ row :: back).map (key ·.1) := by
      simp
    have apart (other : T × Nat) (place : other ∈ front ∨ other ∈ back) :
        key entry ≠ key other.1 := by
      rw [← same]
      rw [List.map_append, List.map_cons, List.nodup_middle, List.nodup_cons, ← List.map_append]
        at distinct
      intro equal
      refine distinct.1 (List.mem_map.mpr ⟨other, ?_, equal.symm⟩)
      exact List.mem_append.mpr place
    refine ⟨keys ▸ distinct, ?_, ?_, ?_⟩
    · intro other inside
      have stem : other.1 ∈ entries := by
        obtain early | rfl | late : other ∈ front ∨ other = (row.1, row.2 + 1) ∨ other ∈ back := by
          simpa using inside
        · exact tallies.stems other (List.mem_append_left _ early)
        · exact tallies.stems row member
        · exact tallies.stems other (List.mem_append_right _ (List.mem_cons_of_mem _ late))
      exact List.mem_append_left _ stem
    · intro other inside
      have found : ∃ place ∈ front ++ row :: back, key place.1 = key other := by
        obtain earlier | last := List.mem_append.mp inside
        · exact tallies.covers other earlier
        · rw [List.mem_singleton.mp last]
          exact ⟨row, member, same⟩
      obtain ⟨place, known, equal⟩ := found
      have mapped : key other ∈ (front ++ (row.1, row.2 + 1) :: back).map (key ·.1) := by
        rw [keys]
        exact List.mem_map.mpr ⟨place, known, equal⟩
      exact List.mem_map.mp mapped
    · intro other inside
      obtain early | rfl | late : other ∈ front ∨ other = (row.1, row.2 + 1) ∨ other ∈ back := by
        simpa using inside
      · exact counted other (List.mem_append_left _ early) (apart other (.inl early))
      · show row.2 + 1 = _
        rw [tallies.counts row member, List.countP_append, List.countP_singleton]
        simp [same]
      · exact counted other (List.mem_append_right _ (List.mem_cons_of_mem _ late))
          (apart other (.inr late))
  · have absent : ∀ row ∈ table, key row.1 ≠ key entry := fun row known same =>
      present ⟨row, known, same⟩
    rw [tally_of_absent absent]
    refine ⟨?_, ?_, ?_, ?_⟩
    · rw [List.map_append, List.nodup_append]
      refine ⟨tallies.distinct, List.nodup_singleton _, ?_⟩
      intro known member last same
      obtain ⟨row, inside, rfl⟩ := List.mem_map.mp member
      rw [List.mem_singleton.mp same]
      exact absent row inside
    · intro row inside
      obtain known | last := List.mem_append.mp inside
      · exact List.mem_append_left _ (tallies.stems row known)
      · rw [List.mem_singleton.mp last]
        exact List.mem_append_right _ (List.mem_singleton_self _)
    · intro other inside
      obtain earlier | last := List.mem_append.mp inside
      · obtain ⟨row, known, same⟩ := tallies.covers other earlier
        exact ⟨row, List.mem_append_left _ known, same⟩
      · rw [List.mem_singleton.mp last]
        exact ⟨(entry, 1), List.mem_append_right _ (List.mem_singleton_self _), rfl⟩
    · intro row inside
      obtain known | last := List.mem_append.mp inside
      · exact counted row known fun same => absent row known same.symm
      · have fresh : entries.countP (key · = key entry) = 0 := by
          rw [List.countP_eq_zero]
          intro earlier member same
          obtain ⟨row, known, equal⟩ := tallies.covers earlier member
          exact absent row known (equal.trans (by simpa using same))
        rw [List.mem_singleton.mp last, List.countP_append, fresh, List.countP_singleton]
        simp

theorem tallies_foldl (entries : List T) : Tallies key entries (entries.foldl (tally key) []) := by
  induction entries using List.reverseRecOn with
  | nil => exact tallies_nil
  | append_singleton entries entry ih =>
      rw [List.foldl_append]
      exact ih.tally entry

/-- This sums the counts of the selected rows. -/
def countIn (selected : T → Bool) (table : List (T × Nat)) : Nat :=
  ((table.filter (selected ·.1)).map Prod.snd).sum

theorem countIn_cons (selected : T → Bool) (row : T × Nat) (rest : List (T × Nat)) :
    countIn selected (row :: rest) =
      (if selected row.1 then row.2 else 0) + countIn selected rest := by
  rw [countIn, List.filter_cons]
  split
  · rfl
  · exact (Nat.zero_add _).symm

/-- A further entry counts once if its own row is selected along with it. -/
theorem countIn_tally {selected : T → Bool}
    (alike : ∀ row ∈ table, key row.1 = key entry → selected row.1 = selected entry) :
    countIn selected (tally key table entry) =
      countIn selected table + if selected entry then 1 else 0 := by
  induction table with
  | nil => rw [tally, countIn_cons, Nat.add_comm]
  | cons row rest ih =>
      obtain ⟨kept, count⟩ := row
      obtain ⟨own, others⟩ := List.forall_mem_cons.mp alike
      rw [tally]
      split
      · next same =>
          rw [countIn_cons, countIn_cons, ← own same]
          dsimp only
          split <;> omega
      · rw [countIn_cons, countIn_cons, ih others]
        omega

/-- Where the key decides the selection, the selected counts are those of the entries. -/
theorem countIn_foldl {selected : T → Bool} (entries : List T)
    (alike : ∀ first ∈ entries, ∀ second ∈ entries, key first = key second →
      selected first = selected second) :
    countIn selected (entries.foldl (tally key) []) = entries.countP selected := by
  induction entries using List.reverseRecOn with
  | nil => rfl
  | append_singleton entries entry ih =>
      have last : entry ∈ entries ++ [entry] := List.mem_append_right _ (List.mem_singleton_self _)
      rw [List.foldl_append, List.countP_append, List.countP_singleton, ← ih]
      · refine countIn_tally ?_
        intro row member same
        refine alike row.1 (List.mem_append_left _ ?_) entry last same
        exact (tallies_foldl entries).stems row member
      · intro first early second late
        exact alike first (List.mem_append_left _ early) second (List.mem_append_left _ late)

end Adjudicate.Js
