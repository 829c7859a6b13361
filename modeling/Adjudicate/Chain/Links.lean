/-
This file develops linked chains, the altered orders that a link check accepts and the check of
interleaved streams.
-/

import Mathlib.Data.List.Chain
import Mathlib.Data.List.Infix
import Mathlib.Data.List.Perm.Basic
import Mathlib.Logic.Function.Basic

namespace Adjudicate.Chain

section Alteration

variable {A : Type} {follows accepts : A → A → Prop} {records : List A}

/-- Every accepted predecessor of a chained record is its true predecessor. -/
def Exact (follows accepts : A → A → Prop) (records : List A) : Prop :=
  ∀ before ∈ records, ∀ claimed ∈ records, ∀ record ∈ records,
    follows before record → accepts claimed record → claimed = before

/-- An accepted run continues the chain until it may restart at the first record. -/
theorem accepted_tail (chain : records.IsChain follows) (distinct : records.Nodup)
    (exact : Exact follows accepts records) {record : A} {rest front back : List A}
    (run : (record :: rest).IsChain accepts) (once : (record :: rest).Nodup)
    (inside : record :: rest ⊆ records) (split : records = front ++ record :: back) :
    rest <+: back ∨ ∃ middle again, rest = middle ++ again ∧ middle <+: back ∧ again ≠ [] ∧
      again <+: records := by
  induction rest generalizing record front back with
  | nil =>
      left
      exact List.nil_prefix
  | cons next rest ih =>
      obtain ⟨linked, later⟩ := List.isChain_cons_cons.mp run
      have onceLater := (List.nodup_cons.mp once).2
      have insideLater : next :: rest ⊆ records := fun other member =>
        inside (List.mem_cons_of_mem _ member)
      have member : next ∈ records := insideLater List.mem_cons_self
      obtain ⟨before, after, place⟩ := List.append_of_mem member
      have continued := ih later onceLater insideLater place
      cases before using List.reverseRecOn with
      | nil =>
          -- The next record is the first of the chain, so the run restarts here.
          right
          rw [List.nil_append] at place
          obtain start | ⟨middle, again, shape, -, nonempty, start⟩ := continued
          · refine ⟨[], next :: rest, rfl, List.nil_prefix, List.cons_ne_nil _ _, ?_⟩
            rw [place]
            exact (List.prefix_cons_inj next).mpr start
          · obtain ⟨first, again, rfl⟩ := List.exists_cons_of_ne_nil nonempty
            rw [place] at start
            obtain ⟨rfl, -⟩ := List.cons_prefix_cons.mp start
            have twice : first ∈ rest := by
              rw [shape]
              exact List.mem_append_right _ List.mem_cons_self
            exact absurd twice (List.nodup_cons.mp onceLater).1
      | append_singleton before previous =>
          rw [List.append_assoc, List.singleton_append] at place
          have step : follows previous next := by
            rw [place] at chain
            exact (List.isChain_append_cons_cons.mp chain).2.1
          have previousMember : previous ∈ records := by
            rw [place]
            exact List.mem_append_right _ List.mem_cons_self
          have same : record = previous := exact previous previousMember record
            (inside List.mem_cons_self) next member step linked
          subst same
          have places : front ++ record :: back = before ++ record :: next :: after :=
            split.symm.trans place
          obtain ⟨notFront, notBack⟩ : record ∉ front ∧ record ∉ back := by
            rw [split, List.nodup_append] at distinct
            exact ⟨fun member => distinct.2.2 record member record List.mem_cons_self rfl,
              (List.nodup_cons.mp distinct.2.1).1⟩
          obtain ⟨-, -, rfl⟩ := (List.append_cons_inj_of_notMem notFront notBack).mp places
          obtain start | ⟨middle, again, rfl, start, restarted⟩ := continued
          · left
            exact (List.prefix_cons_inj next).mpr start
          · right
            exact ⟨next :: middle, again, rfl, (List.prefix_cons_inj next).mpr start, restarted⟩

/-- An accepted selection of the chain is a window of it. -/
theorem accepted_sublist_iff (chain : records.IsChain follows) (distinct : records.Nodup)
    (exact : Exact follows accepts records)
    (keeps : ∀ before record, follows before record → accepts before record) {kept : List A}
    (selected : kept.Sublist records) : kept.IsChain accepts ↔ kept <:+: records := by
  constructor
  · intro run
    cases kept with
    | nil => exact List.nil_infix
    | cons record rest =>
        obtain ⟨front, back, split⟩ := List.append_of_mem (selected.subset List.mem_cons_self)
        obtain start | ⟨middle, again, rfl, -, nonempty, start⟩ := accepted_tail chain distinct exact
          run (distinct.sublist selected) selected.subset split
        · rw [split]
          obtain ⟨suffix, rfl⟩ := start
          exact ⟨front, suffix, by simp⟩
        · -- The restart would place the first record of the chain after another record.
          obtain ⟨first, again, rfl⟩ := List.exists_cons_of_ne_nil nonempty
          obtain ⟨suffix, rfl⟩ := start
          have inner : first ∈ middle ++ first :: again :=
            List.mem_append_right _ List.mem_cons_self
          have later : first ∈ again ++ suffix := by
            cases selected with
            | cons _ tail => exact tail.subset (List.mem_cons_of_mem _ inner)
            | cons_cons _ tail => exact tail.subset inner
          exact absurd later (List.nodup_cons.mp distinct).1
  · rintro window
    have linked := List.IsChain.infix chain window
    exact linked.imp keeps

/-- The altered order moves a front part of the chain behind its end. -/
def Rotated (accepts : A → A → Prop) (records altered : List A) : Prop :=
  ∃ first front last back, records = first :: front ++ (back ++ [last]) ∧
    altered = back ++ [last] ++ first :: front ∧ accepts last first

/-- The only accepted orders are the order of the chain and its accepted rotations. -/
theorem accepted_perm_iff (chain : records.IsChain follows) (distinct : records.Nodup)
    (exact : Exact follows accepts records)
    (keeps : ∀ before record, follows before record → accepts before record) {altered : List A}
    (perm : altered.Perm records) :
    altered.IsChain accepts ↔ altered = records ∨ Rotated accepts records altered := by
  constructor
  · intro run
    cases altered with
    | nil =>
        left
        exact perm.nil_eq
    | cons record rest =>
        have member := perm.subset (List.mem_cons_self (a := record) (l := rest))
        obtain ⟨front, back, split⟩ := List.append_of_mem member
        have length := perm.length_eq
        simp only [split, List.length_append, List.length_cons] at length
        obtain start | ⟨middle, again, rfl, start, nonempty, restart⟩ := accepted_tail chain distinct
          exact run (perm.nodup_iff.mpr distinct) perm.subset split
        · left
          have short := start.length_le
          have emptyFront : front = [] := List.length_eq_zero_iff.mp (by omega)
          rw [start.eq_of_length (by rw [emptyFront, List.length_nil] at length; omega), split,
            emptyFront]
          rfl
        · right
          -- The restarted part avoids the first record of the run, so it ends before it.
          have once := perm.nodup_iff.mpr distinct
          have fits : again.length ≤ front.length := by
            by_contra long
            have whole : front ++ [record] <+: records := by
              rw [split]
              exact ⟨back, by simp⟩
            have covered : front ++ [record] <+: again := List.prefix_of_prefix_length_le whole restart
              (by rw [List.length_append, List.length_singleton]; omega)
            have twice : record ∈ middle ++ again :=
              List.mem_append_right _ (covered.subset (List.mem_append_right _ List.mem_cons_self))
            exact (List.nodup_cons.mp once).1 twice
          have short := start.length_le
          rw [List.length_append] at length
          have sameFront : again = front := by
            rw [split] at restart
            have same := List.prefix_of_prefix_length_le restart (List.prefix_append _ _) fits
            exact same.eq_of_length (by omega)
          have sameBack : middle = back := start.eq_of_length (by omega)
          subst sameFront sameBack
          obtain ⟨first, front, rfl⟩ := List.exists_cons_of_ne_nil nonempty
          obtain ⟨back, last, ending⟩ := (record :: middle).eq_nil_or_concat.resolve_left
            (List.cons_ne_nil _ _)
          rw [List.concat_eq_append] at ending
          have shape : record :: (middle ++ first :: front) = back ++ [last] ++ first :: front := by
            rw [← ending]
            rfl
          refine ⟨first, front, last, back, by rw [split, ending], shape, ?_⟩
          rw [shape, List.append_assoc, List.singleton_append] at run
          exact (List.isChain_append_cons_cons.mp run).2.1
  · rintro (rfl | ⟨first, front, last, back, rfl, rfl, turn⟩)
    · exact chain.imp keeps
    · have accepted := chain.imp keeps
      rw [List.append_assoc, List.singleton_append, List.isChain_append_cons_cons]
      have late := List.IsChain.infix accepted (List.suffix_append _ _).isInfix
      have early := List.IsChain.infix accepted (List.prefix_append _ _).isInfix
      exact ⟨late, turn, early⟩

end Alteration

section Streams

variable {A K H : Type}

/-- A link agrees with a tip unless both are present and differ. -/
def Agrees (tip link : Option H) : Prop := ∀ expected ∈ tip, ∀ stored ∈ link, stored = expected

variable (link tip : A → Option H)

/-- Every record of one stream agrees with the record before it. -/
def Quiet (start : Option H) : List A → Prop
  | [] => True
  | record :: rest => Agrees start (link record) ∧ Quiet (tip record) rest

/-- The first record of a window without an earlier tip is not checked. -/
theorem quiet_none_iff (records : List A) :
    Quiet link tip none records ↔
      records.IsChain fun before record => Agrees (tip before) (link record) := by
  have window (record : A) (rest : List A) : Quiet link tip (tip record) rest ↔
      (record :: rest).IsChain fun before record => Agrees (tip before) (link record) := by
    induction rest generalizing record with
    | nil => simp [Quiet]
    | cons next rest ih => rw [Quiet, ih, List.isChain_cons_cons]
  cases records with
  | nil => simp [Quiet]
  | cons record rest =>
      rw [Quiet, window]
      simp [Agrees]

variable [DecidableEq K] [DecidableEq H] (stream : A → K)

instance (tip link : Option H) : Decidable (Agrees tip link) :=
  inferInstanceAs (Decidable (∀ expected ∈ tip, ∀ stored ∈ link, stored = expected))

/-- These records disagree with the tip of their stream, which follows the last record. -/
def broken (tips : K → Option H) : List A → List A
  | [] => []
  | record :: rest =>
      let later := broken (Function.update tips (stream record) (tip record)) rest
      if Agrees (tips (stream record)) (link record) then later else record :: later

/-- No record is broken exactly when every stream is quiet, whatever the interleaving. -/
theorem broken_eq_nil_iff (tips : K → Option H) (records : List A) :
    broken link tip stream tips records = [] ↔
      ∀ key, Quiet link tip (tips key) (records.filter fun record => stream record = key) := by
  induction records generalizing tips with
  | nil => simp [broken, Quiet]
  | cons record rest ih =>
      rw [broken]
      constructor
      · intro unbroken key
        split at unbroken
        · next agrees =>
            have later := (ih _).mp unbroken key
            by_cases same : stream record = key
            · subst same
              rw [Function.update_self] at later
              rw [List.filter_cons_of_pos (by simp), Quiet]
              exact ⟨agrees, later⟩
            · rw [Function.update_of_ne (Ne.symm same)] at later
              rw [List.filter_cons_of_neg (by simpa using same)]
              exact later
        · cases unbroken
      · intro quiet
        have own := quiet (stream record)
        rw [List.filter_cons_of_pos (by simp), Quiet] at own
        rw [if_pos own.1, ih]
        intro key
        by_cases same : stream record = key
        · subst same
          rw [Function.update_self]
          exact own.2
        · have other := quiet key
          rw [List.filter_cons_of_neg (by simpa using same)] at other
          rw [Function.update_of_ne (Ne.symm same)]
          exact other

end Streams

end Adjudicate.Chain
