/-
This file develops walks along predecessor links and the lineages they trace.
-/

import Mathlib.Data.Finset.Card
import Mathlib.Data.List.Chain
import Mathlib.Data.List.Perm.Basic
import Mathlib.Logic.Relation

namespace Adjudicate.Chain

section Traces

variable {A : Type} (prior : A → Option A) (records : List A)

/-- Tracing the links of the first element back reaches the second one. -/
def TracesTo : A → A → Prop := Relation.ReflTransGen fun later earlier => prior later = some earlier

/-- Every link of a record leads to a record. -/
def Inside : Prop := ∀ later ∈ records, ∀ earlier, prior later = some earlier → earlier ∈ records

/-- No other record links to a head. -/
def IsHead (head : A) : Prop :=
  head ∈ records ∧ ∀ record ∈ records, prior record = some head → record = head

/-- Some head traces to the record. -/
def Headed (record : A) : Prop := ∃ head, IsHead prior records head ∧ TracesTo prior head record

variable {prior records}

theorem tracesTo_of_chain {cursor : A} {path : List A}
    (chain : (cursor :: path).IsChain fun later earlier => prior later = some earlier) {other : A}
    (member : other ∈ cursor :: path) : TracesTo prior cursor other := by
  induction path generalizing cursor with
  | nil => exact List.mem_singleton.mp member ▸ Relation.ReflTransGen.refl
  | cons previous rest ih =>
      obtain ⟨linked, later⟩ := List.isChain_cons_cons.mp chain
      rcases List.mem_cons.mp member with rfl | member
      · exact Relation.ReflTransGen.refl
      · exact Relation.ReflTransGen.head linked (ih later member)

theorem mem_of_tracesTo (inside : Inside prior records) {start other : A} (member : start ∈ records)
    (traced : TracesTo prior start other) : other ∈ records := by
  induction traced with
  | refl => exact member
  | tail _ linked ih => exact inside _ ih _ linked

/-- A record without a head lies on a loop of links, so everything it traces to traces back. -/
theorem loop_of_not_headed {start : A} (member : start ∈ records)
    (unheaded : ¬ Headed prior records start) {other : A} (traced : TracesTo prior start other) :
    TracesTo prior other start ∧ ∃ previous, prior other = some previous := by
  classical
  -- Every tracing record has a tracing successor, and the finite choice of successors is onto.
  let tracing := records.toFinset.filter fun record => TracesTo prior record start
  have mem_tracing (record : A) :
      record ∈ tracing ↔ record ∈ records ∧ TracesTo prior record start := by
    simp [tracing]
  have succeeded (record : A) (member : record ∈ tracing) :
      ∃ later ∈ tracing, prior later = some record := by
    obtain ⟨known, reaches⟩ := (mem_tracing record).mp member
    by_contra none
    refine unheaded ⟨record, ⟨known, ?_⟩, reaches⟩
    intro later laterKnown linked
    have reached : later ∈ tracing := (mem_tracing later).mpr ⟨laterKnown, reaches.head linked⟩
    exact absurd ⟨later, reached, linked⟩ none
  choose successor follows links using succeeded
  have onto := Finset.surj_on_of_inj_on_of_card_le successor follows
    (fun first second firstIn secondIn same => by
      have linked := links first firstIn
      rw [same, links second secondIn] at linked
      exact (Option.some.inj linked).symm) le_rfl
  have back (record : A) (member : record ∈ tracing) :
      ∃ previous ∈ tracing, prior record = some previous := by
    obtain ⟨previous, known, rfl⟩ := onto record member
    exact ⟨previous, known, links previous known⟩
  have reached : other ∈ tracing := by
    induction traced with
    | refl => exact (mem_tracing start).mpr ⟨member, Relation.ReflTransGen.refl⟩
    | tail _ linked ih =>
        obtain ⟨previous, known, same⟩ := back _ ih
        obtain rfl := Option.some.inj (linked.symm.trans same)
        exact known
  obtain ⟨previous, -, linked⟩ := back other reached
  exact ⟨((mem_tracing other).mp reached).2, previous, linked⟩

theorem not_headed_of_tracesTo {start other : A} (member : start ∈ records)
    (unheaded : ¬ Headed prior records start) (traced : TracesTo prior start other) :
    ¬ Headed prior records other := by
  rintro ⟨head, isHead, reaches⟩
  exact unheaded ⟨head, isHead, reaches.trans (loop_of_not_headed member unheaded traced).1⟩

/-- Two chains of links from one element to an end of all links are one chain. -/
theorem chain_unique {start : A} {left right : List A}
    (leftChain : (start :: left).IsChain fun later earlier => prior later = some earlier)
    (rightChain : (start :: right).IsChain fun later earlier => prior later = some earlier)
    (leftEnds : prior ((start :: left).getLast (List.cons_ne_nil _ _)) = none)
    (rightEnds : prior ((start :: right).getLast (List.cons_ne_nil _ _)) = none) : left = right := by
  induction left generalizing start right with
  | nil =>
      cases right with
      | nil => rfl
      | cons next right =>
          rw [List.getLast_singleton, (List.isChain_cons_cons.mp rightChain).1] at leftEnds
          cases leftEnds
  | cons next left ih =>
      obtain ⟨linked, leftChain⟩ := List.isChain_cons_cons.mp leftChain
      cases right with
      | nil =>
          rw [List.getLast_singleton, linked] at rightEnds
          cases rightEnds
      | cons other right =>
          obtain ⟨same, rightChain⟩ := List.isChain_cons_cons.mp rightChain
          obtain rfl := Option.some.inj (linked.symm.trans same)
          rw [List.getLast_cons (List.cons_ne_nil _ _)] at leftEnds rightEnds
          rw [ih leftChain rightChain leftEnds rightEnds]

section Ranked

variable {T : Type} [Preorder T] {rank : A → T}
  (earlier : ∀ later ∈ records, ∀ previous, prior later = some previous → rank previous < rank later)

include earlier

theorem rank_le_of_tracesTo (inside : Inside prior records) {start other : A}
    (member : start ∈ records) (traced : TracesTo prior start other) : rank other ≤ rank start := by
  induction traced with
  | refl => exact le_refl _
  | tail reached linked ih =>
      have known := mem_of_tracesTo inside member reached
      exact (earlier _ known _ linked).le.trans ih

/-- Links that lead to strictly earlier records leave no record without a head. -/
theorem headed_of_rank (inside : Inside prior records) {record : A} (member : record ∈ records) :
    Headed prior records record := by
  by_contra unheaded
  obtain ⟨-, previous, linked⟩ := loop_of_not_headed member unheaded Relation.ReflTransGen.refl
  have traced : TracesTo prior record previous := Relation.ReflTransGen.single linked
  have back := (loop_of_not_headed member unheaded traced).1
  have above := rank_le_of_tracesTo earlier inside (inside _ member _ linked) back
  exact absurd (earlier record member previous linked) above.not_gt

end Ranked

end Traces

section Walks

variable {A : Type} [DecidableEq A] (prior : A → Option A)

def others (records : List A) (record : A) : List A := records.filter (· ≠ record)

@[simp] theorem mem_others {records : List A} {record other : A} :
    other ∈ others records record ↔ other ∈ records ∧ other ≠ record := by
  simp [others]

/-- A walk takes every element at most once and tells whether it met an earlier one again. -/
def walk (unvisited : List A) (cursor : A) : List A × Bool :=
  match prior cursor with
  | none => ([], false)
  | some previous =>
      if previous ∈ unvisited then
        let later := walk (others unvisited previous) previous
        (previous :: later.1, later.2)
      else ([], true)
termination_by unvisited.length
decreasing_by
  exact List.length_filter_lt_length_iff_exists.mpr ⟨previous, by assumption, by simp⟩

variable {prior}

theorem walk_isChain (unvisited : List A) (cursor : A) :
    (cursor :: (walk prior unvisited cursor).1).IsChain fun later earlier =>
      prior later = some earlier := by
  fun_induction walk prior unvisited cursor with
  | case1 => exact List.isChain_singleton _
  | case2 unvisited cursor previous linked fresh later ih =>
      exact List.isChain_cons_cons.mpr ⟨linked, ih⟩
  | case3 => exact List.isChain_singleton _

theorem walk_subset (unvisited : List A) (cursor : A) :
    (walk prior unvisited cursor).1 ⊆ unvisited := by
  fun_induction walk prior unvisited cursor with
  | case1 => exact List.nil_subset _
  | case2 =>
      rename_i fresh later ih
      apply List.cons_subset.mpr
      exact ⟨fresh, fun other member => (mem_others.mp (ih member)).1⟩
  | case3 => exact List.nil_subset _

/-- An open walk ends at an element without a link. -/
theorem walk_open {unvisited : List A} {cursor : A} (opened : (walk prior unvisited cursor).2 = false) :
    prior ((cursor :: (walk prior unvisited cursor).1).getLast (List.cons_ne_nil _ _)) = none := by
  fun_induction walk prior unvisited cursor with
  | case1 unvisited cursor unlinked => simpa using unlinked
  | case2 unvisited cursor previous linked fresh later ih =>
      rw [List.getLast_cons (List.cons_ne_nil _ _)]
      exact ih opened
  | case3 => cases opened

/-- A closed walk ends at an element that links to a visited one. -/
theorem walk_closed {unvisited : List A} {cursor : A} (closed : (walk prior unvisited cursor).2 = true) :
    ∃ again,
      prior ((cursor :: (walk prior unvisited cursor).1).getLast (List.cons_ne_nil _ _)) = some again ∧
      (again ∈ unvisited → again ∈ (walk prior unvisited cursor).1) := by
  fun_induction walk prior unvisited cursor with
  | case1 => cases closed
  | case2 unvisited cursor previous linked fresh later ih =>
      obtain ⟨again, back, visited⟩ := ih closed
      refine ⟨again, ?_, ?_⟩
      · rw [List.getLast_cons (List.cons_ne_nil _ _)]
        exact back
      · intro member
        by_cases same : again = previous
        · exact same ▸ List.mem_cons_self
        · exact List.mem_cons_of_mem _ (visited (mem_others.mpr ⟨member, same⟩))
  | case3 unvisited cursor previous linked met => exact ⟨previous, linked, fun member => absurd member met⟩

variable {records : List A}

/-- The link behind the end of a walk leads to a record of the walk. -/
theorem walk_returns (inside : Inside prior records) {start again : A} (member : start ∈ records)
    (linked : prior ((start :: (walk prior (others records start) start).1).getLast
      (List.cons_ne_nil _ _)) = some again) :
    again ∈ start :: (walk prior (others records start) start).1 := by
  cases closed : (walk prior (others records start) start).2 with
  | false =>
      rw [walk_open closed] at linked
      cases linked
  | true =>
      obtain ⟨met, back, visited⟩ := walk_closed closed
      obtain rfl := Option.some.inj (linked.symm.trans back)
      by_cases first : again = start
      · exact first ▸ List.mem_cons_self
      · have chain := @walk_isChain _ _ prior (others records start) start
        have traced := tracesTo_of_chain chain (List.getLast_mem (List.cons_ne_nil _ _))
        have known := mem_of_tracesTo inside member (traced.tail linked)
        exact List.mem_cons_of_mem _ (visited (mem_others.mpr ⟨known, first⟩))

/-- A walk from a record meets exactly the records that it traces to. -/
theorem mem_walk_iff (inside : Inside prior records) {start : A} (member : start ∈ records)
    (other : A) :
    other ∈ start :: (walk prior (others records start) start).1 ↔
      TracesTo prior start other := by
  have chain := @walk_isChain _ _ prior (others records start) start
  constructor
  · exact tracesTo_of_chain chain
  · intro traced
    induction traced with
    | refl => exact List.mem_cons_self
    | @tail reached next earlier linked ih =>
        obtain ⟨front, back, place⟩ := List.append_of_mem ih
        cases back with
        | nil =>
            refine walk_returns inside member ?_
            simp only [place, List.getLast_append_singleton]
            exact linked
        | cons following back =>
            rw [place] at chain
            have step := (List.isChain_append_cons_cons.mp chain).2.1
            obtain rfl := Option.some.inj (linked.symm.trans step)
            rw [place]
            exact List.mem_append_right _ (List.mem_cons_of_mem _ List.mem_cons_self)

/-- Links that lead to strictly earlier records never close a walk. -/
theorem walk_open_of_rank {T : Type} [Preorder T] {rank : A → T}
    (earlier : ∀ later ∈ records, ∀ previous, prior later = some previous → rank previous < rank later)
    (inside : Inside prior records) {start : A} (member : start ∈ records) :
    (walk prior (others records start) start).2 = false := by
  by_contra closing
  rw [Bool.not_eq_false] at closing
  obtain ⟨again, back, -⟩ := walk_closed closing
  have chain := @walk_isChain _ _ prior (others records start) start
  have met := walk_returns inside member back
  obtain ⟨front, rest, place⟩ := List.append_of_mem met
  -- The chain from the repeated record leads to the end of the walk, which lies before it.
  have suffix : (again :: rest).IsChain fun later earlier => prior later = some earlier := by
    rw [place] at chain
    exact (List.isChain_append.mp chain).2.1
  have known := mem_of_tracesTo inside member (tracesTo_of_chain chain met)
  have last : (start :: (walk prior (others records start) start).1).getLast (List.cons_ne_nil _ _) =
      (again :: rest).getLast (List.cons_ne_nil _ _) := by
    simp only [place, List.getLast_append_of_ne_nil, ne_eq, reduceCtorEq, not_false_eq_true]
  rw [last] at back
  have traced := tracesTo_of_chain suffix (List.getLast_mem (List.cons_ne_nil again rest))
  have below := earlier _ (mem_of_tracesTo inside known traced) _ back
  exact absurd below (rank_le_of_tracesTo earlier inside known traced).not_gt

end Walks

end Adjudicate.Chain
