/-
This file develops keyset paging over rows with distinct keys of a linear order.
-/

import Mathlib.Data.List.Sort

namespace Adjudicate.Paging

/-- A client fetches pages from its cursor on until one has no cursor of its own; the fetches are
numbered because the source may change between them. -/
inductive Followed {E P C : Type} (fetch : Nat → Option C → Except E P) (next : P → Option C) :
    Nat → Option C → List P → Prop where
  | last {fetched : Nat} {cursor : Option C} {page : P} :
      fetch fetched cursor = .ok page → next page = none →
      Followed fetch next fetched cursor [page]
  | more {fetched : Nat} {cursor : Option C} {page : P} {mark : C} {pages : List P} :
      fetch fetched cursor = .ok page → next page = some mark →
      Followed fetch next (fetched + 1) (some mark) pages →
      Followed fetch next fetched cursor (page :: pages)

section Followed

variable {E P C : Type} {fetch : Nat → Option C → Except E P} {next : P → Option C}

/-- The client has no choice. -/
theorem followed_unique {fetched : Nat} {cursor : Option C} {first second : List P}
    (one : Followed fetch next fetched cursor first)
    (other : Followed fetch next fetched cursor second) : first = second := by
  induction one generalizing second with
  | last answer ends =>
      cases other with
      | last again _ =>
          rw [Except.ok.inj (answer.symm.trans again)]
      | more again continues _ =>
          rw [← Except.ok.inj (answer.symm.trans again), ends] at continues
          cases continues
  | more answer continues _ ih =>
      cases other with
      | last again ends =>
          rw [← Except.ok.inj (answer.symm.trans again), continues] at ends
          cases ends
      | more again follows rest =>
          obtain rfl := Except.ok.inj (answer.symm.trans again)
          obtain rfl := Option.some.inj (continues.symm.trans follows)
          rw [ih rest]

theorem Followed.fetched {start : Nat} {cursor : Option C} {pages : List P}
    (followed : Followed fetch next start cursor pages) :
    ∀ page ∈ pages, ∃ fetched mark, fetch fetched mark = .ok page := by
  induction followed with
  | last answer _ => exact List.forall_mem_singleton.mpr ⟨_, _, answer⟩
  | more answer _ _ ih => exact List.forall_mem_cons.mpr ⟨⟨_, _, answer⟩, ih⟩

/-- A source that answers every cursor of this one in its own words has the same pages. -/
theorem Followed.map {E' P' C' : Type} {fetch' : Nat → Option C' → Except E' P'}
    {next' : P' → Option C'} (convert : P → P') (encode : C → C')
    (simulates : ∀ fetched cursor page, fetch fetched cursor = .ok page →
      fetch' fetched (cursor.map encode) = .ok (convert page))
    (follows : ∀ page, next' (convert page) = (next page).map encode)
    {fetched : Nat} {cursor : Option C} {pages : List P}
    (followed : Followed fetch next fetched cursor pages) :
    Followed fetch' next' fetched (cursor.map encode) (pages.map convert) := by
  induction followed with
  | last answer ends =>
      refine .last (simulates _ _ _ answer) ?_
      rw [follows, ends]
      rfl
  | more answer continues _ ih =>
      refine .more (simulates _ _ _ answer) ?_ ih
      rw [follows, continues]
      rfl

end Followed

variable {R K : Type} [LinearOrder K] (key : R → K)

def descending (rows : List R) : List R :=
  rows.insertionSort fun first second => key second ≤ key first

/-- Without a cursor all rows count. -/
def below (cursor : Option R) (rows : List R) : List R :=
  rows.filter fun row => ∀ mark ∈ cursor, key row < key mark

def select (rows : List R) (cursor : Option R) (count : Nat) : List R :=
  (descending key (below key cursor rows)).take count

structure Page (R : Type) where
  rows : List R
  next : Option R

/-- One row more than the limit shows that there is another page. -/
def page (rows : List R) (limit : Nat) (cursor : Option R) : Page R :=
  let found := select key rows cursor (limit + 1)
  if limit < found.length then
    let slice := found.take limit
    { rows := slice, next := slice.getLast? }
  else { rows := found, next := none }

variable {key}

theorem below_none (rows : List R) : below key none rows = rows :=
  List.filter_eq_self.mpr (by simp)

theorem descending_perm (rows : List R) : (descending key rows).Perm rows :=
  List.perm_insertionSort _ _

theorem descending_pairwise (rows : List R) :
    (descending key rows).Pairwise fun first second => key second ≤ key first := by
  have total : Std.Total fun first second : R => key second ≤ key first :=
    ⟨fun first second => le_total (key second) (key first)⟩
  have transitive : IsTrans R fun first second => key second ≤ key first :=
    ⟨fun _ _ _ upper lower => lower.trans upper⟩
  exact List.pairwise_insertionSort _ rows

theorem descending_strict {rows : List R} (distinct : (rows.map key).Nodup) :
    (descending key rows).Pairwise fun first second => key second < key first := by
  have different : ((descending key rows).map key).Nodup :=
    (((descending_perm rows).map key).nodup_iff).mpr distinct
  rw [List.Nodup, List.pairwise_map] at different
  refine ((descending_pairwise rows).and different).imp ?_
  intro first second ⟨atMost, unequal⟩
  exact lt_of_le_of_ne atMost (Ne.symm unequal)

/-- Rows with distinct keys have one descending order. -/
theorem descending_eq {rows sorted : List R} (perm : sorted.Perm rows)
    (strict : sorted.Pairwise fun first second => key second < key first) :
    descending key rows = sorted := by
  refine ((descending_perm rows).trans perm.symm).eq_of_pairwise ?_ (descending_pairwise rows)
    (strict.imp le_of_lt)
  intro first second firstIn secondIn upper lower
  have distinct : (sorted.map key).Nodup :=
    List.pairwise_map.mpr (strict.imp fun smaller => smaller.ne')
  exact List.inj_on_of_nodup_map distinct
    (perm.symm.subset ((descending_perm rows).subset firstIn)) secondIn (le_antisymm lower upper)

theorem descending_congr {left right : List R} (perm : left.Perm right)
    (distinct : (right.map key).Nodup) : descending key left = descending key right :=
  descending_eq ((descending_perm right).trans perm.symm) (descending_strict distinct)

theorem descending_filter {rows : List R} (distinct : (rows.map key).Nodup) (keep : R → Bool) :
    descending key (rows.filter keep) = (descending key rows).filter keep :=
  descending_eq ((descending_perm rows).filter keep) ((descending_strict distinct).filter keep)

/-- Below one of its rows a descending list goes on with the rows after it. -/
theorem filter_below {before after : List R} {mark : R}
    (strict : (before ++ mark :: after).Pairwise fun first second => key second < key first) :
    (before ++ mark :: after).filter (fun row => key row < key mark) = after := by
  rw [List.pairwise_append, List.pairwise_cons] at strict
  obtain ⟨-, ⟨lower, -⟩, upper⟩ := strict
  have skipped : before.filter (fun row => key row < key mark) = [] := by
    rw [List.filter_eq_nil_iff]
    intro row inside
    have above := upper row inside mark List.mem_cons_self
    simpa using above.le
  have kept : after.filter (fun row => key row < key mark) = after := by
    rw [List.filter_eq_self]
    intro row inside
    simpa using lower row inside
  rw [List.filter_append, skipped, List.filter_cons_of_neg (by simp), kept, List.nil_append]

section Follow

variable {tables : Nat → List R} {rows : List R} {limit : Nat}

/-- Below each of the given rows the later tables hold what the rows hold there. -/
def Settled (key : R → K) (tables : Nat → List R) (rows : List R) : Prop :=
  (tables 0).Perm rows ∧ ∀ fetched, ∀ mark ∈ rows,
    (below key (some mark) (tables fetched)).Perm (below key (some mark) rows)

/-- Rows that are inserted above all the given ones settle below them. -/
theorem settled_of_newer (first : (tables 0).Perm rows)
    (newer : ∀ fetched, ∃ inserted, (tables fetched).Perm (inserted ++ rows) ∧
      ∀ row ∈ inserted, ∀ old ∈ rows, key old < key row) : Settled key tables rows := by
  refine ⟨first, fun fetched mark member => ?_⟩
  obtain ⟨inserted, perm, above⟩ := newer fetched
  have skipped : below key (some mark) inserted = [] := by
    rw [below, List.filter_eq_nil_iff]
    intro row inside
    simpa using (above row inside mark member).le
  have split := perm.filter fun row => ∀ other ∈ some mark, key row < key other
  rw [List.filter_append] at split
  change (below key (some mark) (tables fetched)).Perm
    (below key (some mark) inserted ++ below key (some mark) rows) at split
  rwa [skipped, List.nil_append] at split

/-- The page of a remaining list takes its first rows and marks the last of them. -/
theorem page_of_remaining {table remaining : List R} {cursor : Option R}
    (rest : descending key (below key cursor table) = remaining) :
    page key table limit cursor =
      if limit < remaining.length then
        { rows := remaining.take limit, next := (remaining.take limit).getLast? }
      else { rows := remaining, next := none } := by
  rw [page, select, rest, List.length_take, List.take_take, Nat.min_eq_left (Nat.le_succ limit)]
  by_cases longer : limit < remaining.length
  · have more : limit < min (limit + 1) remaining.length := by omega
    simp only [if_pos longer, if_pos more]
  · have whole : remaining.take (limit + 1) = remaining := List.take_of_length_le (by omega)
    have stops : ¬limit < min (limit + 1) remaining.length := by omega
    simp only [if_neg longer, if_neg stops, whole]

/-- From a cursor on the client reads the rows below it, and each page is full until the last. -/
theorem followed_below (positive : 0 < limit) (distinct : (rows.map key).Nodup)
    (settled : Settled key tables rows) {done remaining : List R}
    (split : descending key rows = done ++ remaining) {fetched : Nat} {cursor : Option R}
    (rest : descending key (below key cursor (tables fetched)) = remaining) :
    ∃ pages, Followed (E := Empty) (fun fetched cursor => .ok (page key (tables fetched) limit cursor))
        Page.next fetched cursor pages ∧
      (pages.map Page.rows).flatten = remaining ∧
      ∀ full ∈ pages.dropLast, full.rows.length = limit := by
  induction size : remaining.length using Nat.strong_induction_on
    generalizing done remaining fetched cursor with
  | _ count ih =>
    have answer : page key (tables fetched) limit cursor = _ := page_of_remaining rest
    by_cases longer : limit < remaining.length
    · -- The rows after the last one of the page remain.
      obtain ⟨slice, mark, cut⟩ : ∃ slice mark, remaining.take limit = slice ++ [mark] := by
        have nonempty : remaining.take limit ≠ [] := by
          intro empty
          have none := congrArg List.length empty
          rw [List.length_take, List.length_nil] at none
          omega
        exact ⟨_, _, (List.dropLast_append_getLast nonempty).symm⟩
      have whole : remaining = slice ++ mark :: remaining.drop limit := by
        conv_lhs => rw [← List.take_append_drop limit remaining, cut]
        rw [List.append_assoc, List.singleton_append]
      have listed : descending key rows = (done ++ slice) ++ mark :: remaining.drop limit := by
        rw [split, List.append_assoc, ← whole]
      have strict := descending_strict distinct
      rw [listed] at strict
      have member : mark ∈ rows := (descending_perm rows).subset (by rw [listed]; simp)
      have later : descending key (below key (some mark) (tables (fetched + 1))) =
          remaining.drop limit := by
        rw [descending_congr (settled.2 (fetched + 1) mark member)
          (distinct.sublist (List.filter_sublist.map key)), below, descending_filter distinct, listed]
        simpa only [Option.mem_def, Option.some.injEq, forall_eq'] using filter_below strict
      have shorter : (remaining.drop limit).length < count := by
        rw [List.length_drop]
        omega
      have divided : descending key rows =
          (done ++ remaining.take limit) ++ remaining.drop limit := by
        rw [List.append_assoc, List.take_append_drop, split]
      obtain ⟨pages, followed, flat, full⟩ := ih _ shorter divided later rfl
      rw [if_pos longer, cut, List.getLast?_concat] at answer
      have sliced : (slice ++ [mark]).length = limit := by
        rw [← cut, List.length_take, Nat.min_eq_left longer.le]
      refine ⟨⟨slice ++ [mark], some mark⟩ :: pages, .more (congrArg _ answer) rfl followed, ?_, ?_⟩
      · rw [List.map_cons, List.flatten_cons, flat]
        dsimp only
        rw [← cut, List.take_append_drop]
      · cases pages with
        | nil => nomatch followed
        | cons other pages =>
            rw [List.dropLast_cons_cons]
            exact List.forall_mem_cons.mpr ⟨sliced, full⟩
    · rw [if_neg longer] at answer
      exact ⟨[⟨remaining, none⟩], .last (congrArg _ answer) rfl, by simp, by simp⟩

/-- The pages of a client list the rows of the first fetch once each in descending order. -/
theorem followed_rows (positive : 0 < limit) (distinct : (rows.map key).Nodup)
    (settled : Settled key tables rows) :
    ∃ pages, Followed (E := Empty) (fun fetched cursor => .ok (page key (tables fetched) limit cursor))
        Page.next 0 none pages ∧
      (pages.map Page.rows).flatten = descending key rows ∧
      ∀ full ∈ pages.dropLast, full.rows.length = limit := by
  refine followed_below positive distinct settled (List.nil_append _).symm ?_
  rw [below_none]
  exact descending_congr settled.1 distinct

end Follow

end Adjudicate.Paging
