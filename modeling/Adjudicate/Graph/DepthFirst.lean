/-
This file develops the three-colour depth-first search for cycles of a finite directed graph.
-/

import Mathlib.Data.List.Chain
import Mathlib.Data.List.Nodup
import Mathlib.Logic.Relation

namespace Adjudicate.DepthFirst

inductive Color where
  | white
  | gray
  | black
deriving DecidableEq

/-- The gray nodes lie on the stack, and the cycles found so far are kept in their order. -/
structure Search (V : Type) where
  color : V → Color
  stack : List V
  cycles : List (List V)

variable {V : Type}

namespace Search

variable (search : Search V) (node : V)

def initial : Search V := ⟨fun _ => .white, [], []⟩

variable [DecidableEq V]

def enter : Search V :=
  { search with color := Function.update search.color node .gray, stack := search.stack ++ [node] }

def leave : Search V :=
  { search with color := Function.update search.color node .black, stack := search.stack.dropLast }

/-- An edge back to a gray node closes the part of the stack that starts there. -/
def close : Search V :=
  { search with
    cycles := search.cycles ++ [search.stack.drop (search.stack.idxOf node) ++ [node]] }

end Search

section

variable [DecidableEq V]

def meet (visit : V → Search V → Option (Search V)) (search : Search V) (node : V) :
    Option (Search V) :=
  match search.color node with
  | .gray => some (search.close node)
  | .black => some search
  | .white => visit node search

/-- The fuel bounds the depth of the recursion. -/
def dfs (next : V → List V) : Nat → V → Search V → Option (Search V)
  | 0, _, _ => none
  | fuel + 1, node, search =>
      ((next node).foldlM (meet (dfs next fuel)) (search.enter node)).map (·.leave node)

def root (next : V → List V) (fuel : Nat) (search : Search V) (node : V) : Option (Search V) :=
  if search.color node = .white then dfs next fuel node search else some search

def searchAll (next : V → List V) (nodes : List V) : Option (Search V) :=
  nodes.foldlM (root next nodes.length) .initial

end

/-- One node leads to the other. -/
def Edge (next : V → List V) (first second : V) : Prop := second ∈ next first

/-- The list starts and ends with one node, follows edges and repeats no other node. -/
def ClosedCycle (next : V → List V) (cycle : List V) : Prop :=
  ∃ node rest, cycle = node :: (rest ++ [node]) ∧ (node :: rest).Nodup ∧
    cycle.IsChain (Edge next)

/-- The gray nodes are a path, the cycles are cycles, and until a cycle is found the black nodes
lead to black nodes only and lie on no cycle. -/
structure Sound (next : V → List V) (search : Search V) : Prop where
  gray : ∀ node, search.color node = .gray ↔ node ∈ search.stack
  nodup : search.stack.Nodup
  path : search.stack.IsChain (Edge next)
  cycles : ∀ cycle ∈ search.cycles, ClosedCycle next cycle
  closed : search.cycles = [] → ∀ node, search.color node = .black →
    ∀ other ∈ next node, search.color other = .black
  acyclic : search.cycles = [] → ∀ node, search.color node = .black →
    ¬Relation.TransGen (Edge next) node node

/-- A visit returns to its stack and only paints white nodes. -/
structure Grows (before after : Search V) : Prop where
  stack : after.stack = before.stack
  color : ∀ node, before.color node ≠ .white → after.color node = before.color node
  cycles : before.cycles ≠ [] → after.cycles ≠ []

def whites (nodes : List V) (search : Search V) : Nat :=
  (nodes.filter (search.color · = .white)).length

section

variable {next : V → List V} {search before middle after : Search V} {node : V} {nodes : List V}

theorem Grows.refl (search : Search V) : Grows search search := ⟨rfl, fun _ _ => rfl, id⟩

theorem Grows.trans (first : Grows before middle) (second : Grows middle after) :
    Grows before after where
  stack := second.stack.trans first.stack
  color node painted := by
    have kept := first.color node painted
    rw [← kept]
    exact second.color node (kept ▸ painted)
  cycles found := second.cycles (first.cycles found)

theorem Grows.whites_le (grows : Grows before after) (nodes : List V) :
    whites nodes after ≤ whites nodes before := by
  apply List.Sublist.length_le
  apply List.monotone_filter_right
  intro node unpainted
  rw [decide_eq_true_iff] at unpainted ⊢
  by_contra painted
  rw [grows.color node painted] at unpainted
  exact painted unpainted

theorem sound_initial : Sound next (.initial : Search V) where
  gray _ := ⟨nofun, nofun⟩
  nodup := List.nodup_nil
  path := .nil
  cycles := nofun
  closed _ _ := nofun
  acyclic _ _ := nofun

/-- Everything that a black node reaches is black. -/
theorem Sound.reaches (sound : Sound next search) (none : search.cycles = []) {first second : V}
    (painted : search.color first = .black) (path : Relation.TransGen (Edge next) first second) :
    search.color second = .black := by
  induction path with
  | single edge => exact sound.closed none _ painted _ edge
  | tail _ edge ih => exact sound.closed none _ ih _ edge

theorem transGen_of_chain {first last : V} (rest : List V)
    (chain : (first :: (rest ++ [last])).IsChain (Edge next)) :
    Relation.TransGen (Edge next) first last := by
  induction rest generalizing first with
  | nil =>
      rw [List.nil_append, List.isChain_pair] at chain
      exact .single chain
  | cons second rest ih =>
      rw [List.cons_append, List.isChain_cons_cons] at chain
      exact .head chain.1 (ih chain.2)

/-- A search finds a cycle exactly when the graph has one. -/
theorem found_iff (sound : Sound next search) (complete : ∀ node, next node ≠ [] →
    search.color node = .black) :
    search.cycles ≠ [] ↔ ∃ node, Relation.TransGen (Edge next) node node := by
  constructor
  · intro found
    obtain ⟨cycle, member⟩ := List.exists_mem_of_ne_nil _ found
    obtain ⟨node, rest, rfl, _, chain⟩ := sound.cycles cycle member
    exact ⟨node, transGen_of_chain rest chain⟩
  · intro ⟨node, path⟩ none
    obtain ⟨other, edge, _⟩ := Relation.TransGen.head'_iff.mp path
    exact sound.acyclic none node (complete node (List.ne_nil_of_mem edge)) path

variable [DecidableEq V]

/-- The stack of a back edge is a cycle. -/
theorem Sound.close (sound : Sound next search) (painted : search.color node = .gray)
    (edge : ∀ last ∈ search.stack.getLast?, Edge next last node) :
    Sound next (search.close node) where
  gray := sound.gray
  nodup := sound.nodup
  path := sound.path
  cycles := by
    intro cycle member
    obtain known | new := List.mem_append.mp member
    · exact sound.cycles cycle known
    · rw [List.mem_singleton.mp new]
      obtain ⟨front, back, split⟩ := List.append_of_mem ((sound.gray node).mp painted)
      have nodup := sound.nodup
      have path := sound.path
      rw [split] at nodup path
      have fresh : node ∉ front := by
        intro inside
        exact (List.nodup_append.mp nodup).2.2 node inside node List.mem_cons_self rfl
      have part : search.stack.drop (search.stack.idxOf node) = node :: back := by
        rw [split, List.idxOf_append_of_notMem fresh, List.idxOf_cons_self, Nat.add_zero,
          List.drop_left]
      rw [part]
      refine ⟨node, back, rfl, (List.nodup_append.mp nodup).2.1, ?_⟩
      rw [List.isChain_append]
      refine ⟨path.right_of_append, List.isChain_singleton node, ?_⟩
      intro last lastIn first firstIn
      obtain rfl : node = first := by simpa using firstIn
      apply edge last
      rw [split, List.getLast?_append_of_ne_nil _ (List.cons_ne_nil _ _)]
      exact lastIn
  closed none := absurd none (List.append_ne_nil_of_right_ne_nil _ (List.cons_ne_nil _ _))
  acyclic none := absurd none (List.append_ne_nil_of_right_ne_nil _ (List.cons_ne_nil _ _))

theorem grows_close (search : Search V) (node : V) : Grows search (search.close node) :=
  ⟨rfl, fun _ _ => rfl, fun _ => List.append_ne_nil_of_right_ne_nil _ (List.cons_ne_nil _ _)⟩

theorem Sound.enter (sound : Sound next search) (unpainted : search.color node = .white)
    (edge : ∀ last ∈ search.stack.getLast?, Edge next last node) :
    Sound next (search.enter node) where
  gray := by
    intro other
    by_cases same : other = node
    · subst same
      simp [Search.enter]
    · simp [Search.enter, same, sound.gray]
  nodup := by
    have fresh : node ∉ search.stack := by
      intro inside
      rw [(sound.gray node).mpr inside] at unpainted
      cases unpainted
    exact List.nodup_append.mpr ⟨sound.nodup, List.nodup_singleton node, fun other inside last same =>
      fun equal => fresh (by rw [List.mem_singleton.mp same] at equal; exact equal ▸ inside)⟩
  path := by
    refine List.isChain_append.mpr ⟨sound.path, List.isChain_singleton node, ?_⟩
    intro last lastIn first firstIn
    obtain rfl : node = first := by simpa using firstIn
    exact edge last lastIn
  cycles := sound.cycles
  closed := by
    intro none other painted leads member
    have old : other ≠ node := by
      rintro rfl
      simp [Search.enter] at painted
    simp only [Search.enter, Function.update_of_ne old] at painted
    have reached := sound.closed none other painted leads member
    have apart : leads ≠ node := by
      rintro rfl
      rw [unpainted] at reached
      cases reached
    simp only [Search.enter, Function.update_of_ne apart]
    exact reached
  acyclic := by
    intro none other painted
    have old : other ≠ node := by
      rintro rfl
      simp [Search.enter] at painted
    simp only [Search.enter, Function.update_of_ne old] at painted
    exact sound.acyclic none other painted

/-- A node whose successors are done can be left. -/
theorem Sound.leave (sound : Sound next search) {stack : List V}
    (top : search.stack = stack ++ [node])
    (done : search.cycles = [] → ∀ other ∈ next node, search.color other = .black) :
    Sound next (search.leave node) := by
  have nodup := sound.nodup
  have path := sound.path
  rw [top] at nodup path
  have fresh : node ∉ stack := by
    intro inside
    exact (List.nodup_append.mp nodup).2.2 node inside node (List.mem_singleton_self _) rfl
  have below : search.stack.dropLast = stack := by rw [top, List.dropLast_concat]
  have gray : search.color node = .gray := (sound.gray node).mpr (by simp [top])
  have painted {other : V} (black : search.color other = .black) :
      (search.leave node).color other = .black := by
    by_cases same : other = node
    · simp [Search.leave, same]
    · simp [Search.leave, same, black]
  constructor
  · intro other
    by_cases same : other = node
    · subst same
      simp [Search.leave, below, fresh]
    · simp [Search.leave, same, sound.gray, top]
  · simp only [Search.leave, below]
    exact (List.nodup_append.mp nodup).1
  · simp only [Search.leave, below]
    exact path.left_of_append
  · exact sound.cycles
  · intro none other black leads member
    by_cases same : other = node
    · subst same
      exact painted (done none leads member)
    · simp only [Search.leave, Function.update_of_ne same] at black
      exact painted (sound.closed none other black leads member)
  · intro none other black cycle
    by_cases same : other = node
    · subst same
      -- A successor of the node is black, and black nodes do not lead back to a gray one.
      obtain ⟨first, edge, rest⟩ := Relation.TransGen.head'_iff.mp cycle
      have blackFirst := done none first edge
      obtain same | path := Relation.reflTransGen_iff_eq_or_transGen.mp rest
      · rw [← same, gray] at blackFirst
        cases blackFirst
      · have reached := sound.reaches none blackFirst path
        rw [gray] at reached
        cases reached
    · simp only [Search.leave, Function.update_of_ne same] at black
      exact sound.acyclic none other black cycle

/-- A visit of an unpainted node that the top of the stack leads to paints it black, given fuel for
every unpainted node. -/
def Visits (next : V → List V) (nodes : List V) (fuel : Nat)
    (visit : V → Search V → Option (Search V)) : Prop :=
  ∀ search node, Sound next search → search.color node = .white → node ∈ nodes →
    (∀ last ∈ search.stack.getLast?, Edge next last node) → whites nodes search ≤ fuel →
    ∃ after, visit node search = some after ∧ Sound next after ∧ Grows search after ∧
      after.color node = .black

variable {fuel : Nat} {visit : V → Search V → Option (Search V)}

theorem meet_spec (visits : Visits next nodes fuel visit) (sound : Sound next search)
    (known : node ∈ nodes) (edge : ∀ last ∈ search.stack.getLast?, Edge next last node)
    (enough : whites nodes search ≤ fuel) :
    ∃ after, meet visit search node = some after ∧ Sound next after ∧ Grows search after ∧
      (after.cycles = [] → after.color node = .black) := by
  unfold meet
  cases color : search.color node with
  | gray =>
      refine ⟨search.close node, rfl, sound.close color edge, grows_close search node, ?_⟩
      intro none
      exact absurd none (List.append_ne_nil_of_right_ne_nil _ (List.cons_ne_nil _ _))
  | black => exact ⟨search, rfl, sound, Grows.refl search, fun _ => color⟩
  | white =>
      obtain ⟨after, visited, soundAfter, grows, black⟩ :=
        visits search node sound color known edge enough
      exact ⟨after, visited, soundAfter, grows, fun _ => black⟩

/-- Meeting the successors of the stack's top leaves each of them black, or finds a cycle. -/
theorem scan_spec (visits : Visits next nodes fuel visit) (successors : List V) :
    ∀ search : Search V, Sound next search → whites nodes search ≤ fuel →
      (∀ other ∈ successors, other ∈ nodes ∧
        ∀ last ∈ search.stack.getLast?, Edge next last other) →
      ∃ after, successors.foldlM (meet visit) search = some after ∧ Sound next after ∧
        Grows search after ∧
        (after.cycles = [] → ∀ other ∈ successors, after.color other = .black) := by
  induction successors with
  | nil => exact fun search sound _ _ => ⟨search, rfl, sound, Grows.refl search, fun _ => nofun⟩
  | cons node rest ih =>
      intro search sound enough edges
      obtain ⟨known, edge⟩ := edges node List.mem_cons_self
      obtain ⟨middle, met, soundMiddle, first, black⟩ :=
        meet_spec visits sound known edge enough
      have later : ∀ other ∈ rest, other ∈ nodes ∧
          ∀ last ∈ middle.stack.getLast?, Edge next last other := by
        rw [first.stack]
        exact fun other member => edges other (List.mem_cons_of_mem node member)
      obtain ⟨after, scanned, soundAfter, second, blacks⟩ :=
        ih middle soundMiddle ((first.whites_le nodes).trans enough) later
      refine ⟨after, ?_, soundAfter, first.trans second, ?_⟩
      · rw [List.foldlM_cons, met]
        exact scanned
      · intro none other member
        obtain rfl | member := List.mem_cons.mp member
        · have before : middle.cycles = [] := by
            by_contra found
            exact second.cycles found none
          rw [second.color other (by rw [black before]; decide), black before]
        · exact blacks none other member

theorem whites_enter (unpainted : search.color node = .white) (known : node ∈ nodes) :
    whites nodes (search.enter node) < whites nodes search := by
  have remaining : nodes.filter ((search.enter node).color · = .white)
      = (nodes.filter (search.color · = .white)).filter (· ≠ node) := by
    rw [List.filter_filter]
    apply List.filter_congr
    intro other _
    by_cases same : other = node
    · simp [Search.enter, same]
    · simp [Search.enter, same]
  unfold whites
  rw [remaining, List.length_filter_lt_length_iff_exists]
  exact ⟨node, List.mem_filter.mpr ⟨known, decide_eq_true unpainted⟩, by simp⟩

theorem dfs_visits (within : ∀ node ∈ nodes, ∀ other ∈ next node, other ∈ nodes) (fuel : Nat) :
    Visits next nodes fuel (dfs next fuel) := by
  induction fuel with
  | zero =>
      intro search node _ unpainted known _ enough
      have counted := whites_enter unpainted known
      omega
  | succ fuel ih =>
      intro search node sound unpainted known edge enough
      have counted := whites_enter unpainted known
      have edges : ∀ other ∈ next node, other ∈ nodes ∧
          ∀ last ∈ (search.enter node).stack.getLast?, Edge next last other := by
        intro other member
        refine ⟨within node known other member, ?_⟩
        intro last top
        rw [Search.enter, List.getLast?_concat, Option.mem_some_iff] at top
        exact top ▸ member
      obtain ⟨after, scanned, soundAfter, grows, blacks⟩ :=
        scan_spec ih (next node) (search.enter node) (sound.enter unpainted edge) (by omega) edges
      refine ⟨after.leave node, ?_, soundAfter.leave grows.stack blacks, ?_, ?_⟩
      · rw [dfs, scanned]
        rfl
      · constructor
        · show after.stack.dropLast = search.stack
          rw [grows.stack]
          exact List.dropLast_concat
        · intro other painted
          have apart : other ≠ node := fun same => painted (same ▸ unpainted)
          have entered : (search.enter node).color other = search.color other :=
            Function.update_of_ne apart _ _
          have left : (after.leave node).color other = after.color other :=
            Function.update_of_ne apart _ _
          rw [left, ← entered]
          exact grows.color other (entered ▸ painted)
        · exact grows.cycles
      · exact Function.update_self node _ _

theorem root_spec (within : ∀ node ∈ nodes, ∀ other ∈ next node, other ∈ nodes)
    (sound : Sound next search) (idle : search.stack = []) (known : node ∈ nodes)
    (enough : whites nodes search ≤ fuel) :
    ∃ after, root next fuel search node = some after ∧ Sound next after ∧ Grows search after ∧
      after.color node = .black := by
  unfold root
  cases color : search.color node with
  | white =>
      rw [if_pos rfl]
      apply dfs_visits within fuel search node sound color known _ enough
      rw [idle]
      exact nofun
  | gray =>
      have inside := (sound.gray node).mp color
      rw [idle] at inside
      cases inside
  | black => exact ⟨search, rfl, sound, Grows.refl search, color⟩

theorem roots_spec (within : ∀ node ∈ nodes, ∀ other ∈ next node, other ∈ nodes)
    (starts : List V) :
    ∀ search : Search V, Sound next search → search.stack = [] → whites nodes search ≤ fuel →
      (∀ node ∈ starts, node ∈ nodes) →
      ∃ after, starts.foldlM (root next fuel) search = some after ∧ Sound next after ∧
        Grows search after ∧ ∀ node ∈ starts, after.color node = .black := by
  induction starts with
  | nil => exact fun search sound _ _ _ => ⟨search, rfl, sound, Grows.refl search, nofun⟩
  | cons node rest ih =>
      intro search sound idle enough known
      obtain ⟨middle, rooted, soundMiddle, first, black⟩ :=
        root_spec within sound idle (known node List.mem_cons_self) enough
      obtain ⟨after, searched, soundAfter, second, blacks⟩ :=
        ih middle soundMiddle (first.stack.trans idle) ((first.whites_le nodes).trans enough)
          (fun other member => known other (List.mem_cons_of_mem node member))
      refine ⟨after, ?_, soundAfter, first.trans second, ?_⟩
      · rw [List.foldlM_cons, rooted]
        exact searched
      · intro other member
        obtain rfl | member := List.mem_cons.mp member
        · rw [second.color other (by rw [black]; decide), black]
        · exact blacks other member

/-- The search of a whole graph returns, with every node black. -/
theorem searchAll_spec (within : ∀ node ∈ nodes, ∀ other ∈ next node, other ∈ nodes) :
    ∃ search, searchAll next nodes = some search ∧ Sound next search ∧
      ∀ node ∈ nodes, search.color node = .black := by
  have enough : whites nodes (.initial : Search V) ≤ nodes.length := List.length_filter_le _ _
  obtain ⟨search, searched, sound, _, blacks⟩ :=
    roots_spec within nodes .initial sound_initial rfl enough (fun _ member => member)
  exact ⟨search, searched, sound, blacks⟩

end

end Adjudicate.DepthFirst
