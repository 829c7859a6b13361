/-
This file models the detection of cycles among the escalation edges of a pack.
-/

import Adjudicate.Graph.DepthFirst
import Adjudicate.Js.Sorting
import Adjudicate.Js.Text

namespace Adjudicate.Analyze

open Js DepthFirst

structure EscalationEdge where
  «from» : JsString
  «to» : JsString

/-- This is one step of the loop that fills the adjacency map. -/
def pushEdge (adj : JsString → Option (List JsString)) (edge : EscalationEdge) :
    JsString → Option (List JsString) :=
  match adj edge.from with
  | some list => Function.update adj edge.from (some (list ++ [edge.to]))
  | none => Function.update adj edge.from (some [edge.to])

def adjacency (edges : List EscalationEdge) : JsString → Option (List JsString) :=
  edges.foldl pushEdge fun _ => none

/-- The successors are met in the order of their UTF-16 code units. -/
def successors (edges : List EscalationEdge) (node : JsString) : List JsString :=
  sortBy id ((adjacency edges node).getD [])

def escalationNodes (edges : List EscalationEdge) : List JsString :=
  sortBy id (edges.flatMap fun edge => [edge.from, edge.to]).eraseDups

/-- The result is missing only if the recursion goes deeper than the number of nodes. -/
def detectEscalationCycles (edges : List EscalationEdge) : Option (List (List JsString)) :=
  (searchAll (successors edges) (escalationNodes edges)).map Search.cycles

/-- Some edge joins the nodes. -/
def Joined (edges : List EscalationEdge) (first second : JsString) : Prop :=
  ⟨first, second⟩ ∈ edges

section

variable {edges other : List EscalationEdge} {first second : JsString}

theorem foldl_pushEdge (edges : List EscalationEdge) (node : JsString) :
    ∀ adj : JsString → Option (List JsString),
      (edges.foldl pushEdge adj node).getD [] =
        (adj node).getD [] ++ (edges.filter (·.from = node)).map EscalationEdge.to := by
  induction edges with
  | nil =>
      intro adj
      exact (List.append_nil _).symm
  | cons edge rest ih =>
      intro adj
      have pushed : (pushEdge adj edge node).getD [] =
          (adj node).getD [] ++ if edge.from = node then [edge.to] else [] := by
        unfold pushEdge
        by_cases same : edge.from = node
        · subst same
          cases held : adj edge.from with
          | none => simp
          | some list => simp
        · have apart : node ≠ edge.from := fun equal => same equal.symm
          cases adj edge.from with
          | none => simp [apart, same]
          | some list => simp [apart, same]
      rw [List.foldl_cons, ih, pushed, List.append_assoc]
      by_cases same : edge.from = node
      · simp [same]
      · simp [same]

theorem adjacency_getD (edges : List EscalationEdge) (node : JsString) :
    (adjacency edges node).getD [] = (edges.filter (·.from = node)).map EscalationEdge.to :=
  (foldl_pushEdge edges node fun _ => none).trans (List.nil_append _)

theorem mem_successors : second ∈ successors edges first ↔ Joined edges first second := by
  unfold successors Joined
  rw [mem_sortBy, adjacency_getD, List.mem_map]
  constructor
  · rintro ⟨⟨source, target⟩, member, rfl⟩
    obtain ⟨inside, same⟩ := List.mem_filter.mp member
    obtain rfl : source = first := of_decide_eq_true same
    exact inside
  · intro member
    exact ⟨⟨first, second⟩, List.mem_filter.mpr ⟨member, decide_eq_true rfl⟩, rfl⟩

theorem edge_successors (edges : List EscalationEdge) : Edge (successors edges) = Joined edges := by
  funext first second
  exact propext mem_successors

theorem mem_escalationNodes (joined : Joined edges first second) :
    first ∈ escalationNodes edges ∧ second ∈ escalationNodes edges := by
  simp only [escalationNodes, mem_sortBy, List.mem_eraseDups, List.mem_flatMap]
  exact ⟨⟨_, joined, by simp⟩, ⟨_, joined, by simp⟩⟩

theorem successors_perm (perm : other.Perm edges) : successors other = successors edges := by
  funext node
  simp only [successors, adjacency_getD]
  exact sortBy_congr id ((perm.filter _).map _) fun _ _ _ _ => id

theorem escalationNodes_perm (perm : other.Perm edges) :
    escalationNodes other = escalationNodes edges :=
  sortBy_congr id (eraseDups_perm (perm.flatMap_right _)) fun _ _ _ _ => id

/-- The detection returns cycles of the edges, none exactly when there is none, whatever the order
of the edges. -/
theorem detectEscalationCycles_exact (edges : List EscalationEdge) :
    ∃ cycles, detectEscalationCycles edges = some cycles ∧
      (cycles ≠ [] ↔ ∃ node, Relation.TransGen (Joined edges) node node) ∧
      (∀ cycle ∈ cycles, ∃ node rest, cycle = node :: (rest ++ [node]) ∧ (node :: rest).Nodup ∧
        cycle.IsChain (Joined edges)) ∧
      ∀ other : List EscalationEdge, other.Perm edges →
        detectEscalationCycles other = some cycles := by
  have within : ∀ node ∈ escalationNodes edges, ∀ other ∈ successors edges node,
      other ∈ escalationNodes edges :=
    fun node _ other member => (mem_escalationNodes (mem_successors.mp member)).2
  obtain ⟨search, searched, sound, blacks⟩ := searchAll_spec within
  have complete : ∀ node, successors edges node ≠ [] → search.color node = .black := by
    intro node leads
    obtain ⟨other, member⟩ := List.exists_mem_of_ne_nil _ leads
    exact blacks node (mem_escalationNodes (mem_successors.mp member)).1
  have detected : detectEscalationCycles edges = some search.cycles := by
    rw [detectEscalationCycles, searched]
    rfl
  refine ⟨search.cycles, detected, ?_, ?_, ?_⟩
  · rw [← edge_successors]
    exact found_iff sound complete
  · rw [← edge_successors]
    exact sound.cycles
  · intro other perm
    rw [← detected, detectEscalationCycles, detectEscalationCycles, successors_perm perm,
      escalationNodes_perm perm]

end

end Adjudicate.Analyze
