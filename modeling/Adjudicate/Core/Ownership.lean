/-
This file models the authority graph and the resolver of ownership over it.
-/

import Adjudicate.Core.Decision

namespace Adjudicate.Core

open Js

inductive AuthorityRelationship where
  | owns
  | joint
  | advisor
  | custodian
deriving DecidableEq

structure AuthorityPermits where
  actions : List JsString
  limits : Option (Props JsNumber)

/-- The edge binds a principal to a resource. -/
structure AuthorityEdge where
  principal : JsString
  relationship : AuthorityRelationship
  resource : JsString
  permits : AuthorityPermits

structure AuthorityGraph where
  edges : List AuthorityEdge

def AuthorityRelationship.text : AuthorityRelationship → JsString
  | .owns => "owns"
  | .joint => "joint"
  | .advisor => "advisor"
  | .custodian => "custodian"

def AuthorityPermits.toJs (permits : AuthorityPermits) : JsValue :=
  .obj ([(utf16 "actions", JsValue.arr (permits.actions.map .str))] ++
    optionalProp "limits" (permits.limits.map fun limits => .obj (mapValues .num limits)))

def AuthorityEdge.toJs (edge : AuthorityEdge) : JsValue :=
  .obj [("principal", .str edge.principal), ("relationship", .str edge.relationship.text),
    ("resource", .str edge.resource), ("permits", edge.permits.toJs)]

def AuthorityGraph.toJs (graph : AuthorityGraph) : JsValue :=
  .obj [("edges", .arr (graph.edges.map AuthorityEdge.toJs))]

/-- The windows map each window to its committed aggregate. -/
structure AggregateSnapshot where
  windows : Props JsNumber
  «at» : JsString

def AggregateSnapshot.toJs (snapshot : AggregateSnapshot) : JsValue :=
  .obj [("windows", .obj (mapValues .num snapshot.windows)), ("at", .str snapshot.at)]

/-- The store looks edges up in the snapshot it was made from. -/
structure AuthorityGraphStore where
  graph : AuthorityGraph
  edgesFor : Option JsString → Option JsString → List AuthorityEdge

def createAuthorityGraphStore (graph : AuthorityGraph) : AuthorityGraphStore where
  graph := graph
  edgesFor
    | some principal, some resource =>
        graph.edges.filter fun edge => edge.principal = principal && edge.resource = resource
    | _, _ => []

structure OwnershipRefKeys where
  principalKey : Option JsString
  resourceKey : Option JsString

def defaultPrincipalKey : JsString := "owner"

def defaultResourceKey : JsString := "resource"

structure OwnershipFact where
  principal : Option JsString
  resource : Option JsString
  bound : Bool
  relationships : List AuthorityRelationship
  permits : List JsString
  edges : List AuthorityEdge

def dedupe {A : Type} [DecidableEq A] (values : List A) : List A :=
  values.foldl (fun out value => if value ∈ out then out else out ++ [value]) []

/-- This is the lookup `refs?.[key] ?? null`. -/
def declaredRef (envelope : IntentEnvelope) (key : JsString) : Option JsString :=
  envelope.resourceRefs.bind fun refs => refs.refs.lookup key

/-- The fact condenses the edges between the declared principal and the declared resource. -/
def resolveOwnership (store : AuthorityGraphStore) (envelope : IntentEnvelope)
    (refKeys : OwnershipRefKeys) : OwnershipFact :=
  let principal := declaredRef envelope (refKeys.principalKey.getD defaultPrincipalKey)
  let resource := declaredRef envelope (refKeys.resourceKey.getD defaultResourceKey)
  let edges := store.edgesFor principal resource
  { principal := principal
    resource := resource
    bound := decide (edges.length > 0)
    relationships := dedupe (edges.map AuthorityEdge.relationship)
    permits := dedupe (edges.flatMap fun edge => edge.permits.actions)
    edges := edges }

theorem mem_edgesFor {graph : AuthorityGraph} {principal resource : Option JsString}
    {edge : AuthorityEdge} :
    edge ∈ (createAuthorityGraphStore graph).edgesFor principal resource ↔
      edge ∈ graph.edges ∧ principal = some edge.principal ∧ resource = some edge.resource := by
  cases principal with
  | none => simp [createAuthorityGraphStore]
  | some principal =>
      cases resource with
      | none => simp [createAuthorityGraphStore]
      | some resource =>
          simp only [createAuthorityGraphStore, List.mem_filter, Bool.and_eq_true,
            decide_eq_true_eq, Option.some.injEq]
          exact and_congr_right fun _ => and_congr eq_comm eq_comm

/-- An envelope without a declared pair of the snapshot is not bound. -/
theorem resolveOwnership_bound {graph : AuthorityGraph} {envelope : IntentEnvelope}
    {refKeys : OwnershipRefKeys} :
    (resolveOwnership (createAuthorityGraphStore graph) envelope refKeys).bound = true ↔
      ∃ edge ∈ graph.edges,
        declaredRef envelope (refKeys.principalKey.getD defaultPrincipalKey) =
            some edge.principal ∧
          declaredRef envelope (refKeys.resourceKey.getD defaultResourceKey) =
            some edge.resource := by
  simp only [resolveOwnership, gt_iff_lt, decide_eq_true_eq, List.length_pos_iff_exists_mem,
    mem_edgesFor]

end Adjudicate.Core
