/-
This file models the consistency gate over the set of validated claims.
-/

import Adjudicate.Claims.Soundness

namespace Adjudicate.Claims

open Js

inductive TurnTerminal where
  | render
  | unknown
  | escalate
  | clarify
deriving DecidableEq

structure ConsistencyClaim where
  subject : JsString
  type : JsString
  verdict : ClaimVerdict
  value : JsValue

inductive ConsistencyRelation where
  | mutualExclusion
  | implication
  | compatible
deriving DecidableEq

def ConsistencyRelation.name : ConsistencyRelation → String
  | .mutualExclusion => "MUTUAL_EXCLUSION"
  | .implication => "IMPLICATION"
  | .compatible => "COMPATIBLE"

structure ConsistencyConstraint where
  typeA : JsString
  typeB : JsString
  relation : ConsistencyRelation

/-- The key of an unordered pair of type names. -/
def pairKey (typeA typeB : JsString) : JsString :=
  if typeA ≤ typeB then typeA ++ 0 :: typeB else typeB ++ 0 :: typeA

def defaultConsistencyTable : List ConsistencyConstraint :=
  [⟨"ORDER_FULFILLMENT_STAGE", "ORDER_ESTIMATED_ARRIVAL", .mutualExclusion⟩,
   ⟨"PURCHASE_COMPLETED", "PAYMENT_SETTLED", .implication⟩,
   ⟨"ORDER_FULFILLMENT_STAGE", "ORDER_MODIFIABLE", .compatible⟩]

def conflictingTable (constraint : ConsistencyConstraint) (existing : ConsistencyRelation) :
    Thrown :=
  .error "Error" (utf16 "consistency table conflict: pair \x7b" ++ constraint.typeA ++ utf16 ", " ++
    constraint.typeB ++ utf16 ("\x7d declared both " ++ existing.name ++ " and " ++
      constraint.relation.name ++
      " — a same-subject pair must have exactly one declared relation"))

/-- Two relations for one pair throw; the same relation may be declared again. -/
def indexConstraint (index : Props ConsistencyRelation) (constraint : ConsistencyConstraint) :
    Except Thrown (Props ConsistencyRelation) :=
  let key := pairKey constraint.typeA constraint.typeB
  match index.lookup key with
  | some existing =>
      if existing ≠ constraint.relation then .error (conflictingTable constraint existing)
      else .ok (setOwn index key constraint.relation)
  | none => .ok (setOwn index key constraint.relation)

def indexTable (table : List ConsistencyConstraint) : Except Thrown (Props ConsistencyRelation) :=
  table.foldlM indexConstraint []

inductive SuppressionReason where
  | mutualExclusionConflict
  | sameTypeValueConflict
  | unmodelledSameSubject
deriving DecidableEq

/-- A record names the subject and the types of a conflict and no value. -/
structure SuppressionRecord where
  subject : JsString
  conflictTypes : List JsString
  reason : SuppressionReason
  terminal : TurnTerminal
deriving DecidableEq

structure ConsistencyResult where
  renderable : List ConsistencyClaim
  terminal : TurnTerminal
  suppressions : List SuppressionRecord

/-- The positions that are suppressed, and the first record of each recorded position. -/
structure Marks where
  suppressed : Nat → Bool
  recordByIndex : Nat → Option SuppressionRecord

def Marks.start : Marks := ⟨fun _ => false, fun _ => none⟩

def Marks.suppress (marks : Marks) (position : Nat) : Marks :=
  { marks with suppressed := Function.update marks.suppressed position true }

def Marks.record (marks : Marks) (position : Nat) (record : SuppressionRecord) : Marks :=
  { suppressed := Function.update marks.suppressed position true
    recordByIndex :=
      match marks.recordByIndex position with
      | some _ => marks.recordByIndex
      | none => Function.update marks.recordByIndex position (some record) }

def conflictTypes (typeA typeB : JsString) : List JsString :=
  if typeA = typeB then [typeA] else if typeA ≤ typeB then [typeA, typeB] else [typeB, typeA]

def suppressPair (marks : Marks) (subject : JsString) (indexA indexB : Nat)
    (typeA typeB : JsString) (reason : SuppressionReason) : Marks :=
  let record : SuppressionRecord := ⟨subject, conflictTypes typeA typeB, reason, .escalate⟩
  (marks.record indexA record).record indexB record

/-- A repeated value loses its later place silently; every other conflict loses both places. -/
def visitClaims (index : Props ConsistencyRelation) (marks : Marks) (iA iB : Nat)
    (claimA claimB : ConsistencyClaim) : Marks :=
  if claimA.type = claimB.type then
    if sameValue claimA.value claimB.value then marks.suppress iB
    else
      suppressPair marks claimA.subject iA iB claimA.type claimB.type .sameTypeValueConflict
  else
    match index.lookup (pairKey claimA.type claimB.type) with
    | some .mutualExclusion =>
        suppressPair marks claimA.subject iA iB claimA.type claimB.type .mutualExclusionConflict
    | none =>
        suppressPair marks claimA.subject iA iB claimA.type claimB.type .unmodelledSameSubject
    | some .implication => marks
    | some .compatible => marks

def visitPair (validated : List ConsistencyClaim) (index : Props ConsistencyRelation)
    (marks : Marks) (pair : Nat × Nat) : Marks :=
  match validated[pair.1]?, validated[pair.2]? with
  | some claimA, some claimB => visitClaims index marks pair.1 pair.2 claimA claimB
  | _, _ => marks

/-- The positions of each subject, in the order in which the subjects appear. -/
def bySubject (validated : List ConsistencyClaim) : Props (List Nat) :=
  validated.zipIdx.foldl
    (fun buckets (claim, position) =>
      setOwn buckets claim.subject ((buckets.lookup claim.subject).getD [] ++ [position])) []

/-- All pairs of a bucket, the earlier position first. -/
def unorderedPairs : List Nat → List (Nat × Nat)
  | [] => []
  | first :: rest => rest.map (fun second => (first, second)) ++ unorderedPairs rest

def visitedPairs (validated : List ConsistencyClaim) : List (Nat × Nat) :=
  (bySubject validated).flatMap fun bucket => unorderedPairs bucket.2

def gateMarks (validated : List ConsistencyClaim) (index : Props ConsistencyRelation) : Marks :=
  (visitedPairs validated).foldl (visitPair validated index) Marks.start

def validatedOf (claims : List ConsistencyClaim) : List ConsistencyClaim :=
  claims.filter fun claim => claim.verdict = .validated

/-- The members at the positions that the predicate selects. -/
def membersAt (validated : List ConsistencyClaim) (selects : Nat → Bool) : List ConsistencyClaim :=
  (validated.zipIdx.filter fun member => selects member.2).map Prod.fst

def assemble (validated : List ConsistencyClaim) (marks : Marks) : ConsistencyResult :=
  let suppressions := (List.range validated.length).filterMap marks.recordByIndex
  { renderable := membersAt validated fun position => !marks.suppressed position
    terminal := if suppressions.length = 0 then .render else .escalate
    suppressions := suppressions }

/-- The table defaults to the one of the kernel. -/
def tableOf (options : Option (List ConsistencyConstraint)) : List ConsistencyConstraint :=
  options.getD defaultConsistencyTable

def consistencyMarks (claims : List ConsistencyClaim)
    (options : Option (List ConsistencyConstraint)) : Except Thrown Marks := do
  let index ← indexTable (tableOf options)
  .ok (gateMarks (validatedOf claims) index)

def checkConsistency (claims : List ConsistencyClaim)
    (options : Option (List ConsistencyConstraint)) : Except Thrown ConsistencyResult := do
  let marks ← consistencyMarks claims options
  .ok (assemble (validatedOf claims) marks)

end Adjudicate.Claims
