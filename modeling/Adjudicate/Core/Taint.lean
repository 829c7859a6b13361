/-
This file models the provenance lattice and the taint gate.
-/

import Adjudicate.Js.Value

namespace Adjudicate.Core

open Js

inductive Taint where
  | system
  | trusted
  | untrusted
deriving DecidableEq

def Taint.text : Taint → JsString
  | .system => "SYSTEM"
  | .trusted => "TRUSTED"
  | .untrusted => "UNTRUSTED"

inductive Origin where
  | human
  | retrieved
  | externalApi
  | llm
  | system
deriving DecidableEq

def Origin.text : Origin → JsString
  | .human => "Human"
  | .retrieved => "Retrieved"
  | .externalApi => "ExternalAPI"
  | .llm => "LLM"
  | .system => "System"

/-- This is `DEFAULT_ORIGIN`. -/
def defaultOrigin : Origin := .llm

/-- This is membership in `CONTAMINATING_ORIGINS`. -/
def isContaminatingOrigin : Origin → Bool
  | .retrieved => true
  | .externalApi => true
  | _ => false

/-- A higher rank means more trust. -/
def taintRank : Taint → Nat
  | .system => 3
  | .trusted => 2
  | .untrusted => 1

/-- The lower trust wins. -/
def mergeTaint (left right : Taint) : Taint := if taintRank left ≤ taintRank right then left else right

/-- The policy methods are arbitrary functions of the intent kind and may throw. -/
structure TaintPolicy where
  minimumFor : JsString → Except Thrown Taint
  requiresUncontaminatedOrigin : Option (JsString → Except Thrown Bool)

def canPropose (taint : Taint) (intentKind : JsString) (policy : TaintPolicy) :
    Except Thrown Bool := do
  let required ← policy.minimumFor intentKind
  return decide (taintRank taint ≥ taintRank required)

def canProposeWithOrigin (taint : Taint) (intentKind : JsString) (origin : Origin)
    (policy : TaintPolicy) : Except Thrown Bool := do
  if !(← canPropose taint intentKind policy) then
    return false
  match policy.requiresUncontaminatedOrigin with
  | none => return true
  | some requiresUncontaminatedOrigin =>
      if (← requiresUncontaminatedOrigin intentKind) && isContaminatingOrigin origin then
        return false
      return true

/-- A taint below the declared minimum never passes the gate. -/
theorem canProposeWithOrigin_of_below {taint required : Taint} {intentKind : JsString}
    {policy : TaintPolicy} (origin : Origin)
    (minimum : policy.minimumFor intentKind = .ok required)
    (below : taintRank taint < taintRank required) :
    canPropose taint intentKind policy = .ok false ∧
      canProposeWithOrigin taint intentKind origin policy = .ok false := by
  have rank : canPropose taint intentKind policy = .ok false := by
    rw [canPropose, minimum]
    exact congrArg Except.ok (decide_eq_false (Nat.not_le.mpr below))
  refine ⟨rank, ?_⟩
  rw [canProposeWithOrigin, rank]
  rfl

/-- The origin branch only turns a pass into a refusal. -/
theorem canPropose_of_canProposeWithOrigin {taint : Taint} {intentKind : JsString}
    {origin : Origin} {policy : TaintPolicy}
    (allowed : canProposeWithOrigin taint intentKind origin policy = .ok true) :
    canPropose taint intentKind policy = .ok true := by
  rw [canProposeWithOrigin] at allowed
  cases rank : canPropose taint intentKind policy with
  | error raised =>
      rw [rank] at allowed
      cases allowed
  | ok passed =>
      cases passed with
      | true => rfl
      | false =>
          rw [rank] at allowed
          cases allowed

/-- A kind that requires an uncontaminated origin never passes the gate from another one. -/
theorem canProposeWithOrigin_of_contaminated {taint : Taint} {intentKind : JsString}
    {origin : Origin} {policy : TaintPolicy} {branch : JsString → Except Thrown Bool}
    (declared : policy.requiresUncontaminatedOrigin = some branch)
    (required : branch intentKind = .ok true) (contaminated : isContaminatingOrigin origin = true) :
    canProposeWithOrigin taint intentKind origin policy ≠ .ok true := by
  intro allowed
  have rank := canPropose_of_canProposeWithOrigin allowed
  rw [canProposeWithOrigin, rank] at allowed
  change (do
    match policy.requiresUncontaminatedOrigin with
    | none => return true
    | some requiresUncontaminatedOrigin =>
        if (← requiresUncontaminatedOrigin intentKind) && isContaminatingOrigin origin then
          return false
        return true : Except Thrown Bool) = _ at allowed
  rw [declared] at allowed
  dsimp only at allowed
  rw [required, ok_bind, contaminated] at allowed
  cases allowed

end Adjudicate.Core
