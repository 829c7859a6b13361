/-
This file models the guard factories that compare numbers, wait for signals or ask for an owner.
-/

import Adjudicate.Js.Coercion
import Adjudicate.Kernel.ListedGuards
import Adjudicate.Primitives.AuthorityGuard

namespace Adjudicate.Primitives

open Js Adjudicate.Core Adjudicate.Kernel

variable {S : Type}

/-- This is `nameGuard` on an anonymous function. -/
def named (name : JsString) (run : IntentEnvelope → S → Except Thrown (Option Decision)) :
    Guard S where
  metadataName := some name
  functionName := []
  run := run

/-- A guard that is a constant takes its function name from it. -/
def constant (name : JsString) (run : IntentEnvelope → S → Except Thrown (Option Decision)) :
    Guard S where
  metadataName := none
  functionName := name
  run := run

inductive ThresholdComparator where
  | atLeast
  | atMost
  | above
  | below
deriving DecidableEq

/-- These are the `COMPARATORS`. -/
def ThresholdComparator.compare (comparator : ThresholdComparator) (value threshold : JsNumber) :
    Bool :=
  match comparator with
  | .atLeast => threshold.atMost value
  | .atMost => value.atMost threshold
  | .above => threshold.below value
  | .below => value.below threshold

/-- The extracted value is whatever the payload holds. -/
structure ThresholdGuardOptions (S : Type) where
  applies : IntentEnvelope → S → Except Thrown Bool
  extract : IntentEnvelope → S → Except Thrown JsValue
  threshold : JsNumber
  comparator : ThresholdComparator
  onCross : JsValue → JsNumber → IntentEnvelope → S → Except Thrown Decision

/-- The comparison converts the value to a number. -/
def createThresholdGuard (options : ThresholdGuardOptions S) : Guard S where
  metadataName := none
  functionName := "guard"
  run envelope state := do
    if !(← options.applies envelope state) then return none
    match ← options.extract envelope state with
    | .undefined => return none
    | .null => return none
    | value =>
        if !options.comparator.compare (← value.toNumber) options.threshold then return none
        return some (← options.onCross value options.threshold envelope state)

section Threshold

variable {options : ThresholdGuardOptions S} {envelope : IntentEnvelope} {state : S} {value : JsValue}
  (applies : options.applies envelope state = .ok true)
  (extracts : options.extract envelope state = .ok value)

include applies extracts

/-- A threshold guard answers for a present value whose number crosses the threshold. -/
theorem createThresholdGuard_speaks {decision : Decision}
    (speaks : (createThresholdGuard options).run envelope state = .ok (some decision)) :
    options.onCross value options.threshold envelope state = .ok decision ∧
      ∃ number, value.toNumber = .ok number ∧
        options.comparator.compare number options.threshold = true := by
  simp only [createThresholdGuard, applies, extracts, ok_bind, Bool.not_true, Bool.false_eq_true,
    if_false] at speaks
  split at speaks
  · cases speaks
  · cases speaks
  · obtain ⟨number, converted, answered⟩ := bind_eq_ok.mp speaks
    cases crosses : options.comparator.compare number options.threshold with
    | false =>
        simp only [crosses, Bool.not_false, if_true] at answered
        cases answered
    | true =>
        simp only [crosses, Bool.not_true, Bool.false_eq_true, if_false] at answered
        obtain ⟨crossed, same, ⟨⟩⟩ := bind_eq_ok.mp answered
        exact ⟨same, number, converted, crosses⟩

/-- A threshold guard is silent on a missing value and on a number that does not cross. -/
theorem createThresholdGuard_silent
    (silent : (createThresholdGuard options).run envelope state = .ok none) :
    value = .undefined ∨ value = .null ∨ ∃ number, value.toNumber = .ok number ∧
      options.comparator.compare number options.threshold = false := by
  simp only [createThresholdGuard, applies, extracts, ok_bind, Bool.not_true, Bool.false_eq_true,
    if_false] at silent
  split at silent
  · exact .inl rfl
  · exact .inr (.inl rfl)
  · obtain ⟨number, converted, answered⟩ := bind_eq_ok.mp silent
    refine .inr (.inr ⟨number, converted, ?_⟩)
    by_contra crosses
    simp only [Bool.not_eq_false] at crosses
    simp only [crosses, Bool.not_true, Bool.false_eq_true, if_false] at answered
    obtain ⟨decision, -, ⟨⟩⟩ := bind_eq_ok.mp answered

end Threshold

theorem createThresholdGuard_opinions {options : ThresholdGuardOptions S} {holds : Decision → Prop}
    {envelope : IntentEnvelope} {state : S}
    (crosses : ∀ value decision,
      options.onCross value options.threshold envelope state = .ok decision → holds decision) :
    Opinions holds ((createThresholdGuard options).run envelope state) := by
  refine opinions_bind fun applies _ => opinions_ite (fun _ => opinions_none) fun _ => ?_
  refine opinions_bind fun value _ => ?_
  split
  · exact opinions_none
  · exact opinions_none
  · refine opinions_bind fun number _ => opinions_ite (fun _ => opinions_none) fun _ => ?_
    exact opinions_bind fun decision crossed => opinions_answer (crosses _ decision crossed)

structure EscalateGuardOptions (S : Type) where
  applies : IntentEnvelope → S → Except Thrown Bool
  extract : IntentEnvelope → S → Except Thrown JsValue
  threshold : JsNumber
  comparator : ThresholdComparator
  «to» : EscalationTarget
  reason : JsValue → JsNumber → IntentEnvelope → S → Except Thrown JsString
  basis : Option (JsValue → JsNumber → IntentEnvelope → Except Thrown (List DecisionBasis))

def EscalateGuardOptions.basisList (options : EscalateGuardOptions S) (value : JsValue)
    (threshold : JsNumber) (envelope : IntentEnvelope) : Except Thrown (List DecisionBasis) :=
  match options.basis with
  | some build => build value threshold envelope
  | none => .ok [Core.basis .business "rule_satisfied"
      (some [("rule", .str "escalation_threshold_reached"), ("threshold", .num threshold),
        ("value", value)])]

def createEscalateGuard (options : EscalateGuardOptions S) : Guard S :=
  createThresholdGuard
    { applies := options.applies
      extract := options.extract
      threshold := options.threshold
      comparator := options.comparator
      onCross := fun value threshold envelope state => do
        let basisList ← options.basisList value threshold envelope
        return .escalate options.to (← options.reason value threshold envelope state) basisList }

theorem createEscalateGuard_escalates {options : EscalateGuardOptions S} {envelope : IntentEnvelope}
    {state : S} : Opinions (·.kind = .escalate) ((createEscalateGuard options).run envelope state) := by
  refine createThresholdGuard_opinions fun value decision crossed => ?_
  obtain ⟨basisList, -, later⟩ := bind_eq_ok.mp crossed
  obtain ⟨text, -, ⟨⟩⟩ := bind_eq_ok.mp later
  rfl

structure ConfirmGuardOptions (S : Type) where
  applies : IntentEnvelope → S → Except Thrown Bool
  extract : IntentEnvelope → S → Except Thrown JsValue
  threshold : JsNumber
  comparator : ThresholdComparator
  prompt : JsValue → JsNumber → IntentEnvelope → S → Except Thrown JsString
  basis : Option (JsValue → JsNumber → IntentEnvelope → Except Thrown (List DecisionBasis))

def ConfirmGuardOptions.basisList (options : ConfirmGuardOptions S) (value : JsValue)
    (threshold : JsNumber) (envelope : IntentEnvelope) : Except Thrown (List DecisionBasis) :=
  match options.basis with
  | some build => build value threshold envelope
  | none => .ok [Core.basis .business "rule_satisfied"
      (some [("rule", .str "confirm_threshold_reached"), ("threshold", .num threshold),
        ("value", value)])]

def createConfirmGuard (options : ConfirmGuardOptions S) : Guard S :=
  createThresholdGuard
    { applies := options.applies
      extract := options.extract
      threshold := options.threshold
      comparator := options.comparator
      onCross := fun value threshold envelope state => do
        let basisList ← options.basisList value threshold envelope
        return .requestConfirmation (← options.prompt value threshold envelope state) basisList }

theorem createConfirmGuard_asks {options : ConfirmGuardOptions S} {envelope : IntentEnvelope}
    {state : S} :
    Opinions (·.kind = .requestConfirmation) ((createConfirmGuard options).run envelope state) := by
  refine createThresholdGuard_opinions fun value decision crossed => ?_
  obtain ⟨basisList, -, later⟩ := bind_eq_ok.mp crossed
  obtain ⟨text, -, ⟨⟩⟩ := bind_eq_ok.mp later
  rfl

structure StateDeferGuardOptions (S : Type) where
  applies : IntentEnvelope → S → Except Thrown Bool
  signal : JsString
  timeoutMs : JsNumber
  basis : List DecisionBasis

def createStateDeferGuard (options : StateDeferGuardOptions S) : Guard S where
  metadataName := none
  functionName := "guard"
  run envelope state := do
    if !(← options.applies envelope state) then return none
    return some (.defer options.signal options.timeoutMs options.basis)

/-- The listed kinds need trust, and every other kind needs none. -/
def createSystemTaintPolicy (systemOnlyKinds : List JsString) : TaintPolicy where
  minimumFor kind := .ok (if systemOnlyKinds.contains kind then .trusted else .untrusted)
  requiresUncontaminatedOrigin := none

/-- The host injects its authority graph and knows the principal of a session. -/
structure InjectedAuthority where
  store : AuthorityGraphStore
  principalOf : Option (JsString → Except Thrown (Option JsString))

/-- The packs share this guard, which stays out of the way without an injected authority. -/
def createInjectedAuthorityGuard (authority : S → Option InjectedAuthority)
    (gatedKinds : List JsString) : Guard S :=
  createAuthorityGuard
    (fun envelope state =>
      match authority state with
      | some authority => .ok (resolveOwnership authority.store envelope ⟨none, none⟩)
      | none => .error (.error "TypeError" "Cannot read properties of undefined (reading 'store')"))
    { scope := some fun envelope state =>
        .ok ((authority state).isSome && gatedKinds.contains envelope.kind)
      authenticatedPrincipal := some fun envelope state =>
        match (authority state).bind InjectedAuthority.principalOf with
        | some principalOf => principalOf envelope.actor.sessionId
        | none => .ok none
      refusalUserFacing := none }

theorem createInjectedAuthorityGuard_refuses {authority : S → Option InjectedAuthority}
    {gatedKinds : List JsString} {envelope : IntentEnvelope} {state : S} (decision : Decision)
    (speaks : (createInjectedAuthorityGuard authority gatedKinds).run envelope state =
      .ok (some decision)) : decision.kind = .refuse := createAuthorityGuard_refuses speaks

end Adjudicate.Primitives
