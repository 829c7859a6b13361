/-
This file shows that the kernel returns the answer of the first step with an opinion.
-/

import Adjudicate.Kernel.Adjudicate

namespace Adjudicate.Kernel

open Js Canonical Adjudicate.Core

/-- A step decides from the inputs alone and knows nothing of the earlier bases. -/
structure Step where
  phase : TracePhase
  index : Option Nat
  guardName : Option JsString
  outcome : Except Thrown (Option Decision)

def Step.entry (step : Step) (outcome : TraceOutcome) : AdjudicationTraceEntry :=
  { phase := step.phase, index := step.index, guardName := step.guardName, outcome }

/-- These are the pass bases of the phases before the given one. -/
def completedBases : TracePhase → List DecisionBasis
  | .kill => []
  | .schema => []
  | .state => [basis .schema BasisCodes.versionSupported none]
  | .taint => [basis .schema BasisCodes.versionSupported none] ++ makePassBasis .state
  | .auth =>
      [basis .schema BasisCodes.versionSupported none] ++ makePassBasis .state ++
        makePassBasis .taint
  | .business =>
      [basis .schema BasisCodes.versionSupported none] ++ makePassBasis .state ++
        makePassBasis .taint ++ makePassBasis .auth
  | .default =>
      [basis .schema BasisCodes.versionSupported none] ++ makePassBasis .state ++
        makePassBasis .taint ++ makePassBasis .auth ++ makePassBasis .business

/-- The first step with an opinion decides, and the trace records every step up to it. -/
def runSteps : List Step → Option (List AdjudicationTraceEntry) →
    Except Thrown (Decision × Option (List AdjudicationTraceEntry))
  | [], _ => .error (.other [])
  | step :: rest, traceOut => do
      match ← step.outcome with
      | none => runSteps rest (push traceOut (step.entry .pass))
      | some decision =>
          return (enrichBasis decision (completedBases step.phase),
            push traceOut (step.entry .match))

def Silent (step : Step) : Prop := step.outcome = .ok none

/-- Silent steps only extend the trace. -/
theorem runSteps_append {passed : List Step} (silent : ∀ step ∈ passed, Silent step)
    (more : List Step) (traceOut : Option (List AdjudicationTraceEntry)) :
    runSteps (passed ++ more) traceOut =
      runSteps more (traceOut.map (· ++ passed.map (·.entry .pass))) := by
  induction passed generalizing traceOut with
  | nil => simp
  | cons step passed ih =>
      obtain ⟨head, tail⟩ := List.forall_mem_cons.mp silent
      rw [List.cons_append, runSteps, head]
      change runSteps (passed ++ more) (push traceOut (step.entry .pass)) = _
      rw [ih tail, push, Option.map_map]
      congr 2
      funext trace
      simp

/-- Every list of steps is silent or splits at its first step with an outcome. -/
theorem steps_split (list : List Step) :
    (∀ step ∈ list, Silent step) ∨
      ∃ passed last rest, list = passed ++ last :: rest ∧ (∀ step ∈ passed, Silent step) ∧
        ¬Silent last := by
  induction list with
  | nil => exact .inl (by simp)
  | cons step list ih =>
      by_cases head : Silent step
      · obtain silent | ⟨passed, last, rest, split, silent, speaks⟩ := ih
        · exact .inl (List.forall_mem_cons.mpr ⟨head, silent⟩)
        · refine .inr ⟨step :: passed, last, rest, by simp [split], ?_, speaks⟩
          exact List.forall_mem_cons.mpr ⟨head, silent⟩
      · exact .inr ⟨[], step, list, rfl, by simp, head⟩

section

variable {S : Type} (host : Host) (envelope : IntentEnvelope) (state : S)

def killPhase (kill : KillSwitchState) : Step where
  phase := .kill
  index := none
  guardName := none
  outcome := .ok (if kill.active then some (killRefusal kill) else none)

def schemaPhase : Step where
  phase := .schema
  index := none
  guardName := none
  outcome := .ok (if envelope.version ≠ intentEnvelopeVersion then some (versionRefusal envelope)
    else none)

def guardSteps (phase : TracePhase) : List (Guard S) → Nat → List Step
  | [], _ => []
  | guard :: guards, index =>
      { phase, index := some index, guardName := guard.name,
        outcome := guardAnswer host envelope state phase index guard [] } ::
        guardSteps phase guards (index + 1)

def taintPhase (policy : TaintPolicy) : Step where
  phase := .taint
  index := none
  guardName := none
  outcome := match taintGate envelope policy with
    | .error err => do return some (← guardPanicRefusal .taint none none err [])
    | .ok (rankAllowed, taintAllowed) =>
        .ok (if taintAllowed then none else some (taintRefusal envelope rankAllowed []))

def defaultPhase (policyDefault : PolicyDefault) : Step where
  phase := .default
  index := none
  guardName := none
  outcome := .ok (some (defaultDecision policyDefault []))

/-- These are the steps after the content hash is verified. -/
def verifiedSteps (policy : PolicyBundle S) : List Step :=
  guardSteps host envelope state .state policy.stateGuards 0 ++
    taintPhase envelope policy.taint ::
      (guardSteps host envelope state .auth policy.authGuards 0 ++
        (guardSteps host envelope state .business policy.business 0 ++
          [defaultPhase policy.default]))

/-- These are the steps of the kernel in their fixed order. -/
def steps (kill : KillSwitchState) (policy : PolicyBundle S) : List Step :=
  killPhase kill :: schemaPhase envelope :: verifiedSteps host envelope state policy

/-- The kernel reaches the content hash and finds that it does not match. -/
def HashMismatch (kill : KillSwitchState) : Prop :=
  kill.active = false ∧ envelope.version = intentEnvelopeVersion ∧
    deriveIntentHash host envelope ≠ .ok envelope.intentHash

theorem enrichBasis_nil (decision : Decision) : enrichBasis decision [] = decision := by
  cases decision <;> rfl

@[simp] theorem enrichBasis_basis (decision : Decision) (passed : List DecisionBasis) :
    (enrichBasis decision passed).basis = passed ++ decision.basis := by
  cases decision <;> rfl

@[simp] theorem enrichBasis_kind (decision : Decision) (passed : List DecisionBasis) :
    (enrichBasis decision passed).kind = decision.kind := by
  cases decision <;> rfl

theorem guardPanicRefusal_enriched (phase : TracePhase) (guardIndex : Option Nat)
    (guardName : Option JsString) (err : Thrown) (accumulated : List DecisionBasis) :
    guardPanicRefusal phase guardIndex guardName err accumulated =
      (guardPanicRefusal phase guardIndex guardName err []).map (enrichBasis · accumulated) := by
  cases err <;> rfl

theorem guardAnswer_silent {phase : TracePhase} {index : Nat} {guard : Guard S}
    (silent : guard.run envelope state = .ok none) (accumulated : List DecisionBasis) :
    guardAnswer host envelope state phase index guard accumulated = .ok none := by
  rw [guardAnswer, silent]

/-- A throwing guard answers with its panic refusal. -/
theorem guardAnswer_panic {phase : TracePhase} {index : Nat} {guard : Guard S} {err : Thrown}
    (throws : guard.run envelope state = .error err) (accumulated : List DecisionBasis) :
    guardAnswer host envelope state phase index guard accumulated =
      (guardPanicRefusal phase (some index) guard.name err accumulated).map some := by
  rw [guardAnswer, throws]
  cases err <;> rfl

/-- A speaking guard answers with its gated decision. -/
theorem guardAnswer_speaks {phase : TracePhase} {index : Nat} {guard : Guard S}
    {decision : Decision} (speaks : guard.run envelope state = .ok (some decision))
    (accumulated : List DecisionBasis) :
    guardAnswer host envelope state phase index guard accumulated =
      (gateRewrite host decision envelope).map fun gated =>
        some (enrichBasis gated accumulated) := by
  rw [guardAnswer, speaks]
  dsimp only
  cases gateRewrite host decision envelope <;> rfl

theorem guardAnswer_enriched (phase : TracePhase) (index : Nat) (guard : Guard S)
    (accumulated : List DecisionBasis) :
    guardAnswer host envelope state phase index guard accumulated =
      (guardAnswer host envelope state phase index guard []).map
        (Option.map (enrichBasis · accumulated)) := by
  cases run : guard.run envelope state with
  | error err =>
      rw [guardAnswer_panic host envelope state run, guardAnswer_panic host envelope state run,
        guardPanicRefusal_enriched]
      cases guardPanicRefusal phase (some index) guard.name err [] <;> rfl
  | ok opinion =>
      cases opinion with
      | none =>
          rw [guardAnswer_silent host envelope state run,
            guardAnswer_silent host envelope state run]
          rfl
      | some decision =>
          rw [guardAnswer_speaks host envelope state run,
            guardAnswer_speaks host envelope state run]
          simp only [enrichBasis_nil]
          cases gateRewrite host decision envelope <;> rfl

/-- An answer ends the run and a pass hands over to the rest. -/
def conclude (outcome : Except Thrown Outcome)
    (rest : List DecisionBasis → Option (List AdjudicationTraceEntry) →
      Except Thrown (Decision × Option (List AdjudicationTraceEntry))) :
    Except Thrown (Decision × Option (List AdjudicationTraceEntry)) := do
  match ← outcome with
  | .answered decision traceOut => return (decision, traceOut)
  | .continues accumulated traceOut => rest accumulated traceOut

theorem conclude_andThen (outcome : Except Thrown Outcome)
    (next : List DecisionBasis → Option (List AdjudicationTraceEntry) → Except Thrown Outcome)
    (rest : List DecisionBasis → Option (List AdjudicationTraceEntry) →
      Except Thrown (Decision × Option (List AdjudicationTraceEntry))) :
    conclude (andThen outcome next) rest =
      conclude outcome fun accumulated traceOut => conclude (next accumulated traceOut) rest := by
  cases outcome with
  | error raised => rfl
  | ok answer => cases answer <;> rfl

/-- The guard loop runs its steps and then the rest. -/
theorem conclude_guardsLoop (phase : TracePhase) (guards : List (Guard S)) (index : Nat)
    (more : List Step)
    (rest : List DecisionBasis → Option (List AdjudicationTraceEntry) →
      Except Thrown (Decision × Option (List AdjudicationTraceEntry)))
    (continues : ∀ traceOut,
      rest (completedBases phase ++ makePassBasis phase) traceOut = runSteps more traceOut)
    (traceOut : Option (List AdjudicationTraceEntry)) :
    conclude (guardsLoop host envelope state phase (completedBases phase) guards index traceOut)
        rest =
      runSteps (guardSteps host envelope state phase guards index ++ more) traceOut := by
  induction guards generalizing index traceOut with
  | nil => exact continues traceOut
  | cons guard guards ih =>
      rw [guardsLoop, guardAnswer_enriched, guardSteps, List.cons_append, runSteps]
      cases answer : guardAnswer host envelope state phase index guard [] with
      | error raised => rfl
      | ok opinion =>
          cases opinion with
          | none => exact ih (index + 1) _
          | some decision => rfl

theorem conclude_taintStep (policy : TaintPolicy) (more : List Step)
    (rest : List DecisionBasis → Option (List AdjudicationTraceEntry) →
      Except Thrown (Decision × Option (List AdjudicationTraceEntry)))
    (continues : ∀ traceOut, rest (completedBases .auth) traceOut = runSteps more traceOut)
    (traceOut : Option (List AdjudicationTraceEntry)) :
    conclude (taintStep envelope policy (completedBases .taint) traceOut) rest =
      runSteps (taintPhase envelope policy :: more) traceOut := by
  rw [taintStep, runSteps, taintPhase]
  cases taintGate envelope policy with
  | error err =>
      dsimp only
      rw [guardPanicRefusal_enriched]
      cases guardPanicRefusal .taint none none err [] <;> rfl
  | ok allowed =>
      obtain ⟨rankAllowed, taintAllowed⟩ := allowed
      cases taintAllowed with
      | false => rfl
      | true => exact continues _

/-- These are the phases that run once the content hash is verified. -/
def verifiedPhases (policy : PolicyBundle S) (accumulated : List DecisionBasis)
    (traceOut : Option (List AdjudicationTraceEntry)) :
    Except Thrown (Decision × Option (List AdjudicationTraceEntry)) :=
  conclude (guardsLoop host envelope state .state accumulated policy.stateGuards 0 traceOut)
    fun accumulated traceOut =>
  conclude (taintStep envelope policy.taint accumulated traceOut) fun accumulated traceOut =>
  conclude (guardsLoop host envelope state .auth accumulated policy.authGuards 0 traceOut)
    fun accumulated traceOut =>
  conclude (guardsLoop host envelope state .business accumulated policy.business 0 traceOut)
    fun accumulated traceOut =>
  .ok (defaultDecision policy.default accumulated, push traceOut (phaseEntry .default .match))

theorem adjudicateImpl_eq_conclude (kill : KillSwitchState) (policy : PolicyBundle S)
    (traceOut : Option (List AdjudicationTraceEntry)) :
    adjudicateImpl host envelope state kill policy traceOut =
      conclude (killStep kill traceOut) fun accumulated traceOut =>
      conclude (versionStep envelope accumulated traceOut) fun accumulated traceOut =>
      conclude (hashStep host envelope accumulated traceOut)
        (verifiedPhases host envelope state policy) := by
  change conclude _ _ = _
  simp only [conclude_andThen]
  rfl

/-- Without a kill and with the known version, the kernel reaches the hash check. -/
theorem adjudicateImpl_reaches_hash {kill : KillSwitchState} (policy : PolicyBundle S)
    (traceOut : Option (List AdjudicationTraceEntry)) (inactive : kill.active = false)
    (version : envelope.version = intentEnvelopeVersion) :
    adjudicateImpl host envelope state kill policy traceOut =
      conclude (hashStep host envelope (completedBases .state)
        (push (push traceOut (phaseEntry .kill .pass)) (phaseEntry .schema .pass)))
        (verifiedPhases host envelope state policy) := by
  rw [adjudicateImpl_eq_conclude, killStep, inactive]
  change conclude (versionStep envelope [] _) _ = _
  rw [versionStep, if_neg (not_not_intro version)]
  rfl

/-- The verified phases return the first answer among their steps. -/
theorem verifiedPhases_eq_runSteps (policy : PolicyBundle S)
    (traceOut : Option (List AdjudicationTraceEntry)) :
    verifiedPhases host envelope state policy (completedBases .state) traceOut =
      runSteps (verifiedSteps host envelope state policy) traceOut := by
  apply conclude_guardsLoop
  apply conclude_taintStep
  apply conclude_guardsLoop
  apply conclude_guardsLoop
  intro traceOut
  change Except.ok (defaultDecision policy.default (completedBases .default), _) =
    Except.ok (enrichBasis (defaultDecision policy.default []) (completedBases .default), _)
  cases policy.default <;> simp [defaultDecision, enrichBasis, Decision.basis] <;> rfl

/-- Away from a hash mismatch the kernel returns the first answer among its steps. -/
theorem adjudicateImpl_eq_runSteps (kill : KillSwitchState) (policy : PolicyBundle S)
    (traceOut : Option (List AdjudicationTraceEntry))
    (matching : ¬HashMismatch host envelope kill) :
    adjudicateImpl host envelope state kill policy traceOut =
      runSteps (steps host envelope state kill policy) traceOut := by
  rw [steps, runSteps, killPhase]
  cases active : kill.active with
  | true =>
      rw [adjudicateImpl_eq_conclude, killStep, active]
      rfl
  | false =>
      change _ = runSteps (schemaPhase envelope :: _) _
      rw [runSteps, schemaPhase]
      by_cases version : envelope.version = intentEnvelopeVersion
      · have hash : deriveIntentHash host envelope = .ok envelope.intentHash := by
          by_contra different
          exact matching ⟨active, version, different⟩
        rw [adjudicateImpl_reaches_hash host envelope state policy traceOut active version,
          hashStep, hash, if_neg (not_not_intro version)]
        change conclude (if envelope.intentHash ≠ envelope.intentHash then _ else _) _ =
          runSteps _ _
        rw [if_neg (not_not_intro rfl), ← verifiedPhases_eq_runSteps]
        rfl
      · rw [adjudicateImpl_eq_conclude, killStep, active, if_pos version]
        change conclude (versionStep envelope [] _) _ = _
        rw [versionStep, if_pos version]
        rfl

theorem runSteps_decision (list : List Step) (first second : Option (List AdjudicationTraceEntry)) :
    (runSteps list first).map Prod.fst = (runSteps list second).map Prod.fst := by
  induction list generalizing first second with
  | nil => rfl
  | cons step list ih =>
      rw [runSteps, runSteps]
      cases step.outcome with
      | error raised => rfl
      | ok opinion =>
          cases opinion with
          | none => exact ih _ _
          | some decision => rfl

/-- The trace accumulator never changes the decision. -/
theorem adjudicateImpl_decision (kill : KillSwitchState) (policy : PolicyBundle S)
    (first second : Option (List AdjudicationTraceEntry)) :
    (adjudicateImpl host envelope state kill policy first).map Prod.fst =
      (adjudicateImpl host envelope state kill policy second).map Prod.fst := by
  by_cases mismatch : HashMismatch host envelope kill
  · obtain ⟨inactive, version, different⟩ := mismatch
    rw [adjudicateImpl_reaches_hash host envelope state policy first inactive version,
      adjudicateImpl_reaches_hash host envelope state policy second inactive version, hashStep,
      hashStep]
    cases derived : deriveIntentHash host envelope with
    | error err => cases err <;> rfl
    | ok derivedHash =>
        have forged : derivedHash ≠ envelope.intentHash := by
          intro same
          exact different (same ▸ derived)
        dsimp only
        rw [if_pos forged, if_pos forged]
        rfl
  · rw [adjudicateImpl_eq_runSteps host envelope state kill policy first mismatch,
      adjudicateImpl_eq_runSteps host envelope state kill policy second mismatch]
    exact runSteps_decision _ _ _

theorem adjudicateWithTrace_decision (kill : KillSwitchState) (policy : PolicyBundle S) :
    (adjudicateWithTrace host envelope state kill policy).map (·.decision) =
      adjudicate host envelope state kill policy := by
  have same := adjudicateImpl_decision host envelope state kill policy (some []) none
  rw [adjudicateWithTrace, adjudicate]
  cases traced : adjudicateImpl host envelope state kill policy (some []) with
  | error raised =>
      rw [traced] at same
      cases plain : adjudicateImpl host envelope state kill policy none with
      | error other =>
          rw [plain] at same
          exact same
      | ok answer =>
          rw [plain] at same
          cases same
  | ok answer =>
      rw [traced] at same
      cases plain : adjudicateImpl host envelope state kill policy none with
      | error other =>
          rw [plain] at same
          cases same
      | ok other =>
          rw [plain] at same
          exact same

theorem adjudicate_eq_map (kill : KillSwitchState) (policy : PolicyBundle S) :
    adjudicate host envelope state kill policy =
      (adjudicateImpl host envelope state kill policy none).map Prod.fst := by
  rw [adjudicate]
  cases adjudicateImpl host envelope state kill policy none <;> rfl

/-- A verified envelope is decided by the steps after the verification. -/
theorem adjudicate_verified {kill : KillSwitchState} (policy : PolicyBundle S)
    (inactive : kill.active = false) (version : envelope.version = intentEnvelopeVersion)
    (hash : deriveIntentHash host envelope = .ok envelope.intentHash) :
    adjudicate host envelope state kill policy =
      (runSteps (verifiedSteps host envelope state policy) none).map Prod.fst := by
  rw [adjudicate_eq_map, adjudicateImpl_reaches_hash host envelope state policy none inactive version,
    hashStep, hash, ← verifiedPhases_eq_runSteps]
  change Except.map _ (conclude (if envelope.intentHash ≠ envelope.intentHash then _ else _) _) = _
  rw [if_neg (not_not_intro rfl)]
  rfl

end

end Adjudicate.Kernel
