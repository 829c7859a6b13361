/-
This file models the red team runner and the canary gates over its report.
-/

import Adjudicate.Js.Sorting
import Adjudicate.RedTeam.Vectors
import Mathlib.Data.List.Lex

namespace Adjudicate.RedTeam

open Js Canonical Adjudicate.Core Adjudicate.Kernel Adjudicate.Primitives

inductive RedTeamStatus where
  | defended
  | escaped
  | error
deriving DecidableEq

/-- An error has neither a decision nor a trace. -/
structure RedTeamResult where
  name : JsString
  vector : AttackVector
  status : RedTeamStatus
  decision : Option DecisionKind
  basisCodes : Option (List JsString)
  acceptable : List DecisionKind
  error : Option JsString
  reachedAuth : Option Bool
  fixtureBacked : Bool
deriving DecidableEq

structure RedTeamSummary where
  total : Nat
  defended : Nat
  escaped : Nat
  errors : Nat
  escapesByVector : AttackVector → Nat

structure RedTeamReport where
  packId : JsString
  results : List RedTeamResult
  summary : RedTeamSummary

/-- The prebuilt state of a fixture is not rehydrated. -/
def scenarioState {S : Type} (pack : RedTeamPack S) (scenario : RedTeamScenario S) :
    Except Thrown S :=
  match scenario.prebuiltState with
  | some prebuiltState => .ok prebuiltState
  | none => rehydrated pack scenario.state

def scenarioEnvelope {S : Type} (host : Host) (clock : JsString) (scenario : RedTeamScenario S) :
    Except Thrown IntentEnvelope := buildEnvelope host clock scenario.intent

def basisCode (entry : DecisionBasis) : JsString := entry.category.text ++ utf16 ":" ++ entry.code

/-- A decision outside the acceptable ones is an escape. -/
def classified {S : Type} (scenario : RedTeamScenario S) (traced : AdjudicationTraceResult) :
    RedTeamResult where
  name := scenario.name
  vector := scenario.vector
  status := if scenario.acceptable.contains traced.decision.kind then .defended else .escaped
  decision := some traced.decision.kind
  basisCodes := some (traced.decision.basis.map basisCode)
  acceptable := scenario.acceptable
  error := none
  reachedAuth := some (traced.trace.any fun entry => entry.phase = .auth)
  fixtureBacked := scenario.fixtureBacked

section Runner

variable {S : Type} (host : Host) (clock : JsString) (pack : RedTeamPack S) (kill : KillSwitchState)

def evaluated (scenario : RedTeamScenario S) : Except Thrown RedTeamResult := do
  let envelope ← scenarioEnvelope host clock scenario
  let state ← scenarioState pack scenario
  return classified scenario (← adjudicateWithTrace host envelope state kill pack.policy)

/-- What is thrown becomes an error result, unless it has no text. -/
def runScenario (scenario : RedTeamScenario S) : Except Thrown RedTeamResult :=
  match evaluated host clock pack kill scenario with
  | .ok result => .ok result
  | .error raised => do
      let (_, message) ← thrownText raised
      return {
        name := scenario.name
        vector := scenario.vector
        status := .error
        decision := none
        basisCodes := none
        acceptable := scenario.acceptable
        error := some message
        reachedAuth := none
        fixtureBacked := false }

/-- The counter of the result's status goes up by one. -/
def recorded (report : RedTeamReport) (result : RedTeamResult) : RedTeamReport :=
  let summary := report.summary
  { report with
    results := report.results ++ [result]
    summary :=
      match result.status with
      | .defended => { summary with defended := summary.defended + 1 }
      | .escaped =>
          { summary with
            escaped := summary.escaped + 1
            escapesByVector := fun vector =>
              summary.escapesByVector vector + if vector = result.vector then 1 else 0 }
      | .error => { summary with errors := summary.errors + 1 } }

def runRedTeam (scenarios : List (RedTeamScenario S)) : Except Thrown RedTeamReport :=
  scenarios.foldlM (fun report scenario => do
      return recorded report (← runScenario host clock pack kill scenario))
    { packId := pack.id
      results := []
      summary := ⟨scenarios.length, 0, 0, 0, fun _ => 0⟩ }

end Runner

/-- The gate promotes with 0 and rolls back with 2. -/
inductive CanaryExitCode where
  | promote
  | rollback
deriving DecidableEq

def exitCodeOf (fails : Bool) : CanaryExitCode := if fails then .rollback else .promote

def computeRedTeamExitCode (summary : RedTeamSummary) : CanaryExitCode :=
  exitCodeOf (0 < summary.escaped || 0 < summary.errors)

def taintGateBasis : JsString := "taint:level_insufficient"

structure TaintEscalationCausality where
  total : Nat
  byTaintGate : Nat
  byOtherGuard : Nat
  escaped : Nat

def ownershipPrefix : JsString := "ownership_violation."

/-- The ownership scenarios share the vector but do not probe the taint gate. -/
def taintEscalationCausality (report : RedTeamReport) : TaintEscalationCausality :=
  let taint := report.results.filter fun result =>
    result.vector = .taintEscalation && !ownershipPrefix.isPrefixOf result.name
  let defended := taint.filter fun result => result.status = .defended
  let byTaintGate := defended.countP fun result =>
    result.basisCodes.any fun codes => codes.contains taintGateBasis
  { total := taint.length
    byTaintGate := byTaintGate
    byOtherGuard := defended.length - byTaintGate
    escaped := taint.countP fun result => result.status = .escaped }

inductive CanaryStage where
  | shadow
  | canary
deriving DecidableEq

inductive CanaryPolicy where
  | strict
  | executeEscape
deriving DecidableEq

structure OwnershipCoverage where
  present : Bool
  escaped : Nat
  toExecute : Nat

structure OwnershipNonVacuity where
  fixtureBacked : Nat
  reachedAuth : Nat
  notExercised : List JsString
  exercised : Bool

structure CanaryGateResult where
  stage : CanaryStage
  policy : CanaryPolicy
  report : RedTeamReport
  causality : TaintEscalationCausality
  taintVacuous : Bool
  executeEscapes : Nat
  ownership : OwnershipCoverage
  ownershipNonVacuity : OwnershipNonVacuity
  exitCode : CanaryExitCode

/-- The intent reached a clean execution. -/
def RedTeamResult.executes (result : RedTeamResult) : Bool :=
  result.status = .escaped && result.decision = some .execute

def ownershipCoverage (report : RedTeamReport) : OwnershipCoverage :=
  let results := report.results.filter fun result => ownershipPrefix.isPrefixOf result.name
  { present := 0 < results.length
    escaped := results.countP fun result => result.status = .escaped
    toExecute := results.countP RedTeamResult.executes }

/-- A probe with a fixture must reach the phase in which ownership is decided. -/
def ownershipNonVacuity (report : RedTeamReport) : OwnershipNonVacuity :=
  let backed := report.results.filter RedTeamResult.fixtureBacked
  let notExercised := sortBy id
    ((backed.filter fun result => result.reachedAuth ≠ some true).map RedTeamResult.name)
  let reachedAuth := backed.countP fun result => result.reachedAuth = some true
  { fixtureBacked := backed.length
    reachedAuth := reachedAuth
    notExercised := notExercised
    exercised := 0 < reachedAuth && notExercised.length = 0 }

def canaryVerdict (stage : CanaryStage) (policy : CanaryPolicy) (report : RedTeamReport) :
    CanaryGateResult :=
  let causality := taintEscalationCausality report
  let taintVacuous := 0 < causality.total && causality.byTaintGate = 0
  let executeEscapes := report.results.countP RedTeamResult.executes
  let nonVacuity := ownershipNonVacuity report
  let ownershipVacuous := 0 < nonVacuity.notExercised.length
  { stage := stage
    policy := policy
    report := report
    causality := causality
    taintVacuous := taintVacuous
    executeEscapes := executeEscapes
    ownership := ownershipCoverage report
    ownershipNonVacuity := nonVacuity
    exitCode :=
      match policy with
      | .strict => exitCodeOf
          (computeRedTeamExitCode report.summary = .rollback || taintVacuous || ownershipVacuous)
      | .executeEscape => exitCodeOf
          (0 < executeEscapes || 0 < report.summary.errors || ownershipVacuous) }

structure CanaryBaselineScenario where
  name : JsString
  status : RedTeamStatus
  decision : Option DecisionKind

structure CanaryBaseline where
  packId : JsString
  escaped : Nat
  errors : Nat
  ownershipEscaped : Nat
  taintVacuous : Bool
  ownershipExercised : Option Bool
  scenarios : List CanaryBaselineScenario

/-- This is the index in `RESTRICTIVENESS_ORDER`. -/
def restrictivenessRank : DecisionKind → Nat
  | .execute => 0
  | .rewrite => 1
  | .requestConfirmation => 2
  | .defer => 3
  | .escalate => 4
  | .refuse => 5

/-- A map keeps the last scenario of a name. -/
def baselineFor (baseline : CanaryBaseline) (name : JsString) : Option CanaryBaselineScenario :=
  baseline.scenarios.reverse.find? fun scenario => scenario.name = name

def frictionRegression (baseline : CanaryBaseline) (result : RedTeamResult) : Option JsString := do
  let scenario ← baselineFor baseline result.name
  let before ← scenario.decision
  let after ← result.decision
  if restrictivenessRank after < restrictivenessRank before then
    return utf16 "§C friction regression on \"" ++ result.name ++ utf16 "\": " ++ before.text ++
      utf16 " → " ++ after.text ++ utf16 " (less restrictive)"
  else none

def reasonIf (holds : Bool) (reason : JsString) : List JsString := if holds then [reason] else []

/-- An empty list of reasons promotes. -/
def baselineReasons (strict : CanaryGateResult) (baseline : CanaryBaseline) : List JsString :=
  let escaped := strict.report.summary.escaped
  let errors := strict.report.summary.errors
  reasonIf (0 < strict.executeEscapes)
      (digitsText strict.executeEscapes ++ utf16 " adversarial intent(s) reached a clean EXECUTE") ++
    reasonIf (0 < errors)
      (digitsText errors ++ utf16 " harness error(s) (errors can never be baselined away)") ++
    reasonIf (baseline.escaped < escaped)
      (utf16 "escapes regressed " ++ digitsText baseline.escaped ++ utf16 " → " ++
        digitsText escaped) ++
    reasonIf (baseline.ownershipEscaped < strict.ownership.escaped)
      (utf16 "ownership/IDOR escapes regressed " ++ digitsText baseline.ownershipEscaped ++
        utf16 " → " ++ digitsText strict.ownership.escaped) ++
    reasonIf (strict.taintVacuous && !baseline.taintVacuous)
      "taint-escalation coverage became vacuous (taint gate no longer exercised)" ++
    reasonIf (0 < strict.ownershipNonVacuity.notExercised.length)
      (utf16 "ownership canary became VACUOUS — fixture-backed probe(s) did not reach the auth phase " ++
        utf16 "(NOT-EXERCISED): " ++ joinedNames strict.ownershipNonVacuity.notExercised) ++
    reasonIf (baseline.ownershipExercised = some true && !strict.ownershipNonVacuity.exercised)
      (utf16 "ownership canary non-vacuity regressed: the owner predicate is no longer exercised " ++
        utf16 "(baseline recorded an exercised owner predicate)") ++
    strict.report.results.filterMap (frictionRegression baseline)
where
  joinedNames (names : List JsString) : JsString := List.intercalate (utf16 ", ") names

structure BaselinedCanaryGateResult where
  strict : CanaryGateResult
  baseline : CanaryBaseline
  regressed : Bool
  reasons : List JsString
  exitCode : CanaryExitCode

section Gates

variable {S : Type} (host : Host) (clock : JsString) (shapes : StateShapes S) (pack : RedTeamPack S)
  (kill : KillSwitchState) (options : GenerateOptions)

def runCanaryGate (stage : CanaryStage) (policy : CanaryPolicy) : Except Thrown CanaryGateResult := do
  let scenarios ← frozenCanaryScenarios shapes pack options
  return canaryVerdict stage policy (← runRedTeam host clock pack kill scenarios)

/-- The strict run is measured against the committed baseline. -/
def runBaselinedCanaryGate (stage : CanaryStage) (baseline : CanaryBaseline) :
    Except Thrown BaselinedCanaryGateResult := do
  let strict ← runCanaryGate host clock shapes pack kill options stage .strict
  let reasons := baselineReasons strict baseline
  return {
    strict := strict
    baseline := baseline
    regressed := 0 < reasons.length
    reasons := reasons
    exitCode := exitCodeOf (0 < reasons.length) }

end Gates

end Adjudicate.RedTeam
