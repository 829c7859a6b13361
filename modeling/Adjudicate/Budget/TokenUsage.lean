/-
This file models the in-memory token-usage store with its two scopes and its exhaustion events.
-/

import Adjudicate.Js.InsertionMap
import Adjudicate.Js.Rounding
import Mathlib.Data.Rat.Floor

namespace Adjudicate.Budget

open Js

structure TokenUsageSample where
  sessionId : JsString
  tenantId : Option JsString
  prompt : Option JsNumber
  completion : Option JsNumber
  total : Option JsNumber
  «at» : JsString

/-- This is `Math.trunc` of a finite number. -/
def truncated : JsNumber → Option Int
  | .finite negative magnitude =>
      let value := JsNumber.signedValue negative magnitude
      some (if value < 0 then ⌈value⌉ else ⌊value⌋)
  | _ => none

/-- A part that is missing or not finite contributes nothing. -/
def part (number : Option JsNumber) : Int := (number.bind truncated).getD 0

/-- This is the normalised total before its one rounding. -/
def normalisedTotal (sample : TokenUsageSample) : Nat :=
  match sample.total.bind truncated with
  | some total => total.toNat
  | none => (part sample.prompt + part sample.completion).toNat

def sampleTotal (sample : TokenUsageSample) : JsNumber := .ofNat (normalisedTotal sample)

def promptPart (sample : TokenUsageSample) : Nat := (part sample.prompt).toNat

def completionPart (sample : TokenUsageSample) : Nat := (part sample.completion).toNat

/-- The parts are clamped one by one. -/
def samplePromptCompletion (sample : TokenUsageSample) : JsNumber × JsNumber :=
  (.ofNat (promptPart sample), .ofNat (completionPart sample))

structure TokenBudgetConfig where
  sessionBudget : Option JsNumber
  tenantBudget : Option JsNumber

structure TokenUsageOptions where
  sessionBudget : Option JsNumber
  perTenantBudget : Option JsNumber
  perSessionBudget : Option JsNumber
  perTenantBudgets : JsString → Option TokenBudgetConfig
  maxSessions : Option JsNumber
  maxEvents : Option JsNumber
  capacity : Option JsNumber

/-- This is `Math.max(1, number)`. -/
def atLeastOne (number : JsNumber) : JsNumber := if number.atMost (.ofNat 1) then .ofNat 1 else number

def defaultBound : JsNumber := .ofNat 10000

namespace TokenUsageOptions

variable (opts : TokenUsageOptions)

def sessionBound : JsNumber := atLeastOne ((opts.maxSessions.or opts.capacity).getD defaultBound)

def eventBound : JsNumber := atLeastOne ((opts.maxEvents.or opts.capacity).getD defaultBound)

/-- The override of the tenant wins. -/
def sessionCapFor (tenantId : Option JsString) : Option JsNumber :=
  ((tenantId.bind opts.perTenantBudgets).bind (·.sessionBudget)).or
    (opts.sessionBudget.or opts.perSessionBudget)

def tenantCapFor (tenantId : JsString) : Option JsNumber :=
  ((opts.perTenantBudgets tenantId).bind (·.tenantBudget)).or opts.perTenantBudget

end TokenUsageOptions

/-- This is a sum that has reached its cap. -/
structure Reach where
  «at» : JsString
  consumed : JsNumber
  budget : JsNumber
deriving DecidableEq

/-- The sum crosses the cap with this sample. -/
def crossing (cap : Option JsNumber) (exhausted : Bool) (previous consumed : JsNumber)
    (instant : JsString) : Option Reach :=
  cap.bind fun cap =>
    if !exhausted && previous.below cap && cap.atMost consumed then some ⟨instant, consumed, cap⟩
    else none

structure SessionRow where
  tenantId : Option JsString
  consumed : JsNumber
  promptConsumed : JsNumber
  completionConsumed : JsNumber
  lastAt : JsString
  exhausted : Bool

namespace SessionRow

def fresh (sample : TokenUsageSample) : SessionRow :=
  ⟨sample.tenantId, .ofNat 0, .ofNat 0, .ofNat 0, sample.at, false⟩

variable (opts : TokenUsageOptions) (row : SessionRow) (sample : TokenUsageSample)

/-- A session keeps its first tenant. -/
def attributed : Option JsString := row.tenantId.or sample.tenantId

def reach : Option Reach :=
  crossing (opts.sessionCapFor (row.attributed sample)) row.exhausted row.consumed
    (row.consumed.add (sampleTotal sample)) sample.at

def charged : SessionRow where
  tenantId := row.attributed sample
  consumed := row.consumed.add (sampleTotal sample)
  promptConsumed := row.promptConsumed.add (samplePromptCompletion sample).1
  completionConsumed := row.completionConsumed.add (samplePromptCompletion sample).2
  lastAt := sample.at
  exhausted := row.exhausted || (row.reach opts sample).isSome

end SessionRow

structure TenantRow where
  consumed : JsNumber
  promptConsumed : JsNumber
  completionConsumed : JsNumber
  sessionIds : List JsString
  lastAt : JsString
  exhausted : Bool

namespace TenantRow

def fresh (sample : TokenUsageSample) : TenantRow :=
  ⟨.ofNat 0, .ofNat 0, .ofNat 0, [], sample.at, false⟩

variable (opts : TokenUsageOptions) (tenantId : JsString) (row : TenantRow)
  (sample : TokenUsageSample)

def reach : Option Reach :=
  crossing (opts.tenantCapFor tenantId) row.exhausted row.consumed
    (row.consumed.add (sampleTotal sample)) sample.at

def charged : TenantRow where
  consumed := row.consumed.add (sampleTotal sample)
  promptConsumed := row.promptConsumed.add (samplePromptCompletion sample).1
  completionConsumed := row.completionConsumed.add (samplePromptCompletion sample).2
  sessionIds := if sample.sessionId ∈ row.sessionIds then row.sessionIds
    else row.sessionIds ++ [sample.sessionId]
  lastAt := sample.at
  exhausted := row.exhausted || (row.reach opts tenantId sample).isSome

end TenantRow

inductive UsageScope where
  | session (sessionId : JsString) (tenantId : Option JsString)
  | tenant (tenantId : JsString)

structure TokenExhaustionEvent extends Reach where
  sequence : Nat
  scope : UsageScope

/-- The samples, events and evictions in their order are observed only. -/
inductive UsageChange where
  | recorded (sample : TokenUsageSample)
  | emitted (event : TokenExhaustionEvent)
  | evicted (sessionId : JsString)

structure UsageState where
  sessions : InsertionMap JsString SessionRow
  tenants : InsertionMap JsString TenantRow
  events : List TokenExhaustionEvent
  sequence : Nat
  log : List UsageChange

/-- The oldest events leave the ring. -/
def trimEvents (bound : JsNumber) : List TokenExhaustionEvent → List TokenExhaustionEvent
  | [] => []
  | event :: rest =>
      if bound.passed (event :: rest).length then trimEvents bound rest else event :: rest

/-- This adds the counters from zero on. -/
def addUp (counters : List JsNumber) : JsNumber := counters.foldl .add (.ofNat 0)

namespace UsageState

variable (opts : TokenUsageOptions) (state : UsageState)

def initial : UsageState := ⟨.empty, .empty, [], 0, []⟩

def appendEvent (reach : Reach) (scope : UsageScope) : UsageState :=
  let event : TokenExhaustionEvent := { reach with sequence := state.sequence, scope }
  { state with
    events := trimEvents opts.eventBound (state.events ++ [event])
    sequence := state.sequence + 1
    log := state.log ++ [.emitted event] }

def emit (reach : Option Reach) (scope : UsageScope) : UsageState :=
  match reach with
  | none => state
  | some reach => state.appendEvent opts reach scope

def sessionRow (sample : TokenUsageSample) : SessionRow :=
  (state.sessions.get sample.sessionId).getD (.fresh sample)

/-- The row of the session moves to the end. -/
def chargeSession (sample : TokenUsageSample) : UsageState :=
  let row := state.sessionRow sample
  let charged : UsageState := { state with
    sessions := state.sessions.touch sample.sessionId (row.charged opts sample)
    log := state.log ++ [.recorded sample] }
  charged.emit opts (row.reach opts sample) (.session sample.sessionId (row.attributed sample))

def evict (sessionId : JsString) : UsageState :=
  { state with
    sessions := state.sessions.delete sessionId
    log := state.log ++ [.evicted sessionId] }

/-- Each round evicts one session, so the size of the map bounds the rounds. -/
def evictRounds (bound : JsNumber) : Nat → UsageState → UsageState
  | 0, state => state
  | rounds + 1, state =>
      if bound.passed state.sessions.size then
        match state.sessions.oldest with
        | none => state
        | some oldest => evictRounds bound rounds (state.evict oldest)
      else state

def evictSessions : UsageState := evictRounds opts.sessionBound state.sessions.size state

def tenantRow (sample : TokenUsageSample) (tenantId : JsString) : TenantRow :=
  (state.tenants.get tenantId).getD (.fresh sample)

def chargeTenant (sample : TokenUsageSample) (tenantId : JsString) : UsageState :=
  let row := state.tenantRow sample tenantId
  let charged : UsageState := { state with
    tenants := state.tenants.set tenantId (row.charged opts tenantId sample) }
  charged.emit opts (row.reach opts tenantId sample) (.tenant tenantId)

def record (sample : TokenUsageSample) : UsageState :=
  let charged := (state.chargeSession opts sample).evictSessions opts
  match sample.tenantId with
  | none => charged
  | some tenantId => charged.chargeTenant opts sample tenantId

def totalConsumed : JsNumber := addUp (state.sessions.entries.map (·.2.consumed))

end UsageState

end Adjudicate.Budget
