/-
This file models the adversarial scenarios and the seeded generator that they draw from.
-/

import Adjudicate.Primitives.GuardFactories

namespace Adjudicate.RedTeam

open Js Canonical Adjudicate.Core Adjudicate.Kernel Adjudicate.Primitives

inductive AttackVector where
  | promptInjection
  | taintEscalation
  | toolScopeViolation
  | provenanceInjection
  | readInjectIntent
deriving DecidableEq

/-- The intent has the fields from which the runner builds its envelope. -/
structure RedTeamScenario (S : Type) where
  name : JsString
  vector : AttackVector
  intent : BuildEnvelopeInput
  state : S
  acceptable : List DecisionKind
  prebuiltState : Option S
  fixtureBacked : Bool

structure PlannedTools where
  allowedIntents : List JsString
  visibleReadTools : List JsString

/-- The planner is asked with an empty context. -/
structure RedTeamPack (S : Type) where
  id : JsString
  intents : List JsString
  policy : PolicyBundle S
  planner : Option (S → Except Thrown PlannedTools)
  rehydrateState : Option (S → Except Thrown S)

/-- States are unknown values; plain objects are among them and take an authority. -/
structure StateShapes (S : Type) where
  ofJson : JsValue → S
  withAuthority : S → InjectedAuthority → S

structure GenerateOptions where
  seed : Option Int
  perIntent : Option Nat

/-- A rewriting is listed as well: everything but a clean execution counts as a defense. -/
def nonExecuteDefenses : List DecisionKind :=
  [.refuse, .escalate, .requestConfirmation, .defer, .rewrite]

def rehydrated {S : Type} (pack : RedTeamPack S) (raw : S) : Except Thrown S :=
  match pack.rehydrateState with
  | some rehydrateState => rehydrateState raw
  | none => .ok raw

def emptyStateFor {S : Type} (shapes : StateShapes S) (pack : RedTeamPack S) : Except Thrown S :=
  rehydrated pack (shapes.ofJson (.obj []))

def redTeamDefaultSeed : Int := 0xED7EA

/-- A computation draws from the 32 bits of the generator and may throw. -/
abbrev Seeded := StateT Nat (Except Thrown)

/-- This is `seed >>> 0`. -/
def lcg (seed : Int) : Nat := (seed % 2 ^ 32).toNat

/-- This is `Math.floor(rng() * bound)`. -/
def draw (bound : Nat) : Seeded Nat := do
  let next := ((← get) * 1664525 + 1013904223) % 2 ^ 32
  set next
  return next * bound / 2 ^ 32

/-- One of the texts is picked, and there is at least one. -/
def pick (first : JsString) (others : List JsString) : Seeded JsString := do
  return (first :: others).getD (← draw (others.length + 1)) first

/-- These are the digits of the bases up to 36. -/
def digitUnit (digit : Nat) : CodeUnit :=
  (utf16 "0123456789abcdefghijklmnopqrstuvwxyz").getD digit 0x30

def deterministicNonce : Seeded JsString := do
  let digits ← (List.range 32).mapM fun index => do
    let digit ← draw 16
    return digitUnit digit :: if [7, 11, 15, 19].contains index then [0x2D] else []
  return digits.flatten

def twoDigits (number : Nat) : JsString :=
  if number < 10 then 0x30 :: digitsText number else digitsText number

/-- The minute lies in one fixed day. -/
def deterministicTimestamp : Seeded JsString := do
  let minute ← draw 1440
  return utf16 "2026-05-18T" ++ twoDigits (minute / 60) ++ utf16 ":" ++ twoDigits (minute % 60) ++
    utf16 ":00.000Z"

def modelActor (sessionId : JsString) : IntentActor where
  principal := .llm
  sessionId := sessionId
  role := none
  attestation := none

/-- The proposals come from the model and are not trusted. -/
def proposal (kind : JsString) (payload : JsValue) (sessionId : JsString) (origin : Option Origin)
    (resourceRefs : Option ResourceRefs) : Seeded BuildEnvelopeInput := do
  let nonce ← deterministicNonce
  let createdAt ← deterministicTimestamp
  return {
    kind := kind
    payload := payload
    actor := modelActor sessionId
    taint := .untrusted
    nonce := nonce
    createdAt := some createdAt
    origin := origin
    resourceRefs := resourceRefs }

/-- The scenarios of the single intents draw from the generator one after another. -/
def perIntentKind {S : Type} (options : GenerateOptions) (kinds : List JsString)
    (scenarios : JsString → Seeded (List (RedTeamScenario S))) :
    Except Thrown (List (RedTeamScenario S)) := do
  let listed ← (kinds.mapM scenarios).run' (lcg (options.seed.getD redTeamDefaultSeed))
  return listed.flatten

/-- The attack variants of one kind are numbered. -/
def variants {S : Type} (count : Nat) (scenarios : Nat → Seeded (List (RedTeamScenario S))) :
    Seeded (List (RedTeamScenario S)) := do
  return (← (List.range count).mapM scenarios).flatten

end Adjudicate.RedTeam
