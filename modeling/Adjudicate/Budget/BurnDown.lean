/-
This file models the budget counters of the in-memory store and the burn-downs on them.
-/

import Adjudicate.Js.Comparison
import Adjudicate.Js.Text
import Mathlib.Algebra.Order.Group.Basic
import Mathlib.Logic.Function.Basic

namespace Adjudicate.Budget

open Js

/-- Times are exact milliseconds, and a window is a number of seconds. -/
structure BudgetGrant (T : Type) where
  budgetId : JsString
  intentKind : JsString
  limit : JsNumber
  windowSeconds : T
deriving DecidableEq

/-- A grant is scoped to its identifier and its kind. -/
def BudgetGrant.scope {T : Type} (grant : BudgetGrant T) : JsString × JsString :=
  (grant.budgetId, grant.intentKind)

/-- These are the two maps of the store that belong to counters. -/
structure CounterStore (T : Type) where
  counters : JsString → Option Nat
  counterExpiry : JsString → Option T

section

variable {T : Type} [AddCommGroup T] [LinearOrder T]

/-- A counter past its expiry refills. -/
def CounterStore.base (store : CounterStore T) (now : T) (counterKey : JsString) : Nat :=
  match store.counterExpiry counterKey with
  | some expired => if expired ≤ now then 0 else (store.counters counterKey).getD 0
  | none => (store.counters counterKey).getD 0

/-- Only an accepted increment renews the expiry. -/
def evalIncrCheck (now : T) (store : CounterStore T) (counterKey : JsString) (ttlSeconds : T)
    (max : JsNumber) : Nat × CounterStore T :=
  let base := store.base now counterKey
  if max.passed (base + 1) then
    (0, { store with counters := Function.update store.counters counterKey (some base) })
  else
    (base + 1,
      { counters := Function.update store.counters counterKey (some (base + 1))
        counterExpiry :=
          Function.update store.counterExpiry counterKey (some (now + 1000 • ttlSeconds)) })

/-- The caller supplies the namespace `rk` of the keys. -/
def counterKey (rk : JsString → JsString) (grant : BudgetGrant T) : JsString :=
  rk (utf16 "budget:" ++ grant.budgetId ++ utf16 ":" ++ grant.intentKind)

def runBudgetBurnDown (rk : JsString → JsString) (now : T) (store : CounterStore T)
    (grant : BudgetGrant T) : Bool × CounterStore T :=
  let (result, after) :=
    evalIncrCheck now store (counterKey rk grant) grant.windowSeconds grant.limit
  (result != 0, after)

structure BurnDown (T : Type) where
  grant : BudgetGrant T
  time : T
  granted : Bool

/-- The clock, the store and the burn-downs in the order of the calls. -/
structure World (T : Type) where
  now : T
  store : CounterStore T
  log : List (BurnDown T)

def World.start (now : T) : World T := ⟨now, ⟨fun _ => none, fun _ => none⟩, []⟩

inductive Event (T : Type) where
  | burnDown (grant : BudgetGrant T)
  | advance (reading : T)

variable (rk : JsString → JsString)

/-- The clock never goes back. -/
def World.step (world : World T) : Event T → World T
  | .burnDown grant =>
      let (granted, store) := runBudgetBurnDown rk world.now world.store grant
      { world with store := store, log := world.log ++ [⟨grant, world.now, granted⟩] }
  | .advance reading => { world with now := max world.now reading }

def run (now : T) (events : List (Event T)) : World T :=
  events.foldl (World.step rk) (World.start now)

/-- Whether the next burn-down of the grant is granted. -/
def answer (world : World T) (grant : BudgetGrant T) : Bool :=
  (runBudgetBurnDown rk world.now world.store grant).1

/-- The grants of one burn-down's grant within a closed interval of time. -/
def grantedIn (log : List (BurnDown T)) (grant : BudgetGrant T) (first last : T) : Nat :=
  log.countP fun entry =>
    decide (entry.grant = grant ∧ first ≤ entry.time ∧ entry.time ≤ last) && entry.granted

/-- Every interval shorter than the window of a grant holds at most its limit of burn-downs. -/
def WithinLimits (log : List (BurnDown T)) : Prop :=
  ∀ grant first last, last - first < 1000 • grant.windowSeconds →
    grantedIn log grant first last = 0 ∨
      grant.limit.passed (grantedIn log grant first last) = false

/-- The events that a burn-down of the grant may depend on. -/
def Event.concerns (grant : BudgetGrant T) : Event T → Bool
  | .burnDown other => decide (other.scope = grant.scope)
  | .advance _ => true

/-- The burn-downs of other scopes change no answer. -/
def Independent (now : T) (events : List (Event T)) : Prop :=
  ∀ before grant after, events = before ++ .burnDown grant :: after →
    answer rk (run rk now before) grant =
      answer rk (run rk now (before.filter (Event.concerns grant))) grant

/-- Burn-downs that share a counter are of one scope and one window. -/
def Unshared (events : List (Event T)) : Prop :=
  ∀ grant other, .burnDown grant ∈ events → .burnDown other ∈ events →
    counterKey rk grant = counterKey rk other →
      grant.scope = other.scope ∧ grant.windowSeconds = other.windowSeconds

end

end Adjudicate.Budget
