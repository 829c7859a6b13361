/-
This file models the lazy subscription of the audit event bus and proves when it settles.
-/

import Adjudicate.Effect.Machine
import Adjudicate.Js.Value

namespace Adjudicate.Audit

open Js Adjudicate.Effect

/-- This is the `subscribingPromise`; a settled one is cleared by a later microtask. -/
inductive Subscribing where
  | cleared
  | inFlight
  | settled
deriving DecidableEq

/-- A handler is known by the token of its registration, and a subscription by its number. Which
subscriptions are active and being torn down, whether the last `SUBSCRIBE` failed and whether an
`UNSUBSCRIBE` did are observed only. -/
structure BusState where
  entries : List Nat
  nextToken : Nat
  unsubscribe : Option Nat
  subscribing : Subscribing
  nextSubscription : Nat
  active : List Nat
  tearing : List Nat
  unanswered : Bool
  stuck : Bool

inductive BusEvent where
  | subscribe
  | unsubscribe (token : Nat)
  | subscribed
  | subscribeFails
  | clears
  | unsubscribed (subscription : Nat)
  | unsubscribeFails (subscription : Nat)

namespace BusState

def initial : BusState where
  entries := []
  nextToken := 0
  unsubscribe := none
  subscribing := .cleared
  nextSubscription := 0
  active := []
  tearing := []
  unanswered := false
  stuck := false

/-- A pending promise keeps a further `SUBSCRIBE` from being issued. -/
def ensureSubscribed (state : BusState) : BusState :=
  if state.unsubscribe.isSome then state
  else
    match state.subscribing with
    | .cleared => { state with subscribing := .inFlight }
    | _ => state

/-- The last handler takes the subscription along if there is one by now. -/
def leave (state : BusState) (token : Nat) : BusState :=
  let entries := state.entries.filter (· ≠ token)
  match entries, state.unsubscribe with
  | [], some subscription =>
      { state with entries, unsubscribe := none, tearing := state.tearing ++ [subscription] }
  | _, _ => { state with entries }

def advance (state : BusState) : BusEvent → Option BusState
  | .subscribe =>
      some { state with
        entries := state.entries ++ [state.nextToken]
        nextToken := state.nextToken + 1 }.ensureSubscribed
  | .unsubscribe token => if token < state.nextToken then some (state.leave token) else none
  | .subscribed =>
      if state.subscribing = .inFlight then
        some { state with
          unsubscribe := some state.nextSubscription
          subscribing := .settled
          nextSubscription := state.nextSubscription + 1
          active := state.active ++ [state.nextSubscription]
          unanswered := false }
      else none
  | .subscribeFails =>
      if state.subscribing = .inFlight then
        some { state with subscribing := .settled, unanswered := true }
      else none
  | .clears =>
      if state.subscribing = .settled then some { state with subscribing := .cleared } else none
  | .unsubscribed subscription =>
      if subscription ∈ state.tearing then
        some { state with
          active := state.active.erase subscription
          tearing := state.tearing.erase subscription }
      else none
  | .unsubscribeFails subscription =>
      if subscription ∈ state.tearing then
        some { state with tearing := state.tearing.erase subscription, stuck := true }
      else none

/-- Each active subscription parses the message and hands it to a snapshot of the handlers. -/
def dispatch (state : BusState) (message : JsString) : List (Nat × JsValue) :=
  state.active.flatMap fun _ =>
    match JsValue.parse message with
    | none => []
    | some parsed => state.entries.map fun token => (token, parsed)

/-- No operation is under way. -/
structure Quiescent (state : BusState) : Prop where
  cleared : state.subscribing = .cleared
  torn : state.tearing = []

/-- There is one subscription exactly for registered handlers, and each of them is told once. -/
structure Settled (state : BusState) : Prop where
  subscribed : state.entries ≠ [] → ∃ subscription, state.active = [subscription]
  unsubscribed : state.entries = [] → state.active = []
  registered : state.entries.Nodup
  delivered : ∀ message parsed, JsValue.parse message = some parsed →
    state.dispatch message = state.entries.map fun token => (token, parsed)

/-- A `SUBSCRIBE` that succeeds finds a handler, and a handler that joins while the promise of a
successful one is not yet cleared finds its subscription. -/
def Careful (state : BusState) : BusEvent → Prop
  | .subscribed => state.entries ≠ []
  | .subscribe => state.subscribing = .settled → state.unsubscribe.isSome = true ∨ state.unanswered = true
  | _ => True

instance (state : BusState) (event : BusEvent) : Decidable (state.Careful event) :=
  match event with
  | .subscribed => inferInstanceAs (Decidable (_ ≠ _))
  | .subscribe => inferInstanceAs (Decidable (_ = _ → _ ∨ _))
  | .unsubscribe _ | .subscribeFails | .clears | .unsubscribed _ | .unsubscribeFails _ =>
      inferInstanceAs (Decidable True)

/-- Without a pending `SUBSCRIBE` there is a subscription exactly for registered handlers, unless the
last `SUBSCRIBE` failed. -/
structure Invariant (state : BusState) : Prop where
  registered : state.entries.Nodup
  fresh : ∀ token ∈ state.entries, token < state.nextToken
  pending : state.subscribing = .inFlight → state.unsubscribe = none
  matched : state.subscribing ≠ .inFlight → state.unanswered = false →
    (state.unsubscribe.isSome = true ↔ state.entries ≠ [])
  active : state.stuck = false → state.active.Perm (state.tearing ++ state.unsubscribe.toList)
  unheard : state.unanswered = true → state.unsubscribe = none

theorem invariant_initial : initial.Invariant where
  registered := List.nodup_nil
  fresh := nofun
  pending := fun _ => rfl
  matched := fun _ _ => ⟨nofun, fun some => absurd rfl some⟩
  active := fun _ => .nil
  unheard := nofun

theorem invariant_leave {state : BusState} (invariant : state.Invariant) (token : Nat) :
    (state.leave token).Invariant := by
  have some : (state.entries.filter (· ≠ token)).Sublist state.entries := List.filter_sublist
  have registered := invariant.registered.sublist some
  have fresh : ∀ other ∈ state.entries.filter (· ≠ token), other < state.nextToken :=
    fun other member => invariant.fresh other (some.subset member)
  unfold leave
  dsimp only
  split
  · next subscription left held =>
      refine ⟨registered, fresh, fun _ => rfl, fun _ _ => ?_, fun kept => ?_, fun _ => rfl⟩
      · exact ⟨nofun, fun present => absurd left present⟩
      · have active := invariant.active kept
        rw [held] at active
        exact active.trans (by simp)
  · next other =>
      refine ⟨registered, fresh, invariant.pending, fun idle answered => ?_, invariant.active,
        invariant.unheard⟩
      have matched := invariant.matched idle answered
      constructor
      · intro held left
        obtain ⟨subscription, subscribed⟩ := Option.isSome_iff_exists.mp held
        exact other subscription left subscribed
      · intro left
        refine matched.mpr ?_
        intro empty
        rw [empty] at left
        exact left rfl

theorem invariant_subscribe {state after : BusState} (invariant : state.Invariant)
    (careful : state.Careful .subscribe) (taken : state.advance .subscribe = some after) :
    after.Invariant := by
  obtain rfl := Option.some.inj taken
  have registered : (state.entries ++ [state.nextToken]).Nodup := by
    refine List.nodup_append.mpr ⟨invariant.registered, List.nodup_singleton _, ?_⟩
    intro token member last same equal
    rw [equal, List.mem_singleton.mp same] at member
    exact absurd (invariant.fresh _ member) (Nat.lt_irrefl _)
  have fresh : ∀ token ∈ state.entries ++ [state.nextToken], token < state.nextToken + 1 := by
    rw [List.forall_mem_append, List.forall_mem_singleton]
    exact ⟨fun token member => (invariant.fresh token member).trans (Nat.lt_succ_self _),
      Nat.lt_succ_self _⟩
  have joined : state.entries ++ [state.nextToken] ≠ [] := List.append_ne_nil_of_right_ne_nil _ nofun
  unfold ensureSubscribed
  split
  · next held =>
      exact ⟨registered, fresh, invariant.pending, fun _ _ => ⟨fun _ => joined, fun _ => held⟩,
        invariant.active, invariant.unheard⟩
  · next absent =>
      have none : state.unsubscribe = none := by simpa using absent
      dsimp only
      split
      · exact ⟨registered, fresh, fun _ => none, fun idle => absurd rfl idle, invariant.active,
          fun _ => none⟩
      · next going =>
          refine ⟨registered, fresh, invariant.pending, fun idle answered => ?_, invariant.active,
            invariant.unheard⟩
          have settled : state.subscribing = .settled := by
            cases phase : state.subscribing with
            | cleared => exact absurd phase going
            | inFlight => exact absurd phase idle
            | settled => rfl
          obtain held | failed := careful settled
          · exact absurd held absent
          · cases answered.symm.trans failed

/-- A careful step keeps the subscription and the handlers matched. -/
theorem invariant_step {before after : BusState} {event : BusEvent} (invariant : before.Invariant)
    (careful : before.Careful event) (taken : before.advance event = some after) :
    after.Invariant := by
  cases event with
  | subscribe => exact invariant_subscribe invariant careful taken
  | unsubscribe token =>
      simp only [advance] at taken
      split at taken
      · obtain rfl := Option.some.inj taken
        exact invariant_leave invariant token
      · cases taken
  | subscribed =>
      simp only [advance] at taken
      split at taken
      · next flying =>
          obtain rfl := Option.some.inj taken
          refine ⟨invariant.registered, invariant.fresh, nofun, fun _ _ => ⟨fun _ => careful, fun _ => rfl⟩,
            fun kept => ?_, nofun⟩
          have active := invariant.active kept
          rw [invariant.pending flying] at active
          exact active.append_right _ |>.trans (by simp)
      · cases taken
  | subscribeFails =>
      simp only [advance] at taken
      split at taken
      · next flying =>
          obtain rfl := Option.some.inj taken
          exact ⟨invariant.registered, invariant.fresh, nofun, nofun, invariant.active,
            fun _ => invariant.pending flying⟩
      · cases taken
  | clears =>
      simp only [advance] at taken
      split at taken
      · next settled =>
          obtain rfl := Option.some.inj taken
          refine ⟨invariant.registered, invariant.fresh, nofun, fun _ => ?_, invariant.active,
            invariant.unheard⟩
          exact invariant.matched (settled ▸ nofun)
      · cases taken
  | unsubscribed subscription =>
      simp only [advance] at taken
      split at taken
      · next member =>
          obtain rfl := Option.some.inj taken
          refine ⟨invariant.registered, invariant.fresh, invariant.pending, invariant.matched,
            fun kept => ?_, invariant.unheard⟩
          have active := (invariant.active kept).erase subscription
          rw [List.erase_append_left _ member] at active
          exact active
      · cases taken
  | unsubscribeFails subscription =>
      simp only [advance] at taken
      split at taken
      · obtain rfl := Option.some.inj taken
        exact ⟨invariant.registered, invariant.fresh, invariant.pending, invariant.matched, nofun,
          invariant.unheard⟩
      · cases taken

/-- At rest the invariant leaves one subscription or none. -/
theorem Invariant.settled {state : BusState} (invariant : state.Invariant) (quiet : state.Quiescent)
    (answered : state.unanswered = false) (torn : state.stuck = false) : state.Settled := by
  have matched := invariant.matched (quiet.cleared ▸ nofun) answered
  have active := invariant.active torn
  rw [quiet.torn, List.nil_append] at active
  have alone (left : state.entries = []) : state.active = [] := by
    cases held : state.unsubscribe with
    | none =>
        rw [held] at active
        exact List.perm_nil.mp active
    | some subscription =>
        rw [held] at matched
        exact absurd left (matched.mp rfl)
  have single (joined : state.entries ≠ []) : ∃ subscription, state.active = [subscription] := by
    obtain ⟨subscription, held⟩ := Option.isSome_iff_exists.mp (matched.mpr joined)
    rw [held] at active
    exact ⟨subscription, List.perm_singleton.mp active⟩
  refine ⟨single, alone, invariant.registered, fun message parsed reads => ?_⟩
  by_cases left : state.entries = []
  · rw [dispatch, alone left, left]
    rfl
  · obtain ⟨subscription, only⟩ := single left
    rw [dispatch, only, List.flatMap_singleton, reads]

end BusState

/-- After careful steps and operations that succeeded the bus at rest has its one subscription. -/
theorem eventBus_settled {events : List BusEvent} {state : BusState}
    (run : Run (Performed BusState.advance BusState.Careful) BusState.initial events state)
    (quiet : state.Quiescent) (answered : state.unanswered = false) (torn : state.stuck = false) :
    state.Settled := by
  have invariant : state.Invariant := run.keeps BusState.invariant_initial
    fun _ _ _ invariant step => BusState.invariant_step invariant step.1 step.2
  exact invariant.settled quiet answered torn

/-- The first handler that joins gets the only subscription. -/
theorem eventBus_settled_first : ∃ state : BusState, state.entries = [0] ∧ state.Settled := by
  let state : BusState := { BusState.initial with
    entries := [0], nextToken := 1, unsubscribe := some 0, nextSubscription := 1, active := [0] }
  have performed : perform BusState.advance BusState.Careful BusState.initial
      [.subscribe, .subscribed, .clears] = some state := rfl
  exact ⟨state, rfl, eventBus_settled (run_perform _ _ performed) ⟨rfl, rfl⟩ rfl rfl⟩

/-- A handler that leaves while its `SUBSCRIBE` is in flight leaks the subscription, and one that joins
before the promise is cleared after the last one has left gets none. -/
theorem eventBus_unsettled :
    (∃ events state, Run (Performed BusState.advance fun _ _ => True) BusState.initial events state ∧
      state.Quiescent ∧ state.unanswered = false ∧ state.stuck = false ∧
      state.entries = [] ∧ ¬state.Settled) ∧
    ∃ events state, Run (Performed BusState.advance fun _ _ => True) BusState.initial events state ∧
      state.Quiescent ∧ state.unanswered = false ∧ state.stuck = false ∧
      state.entries = [1] ∧ ¬state.Settled := by
  constructor
  · let state : BusState := { BusState.initial with
      nextToken := 1, unsubscribe := some 0, nextSubscription := 1, active := [0] }
    have performed : perform BusState.advance (fun _ _ => True) BusState.initial
        [.subscribe, .unsubscribe 0, .subscribed, .clears] = some state := rfl
    refine ⟨_, state, run_perform _ _ performed, ⟨rfl, rfl⟩, rfl, rfl, rfl, fun settled => ?_⟩
    cases settled.unsubscribed rfl
  · let state : BusState := { BusState.initial with
      entries := [1], nextToken := 2, nextSubscription := 1 }
    have performed : perform BusState.advance (fun _ _ => True) BusState.initial
        [.subscribe, .subscribed, .unsubscribe 0, .subscribe, .clears, .unsubscribed 0] =
          some state := rfl
    refine ⟨_, state, run_perform _ _ performed, ⟨rfl, rfl⟩, rfl, rfl, rfl, fun settled => ?_⟩
    obtain ⟨subscription, active⟩ := settled.subscribed (List.cons_ne_nil _ _)
    cases active

end Adjudicate.Audit
