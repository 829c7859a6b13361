/-
This file bounds the grants of every sliding window and keeps the scopes apart.
-/

import Adjudicate.Budget.BurnDown
import Mathlib.Data.Int.Order.Basic

namespace Adjudicate.Budget

open Js

section

variable {T : Type} [LinearOrder T] {rk : JsString → JsString}

/-- The grants on a counter from some time on. -/
def recent (rk : JsString → JsString) (log : List (BurnDown T)) (key : JsString) (first : T) : Nat :=
  log.countP fun entry => decide (counterKey rk entry.grant = key ∧ first ≤ entry.time) && entry.granted

theorem base_congr {store after : CounterStore T} {key : JsString} (now : T)
    (counters : after.counters key = store.counters key)
    (expiry : after.counterExpiry key = store.counterExpiry key) :
    after.base now key = store.base now key := by
  rw [CounterStore.base, CounterStore.base, counters, expiry]

/-- A refused burn-down writes the count that the store would answer with anyway. -/
theorem base_refused (now : T) (store : CounterStore T) (key : JsString) :
    CounterStore.base { store with
      counters := Function.update store.counters key (some (store.base now key)) } now key =
        store.base now key := by
  simp only [CounterStore.base, Function.update_self]
  cases store.counterExpiry key with
  | none => rfl
  | some expired =>
      simp only
      split <;> rfl

/-- The log grows by one entry. -/
theorem recent_append (log : List (BurnDown T)) (entry : BurnDown T) (key : JsString) (first : T) :
    recent rk (log ++ [entry]) key first = recent rk log key first +
      if counterKey rk entry.grant = key ∧ first ≤ entry.time ∧ entry.granted = true then 1
      else 0 := by
  rw [recent, List.countP_append, List.countP_singleton, recent]
  congr 1
  simp only [Bool.and_eq_true, decide_eq_true_eq, and_assoc]

/-- The grants of one burn-down's grant are among the recent ones on its counter. -/
theorem grantedIn_le_recent (log : List (BurnDown T)) (grant : BudgetGrant T) (first last : T) :
    grantedIn log grant first last ≤ recent rk log (counterKey rk grant) first := by
  apply List.countP_mono_left
  intro entry _ counted
  simp only [Bool.and_eq_true, decide_eq_true_eq] at counted ⊢
  obtain ⟨⟨rfl, after, -⟩, granted⟩ := counted
  exact ⟨⟨rfl, after⟩, granted⟩

variable [AddCommGroup T]

/-- The counter of a key covers every grant that is not older than the window. -/
structure Covers (rk : JsString → JsString) (key : JsString) (window : T) (world : World T) :
    Prop where
  past : ∀ entry ∈ world.log, entry.time ≤ world.now
  expiry : ∀ entry ∈ world.log, counterKey rk entry.grant = key → entry.granted = true →
    ∃ expired, world.store.counterExpiry key = some expired ∧ entry.time + window ≤ expired
  counted : ∀ first, world.now < first + window →
    recent rk world.log key first ≤ world.store.base world.now key

theorem covers_start (key : JsString) (window now : T) :
    Covers rk key window (World.start now) where
  past := fun _ inside => (List.not_mem_nil inside).elim
  expiry := fun _ inside => (List.not_mem_nil inside).elim
  counted := fun _ _ => Nat.zero_le _

/-- A burn-down is granted exactly when the next count does not pass the limit. -/
theorem runBudgetBurnDown_eq (now : T) (store : CounterStore T) (grant : BudgetGrant T) :
    runBudgetBurnDown rk now store grant =
      if grant.limit.passed (store.base now (counterKey rk grant) + 1) then
        (false, { store with
          counters := Function.update store.counters (counterKey rk grant)
            (some (store.base now (counterKey rk grant))) })
      else
        (true,
          { counters := Function.update store.counters (counterKey rk grant)
              (some (store.base now (counterKey rk grant) + 1))
            counterExpiry := Function.update store.counterExpiry (counterKey rk grant)
              (some (now + 1000 • grant.windowSeconds)) }) := by
  rw [runBudgetBurnDown, evalIncrCheck]
  cases grant.limit.passed (store.base now (counterKey rk grant) + 1) <;> rfl

theorem answer_eq (world : World T) (grant : BudgetGrant T) :
    answer rk world grant =
      !grant.limit.passed (world.store.base world.now (counterKey rk grant) + 1) := by
  rw [answer, runBudgetBurnDown_eq]
  cases grant.limit.passed (world.store.base world.now (counterKey rk grant) + 1) <;> rfl

/-- A burn-down changes its own counter only. -/
theorem burnDown_other (now : T) (store : CounterStore T) (grant : BudgetGrant T) {key : JsString}
    (other : key ≠ counterKey rk grant) :
    (runBudgetBurnDown rk now store grant).2.counters key = store.counters key ∧
      (runBudgetBurnDown rk now store grant).2.counterExpiry key = store.counterExpiry key := by
  rw [runBudgetBurnDown_eq]
  split
  · exact ⟨Function.update_of_ne other .., rfl⟩
  · exact ⟨Function.update_of_ne other .., Function.update_of_ne other ..⟩

theorem Covers.future {key : JsString} {window : T} {world : World T}
    (covers : Covers rk key window world) {first : T}
    (later : world.now < first) : recent rk world.log key first = 0 := by
  rw [recent, List.countP_eq_zero]
  intro entry inside counted
  simp only [Bool.and_eq_true, decide_eq_true_eq] at counted
  exact absurd (counted.1.2.trans (covers.past entry inside)) (not_le.mpr later)

variable [IsOrderedAddMonoid T] {key : JsString} {window : T} {world : World T}

/-- Nothing recent is left once the counter has expired. -/
theorem Covers.expired (covers : Covers rk key window world) {expired now first : T}
    (expiry : world.store.counterExpiry key = some expired) (gone : expired ≤ now)
    (short : now < first + window) : recent rk world.log key first = 0 := by
  rw [recent, List.countP_eq_zero]
  intro entry inside counted
  simp only [Bool.and_eq_true, decide_eq_true_eq] at counted
  obtain ⟨⟨same, after⟩, granted⟩ := counted
  obtain ⟨other, found, bound⟩ := covers.expiry entry inside same granted
  obtain rfl : expired = other := Option.some.inj (expiry.symm.trans found)
  have late : first + window ≤ now := by
    calc first + window ≤ entry.time + window := by gcongr
      _ ≤ expired := bound
      _ ≤ now := gone
  exact absurd short (not_lt.mpr late)

theorem Covers.advance (covers : Covers rk key window world) (reading : T) :
    Covers rk key window (world.step rk (.advance reading)) where
  past := fun entry inside => (covers.past entry inside).trans (le_max_left ..)
  expiry := covers.expiry
  counted := by
    intro first short
    change max world.now reading < first + window at short
    have before := covers.counted first ((le_max_left _ _).trans_lt short)
    change recent rk world.log key first ≤ world.store.base (max world.now reading) key
    rw [CounterStore.base] at before ⊢
    cases expiry : world.store.counterExpiry key with
    | none =>
        rw [expiry] at before
        exact before
    | some expired =>
        simp only [expiry] at before ⊢
        split
        · next gone => exact (covers.expired expiry gone short).le
        · next running =>
            have live : ¬expired ≤ world.now := fun gone =>
              running (gone.trans (le_max_left ..))
            rwa [if_neg live] at before

/-- A burn-down of the window keeps its counter in step with the recent grants. -/
theorem Covers.burnDown (covers : Covers rk key window world) {grant : BudgetGrant T}
    (same : counterKey rk grant = key → 1000 • grant.windowSeconds = window) :
    Covers rk key window (world.step rk (.burnDown grant)) := by
  have grown (first : T) : recent rk (world.step rk (.burnDown grant)).log key first =
      recent rk world.log key first +
        if counterKey rk grant = key ∧ first ≤ world.now ∧ answer rk world grant = true then 1
        else 0 := recent_append _ _ _ _
  have past (entry : BurnDown T) (inside : entry ∈ (world.step rk (.burnDown grant)).log) :
      entry.time ≤ world.now := by
    obtain before | rfl := List.mem_append.mp inside |>.imp_right List.mem_singleton.mp
    · exact covers.past entry before
    · exact le_rfl
  by_cases here : counterKey rk grant = key
  · obtain rfl := same here
    subst here
    have steps := @runBudgetBurnDown_eq T _ rk _ world.now world.store grant
    have answered := @answer_eq T _ rk _ world grant
    cases passed : grant.limit.passed
        (world.store.base world.now (counterKey rk grant) + 1) with
    | true =>
        rw [passed, if_pos rfl] at steps
        rw [passed] at answered
        have store : (world.step rk (.burnDown grant)).store = { world.store with
            counters := Function.update world.store.counters (counterKey rk grant)
              (some (world.store.base world.now (counterKey rk grant))) } :=
          congrArg Prod.snd steps
        refine ⟨past, ?_, ?_⟩
        · intro entry inside sameKey granted
          rw [store]
          obtain before | rfl := List.mem_append.mp inside |>.imp_right List.mem_singleton.mp
          · exact covers.expiry entry before sameKey granted
          · cases answered.symm.trans granted
        · intro first short
          rw [grown, answered, store]
          simp only [Bool.not_true, Bool.false_eq_true, and_false, if_false, add_zero]
          refine (covers.counted first short).trans_eq ?_
          exact (base_refused world.now world.store (counterKey rk grant)).symm
    | false =>
        rw [passed, if_neg Bool.false_ne_true] at steps
        rw [passed] at answered
        have store : (world.step rk (.burnDown grant)).store =
            { counters := Function.update world.store.counters (counterKey rk grant)
                (some (world.store.base world.now (counterKey rk grant) + 1))
              counterExpiry := Function.update world.store.counterExpiry (counterKey rk grant)
                (some (world.now + 1000 • grant.windowSeconds)) } := congrArg Prod.snd steps
        have expiry : (world.step rk (.burnDown grant)).store.counterExpiry (counterKey rk grant) =
            some (world.now + 1000 • grant.windowSeconds) := by
          rw [store]
          exact Function.update_self ..
        have counters : (world.step rk (.burnDown grant)).store.counters (counterKey rk grant) =
            some (world.store.base world.now (counterKey rk grant) + 1) := by
          rw [store]
          exact Function.update_self ..
        refine ⟨past, ?_, ?_⟩
        · intro entry inside _ _
          refine ⟨_, expiry, ?_⟩
          have bound := past entry inside
          gcongr
        · intro first short
          change world.now < first + 1000 • grant.windowSeconds at short
          have base : (world.step rk (.burnDown grant)).store.base
              (world.step rk (.burnDown grant)).now (counterKey rk grant) =
                if world.now + 1000 • grant.windowSeconds ≤ world.now then 0
                else world.store.base world.now (counterKey rk grant) + 1 := by
            rw [CounterStore.base, expiry, counters]
            rfl
          rw [grown, base]
          by_cases gone : world.now + 1000 • grant.windowSeconds ≤ world.now
          · -- A window that is over at once has no recent grants at all.
            have later : world.now < first := by
              refine lt_of_not_ge fun early => ?_
              have bound : first + 1000 • grant.windowSeconds ≤
                  world.now + 1000 • grant.windowSeconds := by gcongr
              exact absurd short (not_lt.mpr (bound.trans gone))
            rw [covers.future later, if_neg fun counted => absurd counted.2.1 (not_le.mpr later)]
            exact Nat.zero_le _
          · have before := covers.counted first short
            rw [if_neg gone]
            split <;> omega
  · have other : key ≠ counterKey rk grant := fun same => here same.symm
    obtain ⟨counters, expiry⟩ := burnDown_other world.now world.store grant other
    refine ⟨past, ?_, ?_⟩
    · intro entry inside sameKey granted
      obtain before | rfl := List.mem_append.mp inside |>.imp_right List.mem_singleton.mp
      · obtain ⟨expired, found, bound⟩ := covers.expiry entry before sameKey granted
        exact ⟨expired, expiry.trans found, bound⟩
      · exact (here sameKey).elim
    · intro first short
      rw [grown, if_neg fun counted => here counted.1, add_zero]
      exact (covers.counted first short).trans_eq (base_congr world.now counters expiry).symm

/-- A burn-down that its counter covers keeps every limit. -/
theorem withinLimits_burnDown {grant : BudgetGrant T}
    (covers : Covers rk (counterKey rk grant) (1000 • grant.windowSeconds) world)
    (within : WithinLimits world.log) :
    WithinLimits (world.step rk (.burnDown grant)).log := by
  intro other first last short
  have grown : grantedIn (world.step rk (.burnDown grant)).log other first last =
      grantedIn world.log other first last +
        if (grant = other ∧ first ≤ world.now ∧ world.now ≤ last) ∧
          answer rk world grant = true then 1 else 0 := by
    change grantedIn (world.log ++ [⟨grant, world.now, answer rk world grant⟩]) other first last = _
    rw [grantedIn, List.countP_append, List.countP_singleton, grantedIn]
    congr 1
    simp only [Bool.and_eq_true, decide_eq_true_eq]
  rw [grown]
  split
  · next counted =>
      obtain ⟨⟨rfl, after, before⟩, granted⟩ := counted
      right
      have room : world.now < first + 1000 • grant.windowSeconds := by
        calc world.now ≤ last := before
          _ < first + 1000 • grant.windowSeconds := sub_lt_iff_lt_add'.mp short
      have bound := (@grantedIn_le_recent T _ rk world.log grant first last).trans
        (covers.counted first room)
      rw [answer_eq, Bool.not_eq_true'] at granted
      exact JsNumber.passed_mono (Nat.add_le_add_right bound 1) granted
  · exact within other first last short

/-- Every prefix of an unshared run is covered and within its limits. -/
theorem run_covers {now : T} {events : List (Event T)} (unshared : Unshared rk events)
    (before : List (Event T)) (inside : ∀ event ∈ before, event ∈ events) :
    (∀ grant, .burnDown grant ∈ events →
      Covers rk (counterKey rk grant) (1000 • grant.windowSeconds) (run rk now before)) ∧
    WithinLimits (run rk now before).log := by
  induction before using List.reverseRecOn with
  | nil => exact ⟨fun _ _ => covers_start _ _ _, fun _ _ _ _ => .inl rfl⟩
  | append_singleton before event ih =>
      obtain ⟨covers, within⟩ := ih fun other member => inside other (by simp [member])
      have present := inside event (by simp)
      have step : run rk now (before ++ [event]) = (run rk now before).step rk event := by
        rw [run, List.foldl_append]
        rfl
      rw [step]
      cases event with
      | advance reading => exact ⟨fun grant burned => (covers grant burned).advance reading, within⟩
      | burnDown other =>
          refine ⟨fun grant burned => (covers grant burned).burnDown fun same => ?_,
            withinLimits_burnDown (covers other present) within⟩
          rw [(unshared other grant present burned same).2]

omit [IsOrderedAddMonoid T]

/-- The runs agree on the clock and on one counter. -/
structure Agree (key : JsString) (left right : World T) : Prop where
  now : left.now = right.now
  counters : left.store.counters key = right.store.counters key
  expiry : left.store.counterExpiry key = right.store.counterExpiry key

/-- A burn-down on an agreed counter keeps the agreement. -/
theorem Agree.burnDown {left right : World T} {grant : BudgetGrant T}
    (agree : Agree (counterKey rk grant) left right) :
    Agree (counterKey rk grant) (left.step rk (.burnDown grant))
      (right.step rk (.burnDown grant)) := by
  have base : left.store.base left.now (counterKey rk grant) =
      right.store.base right.now (counterKey rk grant) := by
    rw [agree.now]
    exact base_congr _ agree.counters agree.expiry
  have leftSteps := @runBudgetBurnDown_eq T _ rk _ left.now left.store grant
  have rightSteps := @runBudgetBurnDown_eq T _ rk _ right.now right.store grant
  rw [base, agree.now] at leftSteps
  cases passed : grant.limit.passed (right.store.base right.now (counterKey rk grant) + 1) with
  | true =>
      rw [passed, if_pos rfl] at leftSteps rightSteps
      refine ⟨agree.now, ?_, ?_⟩ <;> simp only [World.step, agree.now, leftSteps, rightSteps]
      · simp only [Function.update_self]
      · exact agree.expiry
  | false =>
      rw [passed, if_neg Bool.false_ne_true] at leftSteps rightSteps
      refine ⟨agree.now, ?_, ?_⟩ <;>
        simp only [World.step, agree.now, leftSteps, rightSteps, Function.update_self]

/-- Burn-downs of other scopes leave the counter of a scope alone. -/
theorem run_filter {now : T} {events : List (Event T)} (unshared : Unshared rk events)
    {grant : BudgetGrant T} (burned : .burnDown grant ∈ events) (before : List (Event T))
    (inside : ∀ event ∈ before, event ∈ events) :
    Agree (counterKey rk grant) (run rk now before)
      (run rk now (before.filter (Event.concerns grant))) := by
  induction before using List.reverseRecOn with
  | nil => exact ⟨rfl, rfl, rfl⟩
  | append_singleton before event ih =>
      have agree := ih fun other member => inside other (by simp [member])
      have present := inside event (by simp)
      have step (events : List (Event T)) :
          run rk now (events ++ [event]) = (run rk now events).step rk event := by
        rw [run, List.foldl_append]
        rfl
      rw [List.filter_append, step]
      cases event with
      | advance reading =>
          rw [show [Event.advance reading].filter (Event.concerns grant) = [.advance reading] from rfl,
            step]
          exact ⟨congrArg (max · reading) agree.now, agree.counters, agree.expiry⟩
      | burnDown other =>
          by_cases same : other.scope = grant.scope
          · rw [show [Event.burnDown other].filter (Event.concerns grant) = [.burnDown other] by
              simp [Event.concerns, same], step]
            have keys : counterKey rk other = counterKey rk grant := by
              obtain ⟨ids, kinds⟩ := Prod.mk.inj same
              rw [counterKey, counterKey, ids, kinds]
            rw [← keys] at agree ⊢
            exact agree.burnDown
          · rw [show [Event.burnDown other].filter (Event.concerns grant) = [] by
              simp [Event.concerns, same], List.append_nil]
            have other' : counterKey rk grant ≠ counterKey rk other := fun keys =>
              same (unshared other grant present burned keys.symm).1
            obtain ⟨counters, expiry⟩ :=
              burnDown_other (run rk now before).now (run rk now before).store other other'
            exact ⟨agree.now, counters.trans agree.counters, expiry.trans agree.expiry⟩

end

/-- Two payments an hour, and one refund a minute. -/
def paymentGrant : BudgetGrant Int := ⟨"g-1", "payment.send", 2, 3600⟩

def refundGrant : BudgetGrant Int := ⟨"g-2", "refund.send", 1, 60⟩

def sampleEvents : List (Event Int) :=
  [.burnDown paymentGrant, .burnDown refundGrant, .burnDown paymentGrant, .advance 60000,
    .burnDown refundGrant, .burnDown paymentGrant]

/-- The identifier of the one grant and the kind of the other spell the same counter. -/
def regionalGrant : BudgetGrant Int := ⟨"team", "pay:eu", 1, 3600⟩

def shortGrant : BudgetGrant Int := ⟨"team:pay", "eu", 5, 1⟩

end Adjudicate.Budget
