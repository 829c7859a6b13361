/-
This file relates the counters of one account to the samples that it has taken.
-/

import Adjudicate.Budget.TokenUsage
import Mathlib.Data.List.Infix

namespace Adjudicate.Budget

open Js

/-- This adds an exact quantity of the samples. -/
def summed (amount : TokenUsageSample → Nat) (samples : List TokenUsageSample) : Nat :=
  (samples.map amount).sum

abbrev tokens : List TokenUsageSample → Nat := summed normalisedTotal

/-- The samples of an account have reached its cap. -/
def reached (capOf : List TokenUsageSample → Option JsNumber) (seen : List TokenUsageSample) :
    Option Reach :=
  seen.getLast?.bind fun last => (capOf seen).bind fun cap =>
    if cap.atMost (.ofNat (tokens seen)) then some ⟨last.at, .ofNat (tokens seen), cap⟩ else none

/-- This is the first sample after which the cap is reached. -/
def firstReach (capOf : List TokenUsageSample → Option JsNumber)
    (samples : List TokenUsageSample) : Option Reach :=
  samples.inits.findSome? (reached capOf)

/-- These are the counters that a session and a tenant have in common. -/
structure Counters where
  consumed : JsNumber
  promptConsumed : JsNumber
  completionConsumed : JsNumber
  exhausted : Bool

def SessionRow.counters (row : SessionRow) : Counters :=
  ⟨row.consumed, row.promptConsumed, row.completionConsumed, row.exhausted⟩

def TenantRow.counters (row : TenantRow) : Counters :=
  ⟨row.consumed, row.promptConsumed, row.completionConsumed, row.exhausted⟩

def Counters.zero : Counters := ⟨.ofNat 0, .ofNat 0, .ofNat 0, false⟩

def Counters.charged (counters : Counters) (sample : TokenUsageSample) (reach : Option Reach) :
    Counters :=
  ⟨counters.consumed.add (sampleTotal sample),
    counters.promptConsumed.add (samplePromptCompletion sample).1,
    counters.completionConsumed.add (samplePromptCompletion sample).2,
    counters.exhausted || reach.isSome⟩

/-- The counters follow from the samples of the account. -/
def counted (capOf : List TokenUsageSample → Option JsNumber) (own : List TokenUsageSample) :
    Counters :=
  ⟨.ofNat (tokens own), .ofNat (summed promptPart own), .ofNat (summed completionPart own),
    (firstReach capOf own).isSome⟩

/-- A row counts the samples of its account, and the events of the account are its first reach. -/
structure Accounts (capOf : List TokenUsageSample → Option JsNumber)
    (own : List TokenUsageSample) (row : Option Counters) (reaches : List Reach) : Prop where
  row_eq : row = if own = [] then none else some (counted capOf own)
  reaches_eq : reaches = (firstReach capOf own).toList

/-- The clamped parts of a sample do not exceed its normalised total. -/
def Fits (sample : TokenUsageSample) : Prop :=
  promptPart sample + completionPart sample ≤ normalisedTotal sample

section Accounts

variable {capOf : List TokenUsageSample → Option JsNumber} {own : List TokenUsageSample}
  {row : Option Counters} {reaches : List Reach} {sample : TokenUsageSample}

theorem summed_snoc (amount : TokenUsageSample → Nat) (seen : List TokenUsageSample)
    (sample : TokenUsageSample) :
    summed amount (seen ++ [sample]) = summed amount seen + amount sample := by
  simp [summed]

theorem summed_sublist (amount : TokenUsageSample → Nat) {some all : List TokenUsageSample}
    (sublist : some.Sublist all) : summed amount some ≤ summed amount all :=
  (sublist.map amount).sum_le_sum fun _ _ => Nat.zero_le _

/-- Samples that fit one by one fit together. -/
theorem summed_fits (fits : ∀ taken ∈ own, Fits taken) :
    summed promptPart own + summed completionPart own ≤ tokens own := by
  induction own with
  | nil => exact Nat.le_refl 0
  | cons sample rest ih =>
      obtain ⟨first, others⟩ := List.forall_mem_cons.mp fits
      have rest := ih others
      unfold Fits at first
      simp only [summed, List.map_cons, List.sum_cons] at rest ⊢
      omega

theorem firstReach_snoc (seen : List TokenUsageSample) (sample : TokenUsageSample) :
    firstReach capOf (seen ++ [sample]) =
      (firstReach capOf seen).or (reached capOf (seen ++ [sample])) := by
  have last : ([sample].inits.tail.map fun rest => seen ++ rest) = [seen ++ [sample]] := rfl
  rw [firstReach, List.inits_append, List.findSome?_append, last, List.findSome?_singleton]
  rfl

theorem reached_snoc (seen : List TokenUsageSample) (sample : TokenUsageSample) :
    reached capOf (seen ++ [sample]) = (capOf (seen ++ [sample])).bind fun cap =>
      if cap.atMost (.ofNat (tokens (seen ++ [sample]))) then
        some ⟨sample.at, .ofNat (tokens (seen ++ [sample])), cap⟩ else none := by
  rw [reached, List.getLast?_concat]
  rfl

/-- An account that has reached no cap stays below the cap that it has. -/
theorem below_of_unreached (safe : tokens own < 2 ^ 53) (unreached : firstReach capOf own = none)
    {cap : JsNumber} (capped : capOf own = some cap)
    (positive : (JsNumber.ofNat 0).below cap = true) :
    (JsNumber.ofNat (tokens own)).below cap = true := by
  cases own using List.reverseRecOn with
  | nil => exact positive
  | append_singleton seen sample =>
      rw [firstReach_snoc, Option.or_eq_none_iff, reached_snoc, capped, Option.bind_some] at unreached
      have above : cap.atMost (.ofNat (tokens (seen ++ [sample]))) = false := by
        by_contra other
        rw [Bool.not_eq_false] at other
        rw [if_pos other] at unreached
        cases unreached.2
      by_contra unordered
      rw [Bool.not_eq_true] at unordered
      obtain ⟨-, place, -, placed, -⟩ := JsNumber.below_iff.mp positive
      have number : cap ≠ .nan := by
        rintro rfl
        cases placed
      have ordered := JsNumber.atMost_of_not_below (JsNumber.ofNat_ne_nan safe) number unordered
      rw [above] at ordered
      cases ordered

theorem Accounts.start (accounts : Accounts capOf own row reaches) :
    row.getD .zero = counted capOf own := by
  rw [accounts.row_eq]
  split
  · next empty =>
      subst empty
      rfl
  · rfl

/-- The counters stay exact while the sums are safe integers. -/
theorem counted_charged (fits : ∀ taken ∈ own ++ [sample], Fits taken)
    (safe : tokens (own ++ [sample]) < 2 ^ 53) {reach : Option Reach}
    (crosses : (firstReach capOf (own ++ [sample])).isSome =
      ((firstReach capOf own).isSome || reach.isSome)) :
    (counted capOf own).charged sample reach = counted capOf (own ++ [sample]) := by
  have together := summed_fits fits
  rw [tokens, summed_snoc] at safe
  rw [tokens, summed_snoc, summed_snoc, summed_snoc] at together
  unfold counted Counters.charged
  rw [tokens, summed_snoc, summed_snoc, summed_snoc, crosses]
  dsimp only [sampleTotal, samplePromptCompletion]
  rw [JsNumber.add_ofNat (by omega) (by omega), JsNumber.add_ofNat (by omega) (by omega),
    JsNumber.add_ofNat (by omega) (by omega)]

/-- A further sample is charged to the row and crosses the cap at most once. -/
theorem Accounts.charge (accounts : Accounts capOf own row reaches)
    (fits : ∀ taken ∈ own ++ [sample], Fits taken) (safe : tokens (own ++ [sample]) < 2 ^ 53)
    (unreached : firstReach capOf own = none → ∀ cap, capOf (own ++ [sample]) = some cap →
      (JsNumber.ofNat (tokens own)).below cap = true)
    {before : Counters} (start : row.getD .zero = before) {reach : Option Reach}
    (crosses : reach = crossing (capOf (own ++ [sample])) before.exhausted before.consumed
      (before.consumed.add (sampleTotal sample)) sample.at) :
    Accounts capOf (own ++ [sample]) (some (before.charged sample reach))
      (reaches ++ reach.toList) := by
  rw [accounts.start] at start
  subst start
  have exact : (counted capOf own).consumed.add (sampleTotal sample) =
      .ofNat (tokens (own ++ [sample])) := by
    unfold counted tokens
    rw [tokens, summed_snoc] at safe
    rw [summed_snoc]
    exact JsNumber.add_ofNat (by omega) (by omega)
  have first : firstReach capOf (own ++ [sample]) = (firstReach capOf own).or reach := by
    rw [firstReach_snoc]
    cases earlier : firstReach capOf own with
    | some _ => rfl
    | none =>
        rw [Option.none_or, Option.none_or, crosses, exact, reached_snoc]
        cases capped : capOf (own ++ [sample]) with
        | none => rfl
        | some cap =>
            have ahead := unreached earlier cap capped
            rw [crossing, Option.bind_some, Option.bind_some, counted, earlier]
            dsimp only
            rw [ahead]
            rfl
  have single : (firstReach capOf own).isSome → reach = none := by
    intro earlier
    rw [crosses, crossing]
    cases capOf (own ++ [sample]) with
    | none => rfl
    | some cap =>
        rw [Option.bind_some, counted]
        dsimp only
        rw [earlier]
        rfl
  constructor
  · rw [if_neg (List.append_ne_nil_of_right_ne_nil _ (List.cons_ne_nil _ _)),
      counted_charged fits safe]
    rw [first, Option.isSome_or]
  · rw [accounts.reaches_eq, first]
    cases earlier : firstReach capOf own with
    | none => rfl
    | some _ =>
        rw [single (Option.isSome_of_eq_some earlier)]
        rfl

end Accounts

end Adjudicate.Budget
