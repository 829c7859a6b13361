/-
This file models the cumulative velocity guard and shows which requests it lets pass.
-/

import Adjudicate.Js.NumberText
import Adjudicate.Js.Rounding
import Adjudicate.Kernel.Policy

namespace Adjudicate.RateLimit

open Js Adjudicate.Core Adjudicate.Kernel

structure AggregateSnapshot where
  windows : Props JsNumber

structure VelocityHorizon where
  windowKey : JsString
  max : JsNumber

structure VelocityBreach where
  windowKey : JsString
  committed : JsNumber
  increment : JsNumber
  max : JsNumber
  projected : JsNumber

structure CumulativeVelocityGuardOptions (S : Type) where
  resolveSnapshot : IntentEnvelope → S → Except Thrown (Option AggregateSnapshot)
  horizons : List VelocityHorizon
  resolveIncrement : Option (IntentEnvelope → S → Except Thrown (Option JsNumber))
  onExceeded : Option (VelocityBreach → Except Thrown Decision)

def defaultVelocityExceeded (breach : VelocityBreach) : Decision :=
  .refuse
    (refuse .businessRule "cumulative_limit_exceeded"
      "This action exceeds an account limit. Please try again later."
      (some (utf16 "window=" ++ breach.windowKey ++ utf16 " projected=" ++
        breach.projected.toString ++ utf16 " max=" ++ breach.max.toString)))
    [basis .business "rule_violated"
      (some [("rule", .str "cumulative_limit_exceeded"), ("windowKey", .str breach.windowKey),
        ("committed", .num breach.committed), ("increment", .num breach.increment),
        ("projected", .num breach.projected), ("max", .num breach.max)])]

/-- A missing increment is one, and a malformed one is nothing. -/
def normalizeIncrement : Option JsNumber → JsNumber
  | none => 1
  | some raw => if !raw.isFinite || raw.below 0 then 0 else raw

/-- What `snapshot.windows[key] ?? 0` gives: a count, or a member of the prototype. -/
inductive WindowRead where
  | count (committed : JsNumber)
  | inherited

def AggregateSnapshot.read (snapshot : AggregateSnapshot) (windowKey : JsString) : WindowRead :=
  match snapshot.windows.lookup windowKey with
  | some committed => .count committed
  | none => if windowKey ∈ objectPrototypeNames then .inherited else .count 0

/-- A sum with an inherited member is a text that is not a number, so it exceeds no cap. -/
def breachOf (snapshot : AggregateSnapshot) (increment : JsNumber) (horizon : VelocityHorizon) :
    Option VelocityBreach :=
  match snapshot.read horizon.windowKey with
  | .inherited => none
  | .count committed =>
      let projected := committed.add increment
      if horizon.max.below projected then
        some { windowKey := horizon.windowKey, committed, increment, max := horizon.max, projected }
      else none

/-- The horizons are checked in the order in which they are declared. -/
def firstBreach (snapshot : AggregateSnapshot) (increment : JsNumber) :
    List VelocityHorizon → Option VelocityBreach
  | [] => none
  | horizon :: horizons =>
      match breachOf snapshot increment horizon with
      | some breach => some breach
      | none => firstBreach snapshot increment horizons

def CumulativeVelocityGuardOptions.increment {S : Type}
    (options : CumulativeVelocityGuardOptions S) (envelope : IntentEnvelope) (state : S) :
    Except Thrown (Option JsNumber) :=
  match options.resolveIncrement with
  | none => .ok none
  | some resolveIncrement => resolveIncrement envelope state

def CumulativeVelocityGuardOptions.exceeded {S : Type}
    (options : CumulativeVelocityGuardOptions S) (breach : VelocityBreach) :
    Except Thrown Decision :=
  match options.onExceeded with
  | none => .ok (defaultVelocityExceeded breach)
  | some onExceeded => onExceeded breach

def createCumulativeVelocityGuard {S : Type} (options : CumulativeVelocityGuardOptions S) :
    Guard S where
  metadataName := none
  functionName := []
  run envelope state := do
    match ← options.resolveSnapshot envelope state with
    | none => return none
    | some snapshot =>
        let increment := normalizeIncrement (← options.increment envelope state)
        match firstBreach snapshot increment options.horizons with
        | none => return none
        | some breach => return some (← options.exceeded breach)

/-- The own count of the window, or zero. -/
def AggregateSnapshot.committed (snapshot : AggregateSnapshot) (windowKey : JsString) : JsNumber :=
  (snapshot.windows.lookup windowKey).getD 0

/-- The projected count respects the cap of the horizon. -/
def Within (snapshot : AggregateSnapshot) (increment : JsNumber) (horizon : VelocityHorizon) : Prop :=
  ((snapshot.committed horizon.windowKey).add increment).atMost horizon.max = true

instance (snapshot : AggregateSnapshot) (increment : JsNumber) (horizon : VelocityHorizon) :
    Decidable (Within snapshot increment horizon) :=
  inferInstanceAs (Decidable (_ = true))

def IsCount (number : JsNumber) : Prop := number.isFinite = true ∧ (0 : JsNumber).atMost number = true

/-- The counts are finite and not negative, the caps are finite, and no horizon names an inherited
member. -/
structure Regular (snapshot : AggregateSnapshot) (horizons : List VelocityHorizon) : Prop where
  counts : ∀ windowKey committed, snapshot.windows.lookup windowKey = some committed →
    IsCount committed
  caps : ∀ horizon ∈ horizons, horizon.max.isFinite = true
  owned : ∀ horizon ∈ horizons, snapshot.windows.lookup horizon.windowKey = none →
    horizon.windowKey ∉ objectPrototypeNames

/-- Counts may grow, caps may shrink and horizons may be added. -/
structure Tightened (snapshot grown : AggregateSnapshot) (horizons more : List VelocityHorizon) :
    Prop where
  grows : ∀ windowKey, (snapshot.committed windowKey).atMost (grown.committed windowKey) = true
  keeps : ∀ horizon ∈ horizons, ∃ other ∈ more, other.windowKey = horizon.windowKey ∧
    other.max.atMost horizon.max = true

theorem position_ofNat_zero : (0 : JsNumber).position = some (JsNumber.point 0) := by
  have zero : (0 : JsNumber) = .finite false Binary64.zero := by decide
  rw [zero]
  exact JsNumber.position_zero false

theorem isCount_iff {number : JsNumber} : IsCount number ↔ ∃ value, number.CountsAs value := by
  rw [IsCount, JsNumber.atMost_iff, position_ofNat_zero]
  constructor
  · rintro ⟨finite, first, second, ⟨⟩, place, ordered⟩
    cases number with
    | nan => cases finite
    | infinity negative => cases finite
    | finite negative magnitude =>
        cases place
        exact ⟨_, rfl, JsNumber.point_le.mp ordered⟩
  · rintro ⟨value, place, nonneg⟩
    obtain ⟨negative, magnitude, rfl, -⟩ := JsNumber.CountsAs.shape ⟨place, nonneg⟩
    exact ⟨rfl, _, _, rfl, place, JsNumber.point_le.mpr nonneg⟩

theorem isCount_zero : IsCount 0 := by
  constructor <;> decide +kernel

theorem isCount_one : IsCount 1 := by
  constructor <;> decide +kernel

theorem isCount_normalizeIncrement (raw : Option JsNumber) : IsCount (normalizeIncrement raw) := by
  cases raw with
  | none => exact isCount_one
  | some raw =>
      rw [normalizeIncrement]
      split
      · exact isCount_zero
      · next sound =>
          simp only [Bool.or_eq_true, Bool.not_eq_true', not_or, Bool.not_eq_false,
            Bool.not_eq_true] at sound
          refine ⟨sound.1, JsNumber.atMost_of_not_below ?_ ?_ sound.2⟩
          · intro same
            rw [same] at sound
            cases sound.1
          · decide +kernel

section

variable {snapshot grown : AggregateSnapshot} {horizons more : List VelocityHorizon}
  {increment : JsNumber}

theorem Regular.committed (regular : Regular snapshot horizons) (windowKey : JsString) :
    IsCount (snapshot.committed windowKey) := by
  rw [AggregateSnapshot.committed]
  cases held : snapshot.windows.lookup windowKey with
  | none => exact isCount_zero
  | some committed => exact regular.counts windowKey committed held

theorem Regular.tail {horizon : VelocityHorizon} (regular : Regular snapshot (horizon :: horizons)) :
    Regular snapshot horizons where
  counts := regular.counts
  caps other inside := regular.caps other (List.mem_cons_of_mem _ inside)
  owned other inside := regular.owned other (List.mem_cons_of_mem _ inside)

theorem Regular.read (regular : Regular snapshot horizons) {horizon : VelocityHorizon}
    (inside : horizon ∈ horizons) :
    snapshot.read horizon.windowKey = .count (snapshot.committed horizon.windowKey) := by
  rw [AggregateSnapshot.read, AggregateSnapshot.committed]
  cases held : snapshot.windows.lookup horizon.windowKey with
  | none => exact if_neg (regular.owned horizon inside held)
  | some committed => rfl

/-- This is what the guard reports of a breaching horizon. -/
def reported (snapshot : AggregateSnapshot) (increment : JsNumber) (horizon : VelocityHorizon) :
    VelocityBreach where
  windowKey := horizon.windowKey
  committed := snapshot.committed horizon.windowKey
  increment := increment
  max := horizon.max
  projected := (snapshot.committed horizon.windowKey).add increment

theorem breachOf_eq (regular : Regular snapshot horizons) (counts : IsCount increment)
    {horizon : VelocityHorizon} (inside : horizon ∈ horizons) :
    breachOf snapshot increment horizon =
      if Within snapshot increment horizon then none
      else some (reported snapshot increment horizon) := by
  obtain ⟨p, committed⟩ := isCount_iff.mp (regular.committed horizon.windowKey)
  obtain ⟨q, added⟩ := isCount_iff.mp counts
  have number := JsNumber.add_ne_nan committed added
  have cap : horizon.max ≠ .nan := by
    intro same
    have finite := regular.caps horizon inside
    rw [same] at finite
    cases finite
  rw [breachOf, regular.read inside]
  dsimp only
  by_cases exceeds : horizon.max.below ((snapshot.committed horizon.windowKey).add increment) = true
  · have breaks : ¬Within snapshot increment horizon := by
      intro within
      obtain ⟨first, second, projected, limit, ordered⟩ := JsNumber.atMost_iff.mp within
      obtain ⟨low, high, limitToo, projectedToo, strict⟩ := JsNumber.below_iff.mp exceeds
      cases limit.symm.trans limitToo
      cases projected.symm.trans projectedToo
      exact absurd ordered (not_le.mpr strict)
    rw [if_pos exceeds, if_neg breaks]
    rfl
  · have within : Within snapshot increment horizon :=
      JsNumber.atMost_of_not_below cap number (Bool.not_eq_true _ ▸ exceeds)
    rw [if_neg exceeds, if_pos within]

theorem firstBreach_none_iff (regular : Regular snapshot horizons) (counts : IsCount increment) :
    firstBreach snapshot increment horizons = none ↔
      ∀ horizon ∈ horizons, Within snapshot increment horizon := by
  induction horizons with
  | nil => simp [firstBreach]
  | cons horizon horizons ih =>
      rw [firstBreach, breachOf_eq regular counts List.mem_cons_self, List.forall_mem_cons,
        ← ih regular.tail]
      by_cases within : Within snapshot increment horizon
      · rw [if_pos within, and_iff_right within]
      · rw [if_neg within]
        exact iff_of_false nofun fun both => within both.1

/-- The first horizon over its cap is the one that is reported. -/
theorem firstBreach_eq {passed rest : List VelocityHorizon} {horizon : VelocityHorizon}
    (regular : Regular snapshot (passed ++ horizon :: rest)) (counts : IsCount increment)
    (passing : ∀ other ∈ passed, Within snapshot increment other)
    (breaks : ¬Within snapshot increment horizon) :
    firstBreach snapshot increment (passed ++ horizon :: rest) =
      some (reported snapshot increment horizon) := by
  induction passed with
  | nil =>
      rw [List.nil_append] at regular ⊢
      rw [firstBreach, breachOf_eq regular counts List.mem_cons_self, if_neg breaks]
  | cons other passed ih =>
      obtain ⟨first, later⟩ := List.forall_mem_cons.mp passing
      rw [List.cons_append] at regular ⊢
      rw [firstBreach, breachOf_eq regular counts List.mem_cons_self, if_pos first]
      exact ih regular.tail later

/-- A breach survives every tightening. -/
theorem breaks_tightened (regular : Regular snapshot horizons) (regularToo : Regular grown more)
    (counts : IsCount increment) (tightened : Tightened snapshot grown horizons more)
    (breaks : ∃ horizon ∈ horizons, ¬Within snapshot increment horizon) :
    ∃ horizon ∈ more, ¬Within grown increment horizon := by
  obtain ⟨horizon, inside, breaks⟩ := breaks
  obtain ⟨other, kept, sameKey, lower⟩ := tightened.keeps horizon inside
  refine ⟨other, kept, fun within => breaks ?_⟩
  obtain ⟨p, committed⟩ := isCount_iff.mp (regular.committed horizon.windowKey)
  obtain ⟨q, grownCommitted⟩ := isCount_iff.mp (regularToo.committed horizon.windowKey)
  obtain ⟨r, added⟩ := isCount_iff.mp counts
  have grows := JsNumber.add_mono committed grownCommitted added
    (tightened.grows horizon.windowKey)
  rw [Within, sameKey] at within
  exact JsNumber.atMost_trans (JsNumber.atMost_trans grows within) lower

end

theorem createCumulativeVelocityGuard_run {S : Type} {options : CumulativeVelocityGuardOptions S}
    {envelope : IntentEnvelope} {state : S} {snapshot : AggregateSnapshot} {raw : Option JsNumber}
    (resolves : options.resolveSnapshot envelope state = .ok (some snapshot))
    (increments : options.increment envelope state = .ok raw) :
    (createCumulativeVelocityGuard options).run envelope state =
      match firstBreach snapshot (normalizeIncrement raw) options.horizons with
      | none => .ok none
      | some breach => (options.exceeded breach).map some := by
  show (do
    match ← options.resolveSnapshot envelope state with
    | none => return none
    | some snapshot =>
        let increment := normalizeIncrement (← options.increment envelope state)
        match firstBreach snapshot increment options.horizons with
        | none => return none
        | some breach => return some (← options.exceeded breach) : Except Thrown _) = _
  rw [resolves, ok_bind]
  dsimp only
  rw [increments, ok_bind]
  cases firstBreach snapshot (normalizeIncrement raw) options.horizons with
  | none => rfl
  | some breach => cases options.exceeded breach <;> rfl

/-- Over regular windows the guard stays silent exactly within every cap, it reports the first
horizon over its cap, and a breach survives every tightening. -/
theorem cumulativeVelocity_withinCaps {S : Type} (options : CumulativeVelocityGuardOptions S)
    (envelope : IntentEnvelope) (state : S) (snapshot : AggregateSnapshot) (raw : Option JsNumber)
    (resolves : options.resolveSnapshot envelope state = .ok (some snapshot))
    (increments : options.increment envelope state = .ok raw)
    (regular : Regular snapshot options.horizons) :
    ((createCumulativeVelocityGuard options).run envelope state = .ok none ↔
        ∀ horizon ∈ options.horizons, Within snapshot (normalizeIncrement raw) horizon) ∧
      (∀ passed horizon rest, options.horizons = passed ++ horizon :: rest →
        (∀ other ∈ passed, Within snapshot (normalizeIncrement raw) other) →
        ¬Within snapshot (normalizeIncrement raw) horizon →
        (createCumulativeVelocityGuard options).run envelope state =
          (options.exceeded (reported snapshot (normalizeIncrement raw) horizon)).map some) ∧
      ∀ grown more, Regular grown more → Tightened snapshot grown options.horizons more →
        (∃ horizon ∈ options.horizons, ¬Within snapshot (normalizeIncrement raw) horizon) →
        ∃ horizon ∈ more, ¬Within grown (normalizeIncrement raw) horizon := by
  have counts := isCount_normalizeIncrement raw
  have shape := createCumulativeVelocityGuard_run resolves increments
  refine ⟨?_, ?_, ?_⟩
  · rw [← firstBreach_none_iff regular counts, shape]
    cases firstBreach snapshot (normalizeIncrement raw) options.horizons with
    | none => exact iff_of_true rfl rfl
    | some breach =>
        refine iff_of_false ?_ (Option.some_ne_none breach)
        show (options.exceeded breach).map some ≠ .ok none
        cases options.exceeded breach <;> simp [Except.map]
  · intro passed horizon rest split passing breaks
    rw [split] at regular
    rw [shape, split, firstBreach_eq regular counts passing breaks]
  · intro grown more regularToo tightened breaks
    exact breaks_tightened regular regularToo counts tightened breaks

def accountSnapshot : AggregateSnapshot := ⟨[("acct|daily", 5)]⟩

/-- One daily cap and the increment that the resolver returns. -/
def accountOptions (windowKey : JsString) (max : JsNumber) (raw : JsNumber) :
    CumulativeVelocityGuardOptions Unit where
  resolveSnapshot _ _ := .ok (some accountSnapshot)
  horizons := [⟨windowKey, max⟩]
  resolveIncrement := some fun _ _ => .ok (some raw)
  onExceeded := none

theorem accountOptions_regular : Regular accountSnapshot [⟨utf16 "acct|daily", 5⟩] where
  counts windowKey committed held := by
    obtain ⟨-, same⟩ := Prod.mk.inj (List.mem_singleton.mp (mem_of_lookup held))
    rw [same]
    constructor <;> decide +kernel
  caps horizon inside := by
    rw [List.mem_singleton.mp inside]
    decide +kernel
  owned horizon inside missing := by
    rw [List.mem_singleton.mp inside]
    decide

def accountEnvelope : IntentEnvelope where
  toHashedFields := (samplePayment 1).hashedFields
  createdAt := "2026-01-01T00:00:00.000Z"
  intentHash := []

theorem cumulativeVelocity_withinCaps_account :
    (createCumulativeVelocityGuard (accountOptions "acct|daily" 5 1)).run accountEnvelope () =
        .ok none ↔
      ∀ horizon ∈ (accountOptions "acct|daily" 5 1).horizons,
        Within accountSnapshot (normalizeIncrement (some 1)) horizon :=
  (cumulativeVelocity_withinCaps (accountOptions "acct|daily" 5 1) accountEnvelope ()
    accountSnapshot (some 1) rfl rfl accountOptions_regular).1

/-- A call without a breach is silent. -/
theorem accountOptions_silent {windowKey : JsString} {max raw : JsNumber}
    (unbreached : (firstBreach accountSnapshot (normalizeIncrement (some raw))
      [⟨windowKey, max⟩]).isNone = true) :
    (createCumulativeVelocityGuard (accountOptions windowKey max raw)).run accountEnvelope () =
      .ok none := by
  have run := @createCumulativeVelocityGuard_run Unit (accountOptions windowKey max raw)
    accountEnvelope () accountSnapshot (some raw) rfl rfl
  have none : firstBreach accountSnapshot (normalizeIncrement (some raw))
      (accountOptions windowKey max raw).horizons = none := Option.isNone_iff_eq_none.mp unbreached
  rw [run, none]

/-- An increment of NaN counts as nothing, and an inherited name never breaches. -/
theorem malformedIncrement_passes :
    ((createCumulativeVelocityGuard (accountOptions "acct|daily" 5 .nan)).run accountEnvelope () =
        .ok none ∧
      ((5 : JsNumber).add 1).atMost 5 = false) ∧
    ((createCumulativeVelocityGuard (accountOptions "toString" 0 1)).run accountEnvelope () =
        .ok none ∧
      ((0 : JsNumber).add 1).atMost 0 = false) := by
  refine ⟨⟨accountOptions_silent ?_, ?_⟩, accountOptions_silent ?_, ?_⟩
  all_goals decide +kernel

end Adjudicate.RateLimit
