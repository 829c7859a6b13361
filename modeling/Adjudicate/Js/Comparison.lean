/-
This file orders the numbers on the extended line and adds them.
-/

import Adjudicate.Js.Number
import Mathlib.Order.WithBot

namespace Adjudicate.Js

namespace JsNumber

/-- Every number but NaN lies on the extended rational line. -/
def position : JsNumber → Option (WithBot (WithTop ℚ))
  | .nan => none
  | .infinity true => some ⊥
  | .infinity false => some (⊤ : WithTop ℚ)
  | .finite negative magnitude => some ((signedValue negative magnitude : ℚ) : WithTop ℚ)

/-- This is the `<=` on numbers, which NaN never satisfies. -/
def atMost (left right : JsNumber) : Bool :=
  match left.position, right.position with
  | some first, some second => decide (first ≤ second)
  | _, _ => false

/-- This is the `<` on numbers. -/
def below (left right : JsNumber) : Bool :=
  match left.position, right.position with
  | some first, some second => decide (first < second)
  | _, _ => false

/-- This is the `===` on numbers, where NaN differs from itself and the zeros are equal. -/
def equals (left right : JsNumber) : Bool := left.atMost right && right.atMost left

def negate : JsNumber → JsNumber
  | .nan => .nan
  | .infinity negative => .infinity (!negative)
  | .finite negative magnitude => .finite (!negative) magnitude

/-- This is the `+` on numbers, a subtraction of the negated number. -/
def add (left right : JsNumber) : JsNumber := left.sub right.negate

/-- This is the `/` on numbers. -/
def div : JsNumber → JsNumber → JsNumber
  | .nan, _ => .nan
  | _, .nan => .nan
  | .infinity _, .infinity _ => .nan
  | .infinity left, .finite right _ => .infinity (left != right)
  | .finite left _, .infinity right => .finite (left != right) .zero
  | .finite left dividend, .finite right divisor =>
      if divisor.significand = 0 then
        if dividend.significand = 0 then .nan else .infinity (left != right)
      else ofRat (left != right) (dividend.value / divisor.value)

/-- This is `Math.abs`. -/
def magnitude : JsNumber → JsNumber
  | .nan => .nan
  | .infinity _ => .infinity false
  | .finite _ magnitude => .finite false magnitude

theorem atMost_iff {left right : JsNumber} :
    left.atMost right = true ↔
      ∃ first second, left.position = some first ∧ right.position = some second ∧ first ≤ second := by
  unfold atMost
  split
  · rename_i first second leftAt rightAt
    simp [leftAt, rightAt]
  · rename_i missing
    refine iff_of_false (by simp) ?_
    intro ⟨first, second, leftAt, rightAt, _⟩
    exact missing first second leftAt rightAt

theorem below_iff {left right : JsNumber} :
    left.below right = true ↔
      ∃ first second, left.position = some first ∧ right.position = some second ∧ first < second := by
  unfold below
  split
  · rename_i first second leftAt rightAt
    simp [leftAt, rightAt]
  · rename_i missing
    refine iff_of_false (by simp) ?_
    intro ⟨first, second, leftAt, rightAt, _⟩
    exact missing first second leftAt rightAt

theorem atMost_trans {first second third : JsNumber} (lower : first.atMost second = true)
    (upper : second.atMost third = true) : first.atMost third = true := by
  obtain ⟨low, middle, firstAt, secondAt, below⟩ := atMost_iff.mp lower
  obtain ⟨other, high, sameAt, thirdAt, above⟩ := atMost_iff.mp upper
  obtain rfl : middle = other := Option.some.inj (secondAt.symm.trans sameAt)
  exact atMost_iff.mpr ⟨low, high, firstAt, thirdAt, below.trans above⟩

theorem atMost_of_below {left right : JsNumber} (below : left.below right = true) :
    left.atMost right = true := by
  obtain ⟨first, second, leftAt, rightAt, less⟩ := below_iff.mp below
  exact atMost_iff.mpr ⟨first, second, leftAt, rightAt, less.le⟩

/-- Two comparable numbers that are not in order are in the other order. -/
theorem atMost_of_not_below {left right : JsNumber} (leftNumber : left ≠ .nan)
    (rightNumber : right ≠ .nan) (unordered : left.below right = false) :
    right.atMost left = true := by
  have placed {number : JsNumber} (comparable : number ≠ .nan) :
      ∃ place, number.position = some place := by
    cases number with
    | nan => exact absurd rfl comparable
    | infinity negative => cases negative <;> exact ⟨_, rfl⟩
    | finite negative magnitude => exact ⟨_, rfl⟩
  obtain ⟨first, leftAt⟩ := placed leftNumber
  obtain ⟨second, rightAt⟩ := placed rightNumber
  refine atMost_iff.mpr ⟨second, first, rightAt, leftAt, ?_⟩
  rw [← not_lt]
  intro ordered
  rw [below_iff.mpr ⟨first, second, leftAt, rightAt, ordered⟩] at unordered
  cases unordered

/-- Two comparable numbers that are not in weak order are strictly in the other order. -/
theorem below_of_not_atMost {left right : JsNumber} (leftNumber : left ≠ .nan)
    (rightNumber : right ≠ .nan) (unordered : right.atMost left = false) :
    left.below right = true := by
  by_contra above
  rw [atMost_of_not_below leftNumber rightNumber (Bool.eq_false_of_not_eq_true above)] at unordered
  cases unordered

theorem atMost_self {number : JsNumber} (defined : number ≠ .nan) : number.atMost number = true := by
  by_contra above
  have below := below_of_not_atMost defined defined (Bool.eq_false_of_not_eq_true above)
  obtain ⟨first, second, here, there, less⟩ := below_iff.mp below
  rw [here] at there
  exact less.ne (Option.some.inj there)

theorem not_nan_of_atMost {left right : JsNumber} (ordered : left.atMost right = true) :
    left ≠ .nan ∧ right ≠ .nan := by
  obtain ⟨first, second, leftAt, rightAt, -⟩ := atMost_iff.mp ordered
  constructor
  · rintro rfl
    cases leftAt
  · rintro rfl
    cases rightAt

/-- A counter is above a bound that may be any number; a bound of NaN is never passed. -/
def passed (bound : JsNumber) (count : Nat) : Bool :=
  match bound.position with
  | some limit => decide (limit < (((count : ℚ) : WithTop ℚ) : WithBot (WithTop ℚ)))
  | none => false

/-- A smaller counter passes no bound that a larger one respects. -/
theorem passed_mono {bound : JsNumber} {small large : Nat} (smaller : small ≤ large)
    (respected : bound.passed large = false) : bound.passed small = false := by
  unfold passed at respected ⊢
  cases place : bound.position with
  | none => rfl
  | some limit =>
      rw [place] at respected
      simp only [decide_eq_false_iff_not, not_lt] at respected ⊢
      refine le_trans ?_ respected
      exact WithBot.coe_le_coe.mpr (WithTop.coe_le_coe.mpr (by exact_mod_cast smaller))

/-- A counter that may fall below zero is compared with a bound in the same way. -/
def surpassed (bound : JsNumber) (count : Int) : Bool :=
  match bound.position with
  | some limit => decide (limit < (((count : ℚ) : WithTop ℚ) : WithBot (WithTop ℚ)))
  | none => false

theorem surpassed_mono {bound : JsNumber} {small large : Int} (smaller : small ≤ large)
    (respected : bound.surpassed large = false) : bound.surpassed small = false := by
  unfold surpassed at respected ⊢
  cases place : bound.position with
  | none => rfl
  | some limit =>
      rw [place] at respected
      simp only [decide_eq_false_iff_not, not_lt] at respected ⊢
      refine le_trans ?_ respected
      exact WithBot.coe_le_coe.mpr (WithTop.coe_le_coe.mpr (by exact_mod_cast smaller))

end JsNumber

end Adjudicate.Js
