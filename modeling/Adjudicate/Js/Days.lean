/-
This file compares the texts of days with their calendar order.
-/

import Adjudicate.Js.NumberText
import Mathlib.Data.List.Lex
import Mathlib.Data.Prod.Lex

namespace Adjudicate.Js

/-- This is the `-` between the parts of a day. -/
def hyphen : CodeUnit := 0x2D

/-- The text has the form `YYYY-MM-DD`. -/
def IsDay (text : JsString) : Prop :=
  ∃ year month day : JsString, text = year ++ hyphen :: (month ++ hyphen :: day) ∧
    year.length = 4 ∧ month.length = 2 ∧ day.length = 2 ∧
    (∀ unit ∈ year, isDigit unit = true) ∧ (∀ unit ∈ month, isDigit unit = true) ∧
    ∀ unit ∈ day, isDigit unit = true

/-- This is the day that a `DATE` reads from its text, in the order of the calendar. -/
def dateOf (text : JsString) : ℕ ×ₗ ℕ ×ₗ ℕ :=
  toLex (digitsValue (text.take 4),
    toLex (digitsValue ((text.drop 5).take 2), digitsValue (text.drop 8)))

theorem append_lt_append_iff {left right : JsString} (same : left.length = right.length)
    (leftRest rightRest : JsString) :
    left ++ leftRest < right ++ rightRest ↔
      left < right ∨ left = right ∧ leftRest < rightRest := by
  induction left generalizing right with
  | nil =>
      obtain rfl := List.length_eq_zero_iff.mp same.symm
      simp
  | cons first left ih =>
      cases right with
      | nil => cases same
      | cons second right =>
          have tails : left.length = right.length := Nat.succ.inj same
          rw [List.cons_append, List.cons_append, List.cons_lt_cons_iff, List.cons_lt_cons_iff,
            ih tails]
          simp only [List.cons.injEq]
          tauto

theorem digitsValue_snoc (digits : JsString) (unit : CodeUnit) :
    digitsValue (digits ++ [unit]) = 10 * digitsValue digits + (unit.val - 0x30) := by
  simp [digitsValue]

/-- A digit is its code unit without the offset of zero. -/
theorem digit_sub {unit : CodeUnit} (digit : isDigit unit = true) :
    ∃ value < 10, unit.val = 0x30 + value := by
  rw [isDigit, Bool.and_eq_true, decide_eq_true_iff, decide_eq_true_iff] at digit
  exact ⟨unit.val - 0x30, by omega, by omega⟩

/-- Digits of one length are equal when their values are. -/
theorem digitsValue_inj {left right : JsString} (same : left.length = right.length)
    (leftDigits : ∀ unit ∈ left, isDigit unit = true)
    (rightDigits : ∀ unit ∈ right, isDigit unit = true)
    (values : digitsValue left = digitsValue right) : left = right := by
  induction left using List.reverseRecOn generalizing right with
  | nil => exact (List.length_eq_zero_iff.mp same.symm).symm
  | append_singleton left unit ih =>
      obtain rfl | ⟨right, other, rfl⟩ := List.eq_nil_or_concat' right
      · simp at same
      · rw [List.length_append, List.length_append, List.length_singleton, List.length_singleton,
          Nat.add_right_cancel_iff] at same
        rw [List.forall_mem_append, List.forall_mem_singleton] at leftDigits rightDigits
        obtain ⟨first, firstSmall, firstUnit⟩ := digit_sub leftDigits.2
        obtain ⟨second, secondSmall, secondUnit⟩ := digit_sub rightDigits.2
        rw [digitsValue_snoc, digitsValue_snoc] at values
        have lead := ih same leftDigits.1 rightDigits.1 (by omega)
        have last : unit = other := Fin.ext (by omega)
        rw [lead, last]

/-- Digits of one length are ordered as their values. -/
theorem digits_lt_iff {left right : JsString} (same : left.length = right.length)
    (leftDigits : ∀ unit ∈ left, isDigit unit = true)
    (rightDigits : ∀ unit ∈ right, isDigit unit = true) :
    left < right ↔ digitsValue left < digitsValue right := by
  induction left using List.reverseRecOn generalizing right with
  | nil =>
      obtain rfl := List.length_eq_zero_iff.mp same.symm
      simp
  | append_singleton left unit ih =>
      obtain rfl | ⟨right, other, rfl⟩ := List.eq_nil_or_concat' right
      · simp at same
      · rw [List.length_append, List.length_append, List.length_singleton, List.length_singleton,
          Nat.add_right_cancel_iff] at same
        rw [List.forall_mem_append, List.forall_mem_singleton] at leftDigits rightDigits
        obtain ⟨first, firstSmall, firstUnit⟩ := digit_sub leftDigits.2
        obtain ⟨second, secondSmall, secondUnit⟩ := digit_sub rightDigits.2
        have equal : left = right ↔ digitsValue left = digitsValue right :=
          ⟨congrArg digitsValue, digitsValue_inj same leftDigits.1 rightDigits.1⟩
        have last : [unit] < [other] ↔ first < second := by
          rw [List.cons_lt_cons_iff]
          simp only [List.lt_irrefl, and_false, or_false, Fin.lt_def]
          omega
        rw [append_lt_append_iff same, ih same leftDigits.1 rightDigits.1, equal, last,
          digitsValue_snoc, digitsValue_snoc, firstUnit, secondUnit]
        omega

/-- The texts of days compare as the days of the calendar do. -/
theorem isDay_le_iff {left right : JsString} (leftDay : IsDay left) (rightDay : IsDay right) :
    left ≤ right ↔ dateOf left ≤ dateOf right := by
  obtain ⟨year, month, day, rfl, years, months, days, yearDigits, monthDigits, dayDigits⟩ := leftDay
  obtain ⟨otherYear, otherMonth, otherDay, rfl, otherYears, otherMonths, otherDays,
    otherYearDigits, otherMonthDigits, otherDayDigits⟩ := rightDay
  have read {year month day : JsString} (years : year.length = 4) (months : month.length = 2) :
      dateOf (year ++ hyphen :: (month ++ hyphen :: day)) =
        toLex (digitsValue year, toLex (digitsValue month, digitsValue day)) := by
    have first : (year ++ hyphen :: (month ++ hyphen :: day)).take 4 = year :=
      years ▸ List.take_left
    have after : (year ++ hyphen :: (month ++ hyphen :: day)).drop 5 = month ++ hyphen :: day := by
      rw [List.append_cons]
      exact List.drop_left' (by rw [List.length_append, years]; rfl)
    have last : (year ++ hyphen :: (month ++ hyphen :: day)).drop 8 = day := by
      rw [show 8 = 5 + 3 from rfl, ← List.drop_drop, after, List.append_cons]
      exact List.drop_left' (by rw [List.length_append, months]; rfl)
    rw [dateOf, first, after, last, List.take_left' months]
  rw [read years months, read otherYears otherMonths, ← not_lt, ← not_lt, not_iff_not,
    Prod.Lex.toLex_lt_toLex, Prod.Lex.toLex_lt_toLex,
    append_lt_append_iff (otherYears.trans years.symm), List.cons_lt_cons_iff,
    append_lt_append_iff (otherMonths.trans months.symm), List.cons_lt_cons_iff,
    digits_lt_iff (otherYears.trans years.symm) otherYearDigits yearDigits,
    digits_lt_iff (otherMonths.trans months.symm) otherMonthDigits monthDigits,
    digits_lt_iff (otherDays.trans days.symm) otherDayDigits dayDigits]
  have sameYear : otherYear = year ↔ digitsValue otherYear = digitsValue year :=
    ⟨congrArg digitsValue, digitsValue_inj (otherYears.trans years.symm) otherYearDigits yearDigits⟩
  have sameMonth : otherMonth = month ↔ digitsValue otherMonth = digitsValue month :=
    ⟨congrArg digitsValue,
      digitsValue_inj (otherMonths.trans months.symm) otherMonthDigits monthDigits⟩
  rw [sameYear, sameMonth]
  simp only [lt_self_iff_false, true_and, false_or]

end Adjudicate.Js
