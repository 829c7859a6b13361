/-
This file shows that the rounding and the sums of numbers are monotone.
-/

import Adjudicate.Js.Comparison

namespace Adjudicate.Js

namespace Binary64

theorem le_roundHalfEven (q : ℚ) : ⌊q⌋₊ ≤ roundHalfEven q := by
  unfold roundHalfEven
  dsimp only
  split
  · exact le_rfl
  · split
    · omega
    · split <;> omega

theorem roundHalfEven_le (q : ℚ) : roundHalfEven q ≤ ⌊q⌋₊ + 1 := by
  unfold roundHalfEven
  dsimp only
  split
  · omega
  · split
    · exact le_rfl
    · split <;> omega

theorem roundHalfEven_mono {p q : ℚ} (ordered : p ≤ q) : roundHalfEven p ≤ roundHalfEven q := by
  have floors : ⌊p⌋₊ ≤ ⌊q⌋₊ := Nat.floor_mono ordered
  obtain less | same := lt_or_eq_of_le floors
  · calc roundHalfEven p ≤ ⌊p⌋₊ + 1 := roundHalfEven_le p
      _ ≤ ⌊q⌋₊ := less
      _ ≤ roundHalfEven q := le_roundHalfEven q
  · have floorsToo : (⌊p⌋₊ : ℚ) = ⌊q⌋₊ := by exact_mod_cast same
    by_cases low : p - (⌊p⌋₊ : ℚ) < 1 / 2
    · have down : roundHalfEven p = ⌊p⌋₊ := if_pos low
      rw [down, same]
      exact le_roundHalfEven q
    · by_cases high : 1 / 2 < q - (⌊q⌋₊ : ℚ)
      · have up : roundHalfEven q = ⌊q⌋₊ + 1 := by
          rw [roundHalfEven, if_neg (by linarith), if_pos high]
        rw [up, ← same]
        exact roundHalfEven_le p
      · -- Both fractions are one half.
        have equal : p = q := by linarith
        rw [equal]

def roundingExponent (q : ℚ) : Int := max (-1074) (Int.log 2 q - 52)

/-- This is the rounded value before an overflow is noticed. -/
def rounded (q : ℚ) : ℚ := roundHalfEven (q / 2 ^ roundingExponent q) * 2 ^ roundingExponent q

variable {p q : ℚ}

theorem power_pos (exponent : Int) : (0 : ℚ) < 2 ^ exponent := by positivity

theorem roundingExponent_mono (positive : 0 < p) (ordered : p ≤ q) :
    roundingExponent p ≤ roundingExponent q := by
  have logs : Int.log 2 p ≤ Int.log 2 q := Int.log_mono_right positive ordered
  rw [roundingExponent, roundingExponent]
  omega

/-- A value above the least exponent has a full significand. -/
theorem significand_large (positive : 0 < q) (normal : -1074 < roundingExponent q) :
    2 ^ 52 ≤ roundHalfEven (q / 2 ^ roundingExponent q) := by
  have exponent : roundingExponent q = Int.log 2 q - 52 := by
    rw [roundingExponent] at normal ⊢
    omega
  have lower : (2 : ℚ) ^ Int.log 2 q ≤ q := Int.zpow_log_le_self (by decide) positive
  have full : ((2 ^ 52 : Nat) : ℚ) ≤ q / 2 ^ roundingExponent q := by
    have power : ((2 ^ 52 : Nat) : ℚ) = 2 ^ (52 : Int) := by norm_num
    rw [le_div_iff₀ (power_pos _), exponent, power, ← zpow_add₀ (by norm_num), add_sub_cancel]
    exact lower
  calc 2 ^ 52 ≤ ⌊q / 2 ^ roundingExponent q⌋₊ := Nat.le_floor full
    _ ≤ _ := le_roundHalfEven _

theorem significand_le (positive : 0 < q) :
    roundHalfEven (q / 2 ^ roundingExponent q) ≤ 2 ^ 53 := by
  have upper : q < 2 ^ (Int.log 2 q + 1) := Int.lt_zpow_succ_log_self (by decide) q
  have bounded : q / 2 ^ roundingExponent q < ((2 ^ 53 : Nat) : ℚ) := by
    rw [div_lt_iff₀ (power_pos _)]
    calc q < 2 ^ (Int.log 2 q + 1) := upper
      _ ≤ 2 ^ (53 + roundingExponent q) := by
        apply zpow_le_zpow_right₀ (by norm_num)
        rw [roundingExponent]
        omega
      _ = ((2 ^ 53 : Nat) : ℚ) * 2 ^ roundingExponent q := by
        rw [zpow_add₀ (by norm_num)]
        norm_num
  have floor : ⌊q / 2 ^ roundingExponent q⌋₊ < 2 ^ 53 :=
    (Nat.floor_lt (by positivity)).mpr bounded
  exact (roundHalfEven_le _).trans floor

theorem rounded_mono (positive : 0 < p) (ordered : p ≤ q) : rounded p ≤ rounded q := by
  have positiveToo : 0 < q := positive.trans_le ordered
  obtain less | same := lt_or_eq_of_le (roundingExponent_mono positive ordered)
  · -- A larger exponent starts where a smaller one ends.
    have normal : -1074 < roundingExponent q := by
      have least : -1074 ≤ roundingExponent p := le_max_left _ _
      omega
    have below : (roundHalfEven (p / 2 ^ roundingExponent p) : ℚ) ≤ 2 ^ 53 := by
      exact_mod_cast significand_le positive
    have above : (2 : ℚ) ^ 52 ≤ roundHalfEven (q / 2 ^ roundingExponent q) := by
      exact_mod_cast significand_large positiveToo normal
    calc rounded p ≤ 2 ^ 53 * 2 ^ roundingExponent p := by
          rw [rounded]
          gcongr
      _ = 2 ^ 52 * 2 ^ (roundingExponent p + 1) := by
          rw [zpow_add₀ (by norm_num)]
          ring
      _ ≤ 2 ^ 52 * 2 ^ roundingExponent q := by
          gcongr
          · norm_num
          · omega
      _ ≤ rounded q := by
          rw [rounded]
          gcongr
  · rw [rounded, rounded, same]
    have quotients : p / 2 ^ roundingExponent q ≤ q / 2 ^ roundingExponent q := by gcongr
    have significands : (roundHalfEven (p / 2 ^ roundingExponent q) : ℚ) ≤
        roundHalfEven (q / 2 ^ roundingExponent q) := by
      exact_mod_cast roundHalfEven_mono quotients
    gcongr

/-- Below the overflow bound the rounding has the rounded value, and above it there is none. -/
theorem round_eq (positive : 0 < q) :
    (rounded q < 2 ^ (1024 : Int) ∧ ∃ x, round q = some x ∧ x.value = rounded q) ∨
      (2 ^ (1024 : Int) ≤ rounded q ∧ round q = none) := by
  have least : -1074 ≤ roundingExponent q := le_max_left _ _
  have overflow {exponent : Int} (large : 1024 ≤ exponent) :
      (2 : ℚ) ^ (1024 : Int) ≤ 2 ^ exponent := zpow_le_zpow_right₀ (by norm_num) large
  have fits {exponent : Int} (below : exponent < 1024) :
      (2 : ℚ) ^ exponent < 2 ^ (1024 : Int) := zpow_lt_zpow_right₀ (by norm_num) below
  obtain less | carries := lt_or_eq_of_le (significand_le positive)
  · have lessToo : (roundHalfEven (q / 2 ^ roundingExponent q) : ℚ) < 2 ^ (53 : Int) := by
      exact_mod_cast less
    have unfolded : round q =
        if canonical : CanonicalPair (roundHalfEven (q / 2 ^ roundingExponent q))
            (roundingExponent q) then some ⟨_, _, canonical⟩ else none := by
      rw [round, if_neg positive.ne']
      simp only [← roundingExponent.eq_1, if_neg less.ne]
    by_cases low : roundingExponent q ≤ 971
    · have canonical : CanonicalPair (roundHalfEven (q / 2 ^ roundingExponent q))
          (roundingExponent q) := by
        refine ⟨less, ?_⟩
        by_cases normal : -1074 < roundingExponent q
        · exact .inr ⟨significand_large positive normal, normal, low⟩
        · exact .inl (by omega)
      left
      rw [unfolded, dif_pos canonical]
      refine ⟨?_, _, rfl, rfl⟩
      calc rounded q < 2 ^ (53 : Int) * 2 ^ roundingExponent q :=
            mul_lt_mul_of_pos_right lessToo (power_pos _)
        _ = 2 ^ (53 + roundingExponent q) := (zpow_add₀ (by norm_num) _ _).symm
        _ ≤ 2 ^ (1024 : Int) := zpow_le_zpow_right₀ (by norm_num) (by omega)
    · have normal : -1074 < roundingExponent q := by omega
      have full : (2 : ℚ) ^ (52 : Int) ≤ roundHalfEven (q / 2 ^ roundingExponent q) := by
        exact_mod_cast significand_large positive normal
      right
      rw [unfolded, dif_neg]
      · refine ⟨?_, rfl⟩
        calc (2 : ℚ) ^ (1024 : Int) ≤ 2 ^ (52 + roundingExponent q) := overflow (by omega)
          _ = 2 ^ (52 : Int) * 2 ^ roundingExponent q := zpow_add₀ (by norm_num) _ _
          _ ≤ rounded q := mul_le_mul_of_nonneg_right full (power_pos _).le
      · rintro ⟨-, denormal | ⟨-, -, bounded⟩⟩ <;> omega
  · have value : rounded q = 2 ^ (53 + roundingExponent q) := by
      rw [rounded, carries, zpow_add₀ (by norm_num)]
      norm_num
    have unfolded : round q = if canonical : CanonicalPair (2 ^ 52) (roundingExponent q + 1) then
        some ⟨_, _, canonical⟩ else none := by
      rw [round, if_neg positive.ne']
      simp only [← roundingExponent.eq_1, if_pos carries]
    by_cases low : roundingExponent q + 1 ≤ 971
    · have canonical : CanonicalPair (2 ^ 52) (roundingExponent q + 1) :=
        ⟨by norm_num, .inr ⟨le_rfl, by omega, low⟩⟩
      left
      rw [unfolded, dif_pos canonical, value]
      refine ⟨fits (by omega), _, rfl, ?_⟩
      rw [Binary64.value, zpow_add₀ (by norm_num), zpow_add₀ (by norm_num)]
      norm_num
      ring
    · right
      rw [unfolded, dif_neg, value]
      · exact ⟨overflow (by omega), rfl⟩
      · rintro ⟨-, denormal | ⟨-, -, bounded⟩⟩ <;> omega

end Binary64

namespace JsNumber

/-- This is a point of the extended line. -/
def point (q : ℚ) : WithBot (WithTop ℚ) := ((q : WithTop ℚ) : WithBot (WithTop ℚ))

theorem point_le {p q : ℚ} : point p ≤ point q ↔ p ≤ q := by
  rw [point, point, WithBot.coe_le_coe, WithTop.coe_le_coe]

theorem point_inj {p q : ℚ} : point p = point q ↔ p = q := by
  rw [point, point, WithBot.coe_inj, WithTop.coe_inj]

/-- The number is finite, has the value and is not negative. -/
def CountsAs (number : JsNumber) (value : ℚ) : Prop := number.position = some (point value) ∧ 0 ≤ value

/-- The place of a rounded nonnegative value. -/
def placeOf (q : ℚ) : WithBot (WithTop ℚ) :=
  if Binary64.rounded q < 2 ^ (1024 : Int) then point (Binary64.rounded q) else (⊤ : WithTop ℚ)

theorem rounded_zero : Binary64.rounded 0 = 0 := by
  rw [Binary64.rounded, zero_div]
  have none : Binary64.roundHalfEven 0 = 0 := Binary64.roundHalfEven_natCast 0
  rw [none, Nat.cast_zero, zero_mul]

theorem placeOf_zero : placeOf 0 = point 0 := by
  rw [placeOf, rounded_zero, if_pos (by positivity)]

theorem rounded_nonneg (q : ℚ) : 0 ≤ Binary64.rounded q := by
  rw [Binary64.rounded]
  positivity

theorem placeOf_mono {p q : ℚ} (nonneg : 0 ≤ p) (ordered : p ≤ q) : placeOf p ≤ placeOf q := by
  have values : Binary64.rounded p ≤ Binary64.rounded q := by
    obtain rfl | positive := nonneg.eq_or_lt
    · rw [rounded_zero]
      exact rounded_nonneg q
    · exact Binary64.rounded_mono positive ordered
  unfold placeOf
  by_cases fits : Binary64.rounded q < 2 ^ (1024 : Int)
  · rw [if_pos fits, if_pos (values.trans_lt fits), point_le]
    exact values
  · rw [if_neg fits]
    split
    · exact WithBot.coe_le_coe.mpr le_top
    · exact le_rfl

theorem position_zero (negative : Bool) :
    (JsNumber.finite negative Binary64.zero).position = some (point 0) := by
  have value : signedValue negative Binary64.zero = 0 := by
    cases negative <;> simp [signedValue, Binary64.value, Binary64.zero]
  rw [position, value]
  rfl

theorem position_ofRat {q : ℚ} (nonneg : 0 ≤ q) : (ofRat false q).position = some (placeOf q) := by
  obtain rfl | positive := nonneg.eq_or_lt
  · rw [placeOf_zero, ofRat, Binary64.round, if_pos rfl]
    exact position_zero false
  · rw [ofRat, placeOf]
    obtain ⟨fits, x, rounds, value⟩ | ⟨large, overflows⟩ := Binary64.round_eq positive
    · rw [rounds, if_pos fits, ← value]
      rfl
    · rw [overflows, if_neg (not_lt.mpr large)]
      rfl

theorem CountsAs.shape {number : JsNumber} {value : ℚ} (counts : number.CountsAs value) :
    ∃ negative magnitude, number = .finite negative magnitude ∧
      signedValue negative magnitude = value := by
  obtain ⟨place, -⟩ := counts
  cases number with
  | nan => cases place
  | infinity negative =>
      cases negative with
      | true => cases Option.some.inj place
      | false => cases WithBot.coe_inj.mp (Option.some.inj place)
  | finite negative magnitude =>
      exact ⟨negative, magnitude, rfl, point_inj.mp (Option.some.inj place)⟩

/-- The sum of two counts is the rounded sum of their values. -/
theorem position_add {left right : JsNumber} {p q : ℚ} (leftCounts : left.CountsAs p)
    (rightCounts : right.CountsAs q) : (left.add right).position = some (placeOf (p + q)) := by
  obtain ⟨signLeft, leftMagnitude, rfl, rfl⟩ := leftCounts.shape
  obtain ⟨signRight, rightMagnitude, rfl, rfl⟩ := rightCounts.shape
  have negated : signedValue (!signRight) rightMagnitude =
      -signedValue signRight rightMagnitude := by
    cases signRight <;> simp [signedValue]
  have nonneg := add_nonneg leftCounts.2 rightCounts.2
  rw [add, negate, sub, negated, sub_neg_eq_add]
  split
  · next empty =>
      rw [empty, placeOf_zero, ofRat, Binary64.round, if_pos rfl]
      exact position_zero _
  · rw [decide_eq_false (not_lt.mpr nonneg), abs_of_nonneg nonneg]
    exact position_ofRat nonneg

theorem CountsAs.atMost_iff {left right : JsNumber} {p q : ℚ} (leftCounts : left.CountsAs p)
    (rightCounts : right.CountsAs q) : left.atMost right = true ↔ p ≤ q := by
  rw [JsNumber.atMost_iff, leftCounts.1, rightCounts.1]
  simp [point_le]

/-- Adding the same count keeps the order of two counts. -/
theorem add_mono {small large count : JsNumber} {p q r : ℚ} (smallCounts : small.CountsAs p)
    (largeCounts : large.CountsAs q) (counts : count.CountsAs r)
    (ordered : small.atMost large = true) :
    (small.add count).atMost (large.add count) = true := by
  rw [JsNumber.atMost_iff]
  refine ⟨_, _, position_add smallCounts counts, position_add largeCounts counts, ?_⟩
  apply placeOf_mono (add_nonneg smallCounts.2 counts.2)
  have values := (smallCounts.atMost_iff largeCounts).mp ordered
  linarith

theorem add_ne_nan {left right : JsNumber} {p q : ℚ} (leftCounts : left.CountsAs p)
    (rightCounts : right.CountsAs q) : left.add right ≠ .nan := by
  intro same
  have place := position_add leftCounts rightCounts
  rw [same] at place
  cases place

/-- A safe integer is a magnitude of its own. -/
theorem ofNat_finite {n : Nat} (safe : n < 2 ^ 53) :
    ∃ x : Binary64, ofNat n = .finite false x ∧ x.value = n := by
  obtain rfl | positive := n.eq_zero_or_pos
  · refine ⟨Binary64.zero, ?_, ?_⟩
    · rw [ofNat, ofRat, Nat.cast_zero, Binary64.round, if_pos rfl]
    · simp [Binary64.value, Binary64.zero]
  · obtain ⟨x, value⟩ := Binary64.exists_value_eq_natCast positive safe
    refine ⟨x, ?_, value⟩
    rw [ofNat, ofRat, ← value, x.round_value]

theorem countsAs_ofNat {n : Nat} (safe : n < 2 ^ 53) : (ofNat n).CountsAs n := by
  obtain ⟨x, same, value⟩ := ofNat_finite safe
  refine ⟨?_, n.cast_nonneg⟩
  rw [same, position, signedValue, if_neg Bool.false_ne_true, value]
  rfl

/-- The sum of two safe integers is rounded once. -/
theorem add_ofNat {m n : Nat} (left : m < 2 ^ 53) (right : n < 2 ^ 53) :
    (ofNat m).add (ofNat n) = ofNat (m + n) := by
  obtain ⟨x, first, firstValue⟩ := ofNat_finite left
  obtain ⟨y, second, secondValue⟩ := ofNat_finite right
  have nonneg : (0 : ℚ) ≤ m + n := by positivity
  rw [first, second, add, negate, sub]
  simp only [signedValue, Bool.not_false, Bool.false_eq_true, if_false, if_true, sub_neg_eq_add,
    firstValue, secondValue, Bool.false_and]
  rw [decide_eq_false (not_lt.mpr nonneg), abs_of_nonneg nonneg, ofNat, Nat.cast_add]
  split
  · next empty => rw [empty]
  · rfl

theorem ofNat_atMost_iff {m n : Nat} (left : m < 2 ^ 53) (right : n < 2 ^ 53) :
    (ofNat m).atMost (ofNat n) = true ↔ m ≤ n := by
  rw [(countsAs_ofNat left).atMost_iff (countsAs_ofNat right), Nat.cast_le]

theorem ofNat_ne_nan {n : Nat} (safe : n < 2 ^ 53) : ofNat n ≠ .nan := by
  obtain ⟨x, same, -⟩ := ofNat_finite safe
  rw [same]
  exact nofun

end JsNumber

end Adjudicate.Js
