/-
This file models JavaScript numbers as IEEE binary64 values with the ECMAScript rounding.
-/

import Adjudicate.Js.Text

namespace Adjudicate.Js

/-- The canonical pairs give each binary64 magnitude exactly one representation. -/
def CanonicalPair (significand : Nat) (exponent : Int) : Prop :=
  significand < 2 ^ 53 ∧
    (exponent = -1074 ∨ (2 ^ 52 ≤ significand ∧ -1074 < exponent ∧ exponent ≤ 971))

instance (significand : Nat) (exponent : Int) : Decidable (CanonicalPair significand exponent) :=
  inferInstanceAs (Decidable (_ ∧ _))

/-- A finite magnitude is `significand * 2 ^ exponent`. -/
structure Binary64 where
  significand : Nat
  exponent : Int
  canonical : CanonicalPair significand exponent
deriving DecidableEq

namespace Binary64

def zero : Binary64 := ⟨0, -1074, by decide⟩

def value (x : Binary64) : ℚ := x.significand * 2 ^ x.exponent

/-- Ties go to the even neighbour. -/
def roundHalfEven (q : ℚ) : Nat :=
  let floor := ⌊q⌋₊
  if q - floor < 1 / 2 then floor
  else if 1 / 2 < q - floor then floor + 1
  else if floor % 2 = 0 then floor else floor + 1

/-- This is the ECMAScript rounding of a nonnegative value; overflow gives no magnitude. -/
def round (q : ℚ) : Option Binary64 :=
  if q = 0 then some zero
  else
    let exponent : Int := max (-1074) (Int.log 2 q - 52)
    let significand := roundHalfEven (q / 2 ^ exponent)
    let carried := if significand = 2 ^ 53 then (2 ^ 52, exponent + 1) else (significand, exponent)
    if canonical : CanonicalPair carried.1 carried.2 then
      some ⟨carried.1, carried.2, canonical⟩
    else none

theorem roundHalfEven_natCast (n : Nat) : roundHalfEven n = n := by
  simp [roundHalfEven]

theorem value_pos (x : Binary64) (positive : 0 < x.significand) : 0 < x.value := by
  have cast : (0 : ℚ) < x.significand := by exact_mod_cast positive
  unfold value
  positivity

/-- The significand bounds determine the rounding exponent of an exact value. -/
theorem exponent_of_value (x : Binary64) (positive : 0 < x.significand) :
    max (-1074) (Int.log 2 x.value - 52) = x.exponent := by
  obtain ⟨below, shape⟩ := x.canonical
  have pos := x.value_pos positive
  have power : (0 : ℚ) < 2 ^ x.exponent := by positivity
  have upper : Int.log 2 x.value < 53 + x.exponent := by
    rw [← Int.lt_zpow_iff_log_lt (by decide) pos, Nat.cast_ofNat, zpow_add₀ (by norm_num), value]
    have cast : (x.significand : ℚ) < 2 ^ (53 : ℤ) := by exact_mod_cast below
    gcongr
  rcases shape with least | ⟨normal, above, _⟩
  · omega
  · have lower : 52 + x.exponent ≤ Int.log 2 x.value := by
      rw [← Int.zpow_le_iff_le_log (by decide) pos, Nat.cast_ofNat, zpow_add₀ (by norm_num), value]
      have cast : (2 : ℚ) ^ (52 : ℤ) ≤ x.significand := by exact_mod_cast normal
      gcongr
    omega

/-- A representable value is its own rounding. -/
theorem round_value (x : Binary64) : round x.value = some x := by
  by_cases positive : 0 < x.significand
  · have pos := x.value_pos positive
    have power : (2 : ℚ) ^ x.exponent ≠ 0 := by positivity
    have exact : x.value / 2 ^ x.exponent = x.significand := by
      rw [value, mul_div_assoc, div_self power, mul_one]
    have noCarry : x.significand ≠ 2 ^ 53 := by have := x.canonical.1; omega
    simp only [round, pos.ne', if_false, exponent_of_value x positive, exact,
      roundHalfEven_natCast, noCarry, x.canonical, dif_pos]
  · obtain ⟨significand, exponent, canonical⟩ := x
    have none : significand = 0 := by simpa using positive
    subst none
    have least : exponent = -1074 := by
      rcases canonical.2 with least | ⟨large, _⟩
      · exact least
      · omega
    subst least
    simp [round, value, zero]

end Binary64

/-- A decimal is `coefficient * 10 ^ exponent`. -/
structure Decimal where
  coefficient : Nat
  exponent : Int
deriving DecidableEq

namespace Decimal

def value (d : Decimal) : ℚ := d.coefficient * 10 ^ d.exponent

/-- A coefficient that rounds up to a power of ten has one digit. -/
def carry (d : Decimal) (digits : Nat) : Decimal :=
  if d.coefficient = 10 ^ digits then ⟨1, d.exponent + digits⟩ else d

theorem carry_value (d : Decimal) (digits : Nat) : (d.carry digits).value = d.value := by
  unfold carry
  split
  · next power =>
      simp only [value, power, Nat.cast_one, one_mul, Nat.cast_pow, Nat.cast_ofNat]
      rw [zpow_add₀ (by norm_num), zpow_natCast, mul_comm]
  · rfl

end Decimal

namespace Binary64

/-- Both neighbours with `digits` significant digits are tried, the closer one first. -/
def neighbours (x : Binary64) (digits : Nat) : List Decimal :=
  let exponent : Int := Int.log 10 x.value + 1 - digits
  let scaled := x.value / 10 ^ exponent
  let low := ⌊scaled⌋₊
  if roundHalfEven scaled = low then [⟨low, exponent⟩, ⟨low + 1, exponent⟩]
  else [⟨low + 1, exponent⟩, ⟨low, exponent⟩]

/-- A decimal reads back as the number. -/
def ReadsBack (x : Binary64) (d : Decimal) : Prop := round d.value = some x

instance (x : Binary64) (d : Decimal) : Decidable (x.ReadsBack d) :=
  inferInstanceAs (Decidable (_ = _))

def candidate (x : Binary64) (digits : Nat) : Option Decimal :=
  ((x.neighbours digits).find? fun d => decide (x.ReadsBack d)).map (·.carry digits)

/-- Every binary64 magnitude is a finite decimal. -/
def exactDecimal (x : Binary64) : Decimal :=
  if 0 ≤ x.exponent then ⟨x.significand * 2 ^ x.exponent.toNat, 0⟩
  else ⟨x.significand * 5 ^ (-x.exponent).toNat, x.exponent⟩

/-- The least digit count whose decimal reads back wins.
Seventeen digits suffice for binary64, so the exact expansion only makes the search total. -/
def shortest (x : Binary64) : Decimal :=
  ((List.range 17).findSome? fun index => x.candidate (index + 1)).getD x.exactDecimal

theorem exactDecimal_value (x : Binary64) : x.exactDecimal.value = x.value := by
  unfold exactDecimal Decimal.value value
  split
  · next nonneg =>
      obtain ⟨n, same⟩ := Int.eq_ofNat_of_zero_le nonneg
      simp [same]
  · next negative =>
      obtain ⟨n, same⟩ := Int.eq_ofNat_of_zero_le (show 0 ≤ -x.exponent by omega)
      have exponent : x.exponent = -(n : ℤ) := by omega
      have ten : (10 : ℚ) ^ n = 5 ^ n * 2 ^ n := by rw [← mul_pow]; norm_num
      have toNat : (-x.exponent).toNat = n := by omega
      rw [toNat, exponent]
      simp only [Nat.cast_mul, Nat.cast_pow, Nat.cast_ofNat, zpow_neg, zpow_natCast, ten]
      field_simp

/-- The printed decimal reads back as the number it prints. -/
theorem shortest_readsBack (x : Binary64) : x.ReadsBack x.shortest := by
  unfold shortest
  cases found : (List.range 17).findSome? fun index => x.candidate (index + 1) with
  | none => exact (congrArg round x.exactDecimal_value).trans x.round_value
  | some d =>
      obtain ⟨index, _, hit⟩ := List.exists_of_findSome?_eq_some found
      obtain ⟨neighbour, picked, rfl⟩ := Option.map_eq_some_iff.mp hit
      have reads : x.ReadsBack neighbour := by simpa using List.find?_some picked
      simpa only [Option.getD_some, ReadsBack, Decimal.carry_value] using reads

end Binary64

/-- A JavaScript number. -/
inductive JsNumber where
  | nan
  | infinity (negative : Bool)
  | finite (negative : Bool) (magnitude : Binary64)
deriving DecidableEq

namespace JsNumber

def isFinite : JsNumber → Bool
  | .finite _ _ => true
  | _ => false

/-- A signed decimal value becomes the nearest number, or an infinity on overflow. -/
def ofRat (negative : Bool) (magnitude : ℚ) : JsNumber :=
  match Binary64.round magnitude with
  | some rounded => .finite negative rounded
  | none => .infinity negative

def ofNat (n : Nat) : JsNumber := ofRat false n

def ofInt (n : Int) : JsNumber := ofRat (n < 0) n.natAbs

instance (n : Nat) : OfNat JsNumber n := ⟨ofNat n⟩

/-- This is the number after the sign of zero is forgotten, which `===` cannot see. -/
def unsigned : JsNumber → JsNumber
  | .finite _ ⟨0, exponent, canonical⟩ => .finite false ⟨0, exponent, canonical⟩
  | number => number

def signedValue (negative : Bool) (magnitude : Binary64) : ℚ :=
  if negative then -magnitude.value else magnitude.value

/-- This is the `-` on numbers; the difference of equal values is negative zero only for
negative zero minus zero. -/
def sub : JsNumber → JsNumber → JsNumber
  | .nan, _ => .nan
  | _, .nan => .nan
  | .infinity left, .infinity right => if left = right then .nan else .infinity left
  | .infinity left, .finite _ _ => .infinity left
  | .finite _ _, .infinity right => .infinity (!right)
  | .finite left minuend, .finite right subtrahend =>
      let difference := signedValue left minuend - signedValue right subtrahend
      if difference = 0 then ofRat (left && !right) 0 else ofRat (difference < 0) |difference|

theorem isFinite_unsigned (number : JsNumber) : number.unsigned.isFinite = number.isFinite := by
  cases number with
  | nan => rfl
  | infinity negative => rfl
  | finite negative magnitude =>
      obtain ⟨significand, exponent, canonical⟩ := magnitude
      cases significand <;> rfl

theorem unsigned_unsigned (number : JsNumber) : number.unsigned.unsigned = number.unsigned := by
  cases number with
  | nan => rfl
  | infinity negative => rfl
  | finite negative magnitude =>
      obtain ⟨significand, exponent, canonical⟩ := magnitude
      cases significand <;> rfl

end JsNumber

/-- A natural number below `2 ^ 53` is a magnitude of its own. -/
theorem Binary64.exists_value_eq_natCast {n : Nat} (positive : 0 < n) (small : n < 2 ^ 53) :
    ∃ x : Binary64, x.value = n := by
  have bits : Nat.log 2 n < 53 := Nat.log_lt_of_lt_pow positive.ne' small
  have lower : 2 ^ Nat.log 2 n ≤ n := Nat.pow_log_le_self 2 positive.ne'
  have upper : n < 2 ^ (Nat.log 2 n + 1) := Nat.lt_pow_succ_log_self (by decide) n
  have split : 2 ^ 52 = 2 ^ Nat.log 2 n * 2 ^ (52 - Nat.log 2 n) := by
    rw [← pow_add]
    congr 1
    omega
  have canonical : CanonicalPair (n * 2 ^ (52 - Nat.log 2 n)) (Nat.log 2 n - 52) := by
    constructor
    · calc n * 2 ^ (52 - Nat.log 2 n) < 2 ^ (Nat.log 2 n + 1) * 2 ^ (52 - Nat.log 2 n) := by gcongr
        _ = 2 ^ 53 := by
          rw [← pow_add]
          congr 1
          omega
    · right
      refine ⟨?_, by omega, by omega⟩
      rw [split]
      gcongr
  refine ⟨⟨_, _, canonical⟩, ?_⟩
  have exponent : ((Nat.log 2 n : Int) - 52) = -((52 - Nat.log 2 n : Nat) : Int) := by omega
  have nonzero : (2 : ℚ) ^ (52 - Nat.log 2 n) ≠ 0 := by positivity
  change ((n * 2 ^ (52 - Nat.log 2 n) : Nat) : ℚ) * 2 ^ ((Nat.log 2 n : Int) - 52) = n
  rw [exponent, zpow_neg, zpow_natCast]
  push_cast
  field_simp

theorem JsNumber.isFinite_ofNat {n : Nat} (small : n < 2 ^ 53) : (JsNumber.ofNat n).isFinite = true := by
  obtain rfl | positive := n.eq_zero_or_pos
  · rw [JsNumber.ofNat, JsNumber.ofRat, Nat.cast_zero, Binary64.round, if_pos rfl]
    rfl
  · obtain ⟨x, value⟩ := Binary64.exists_value_eq_natCast positive small
    rw [JsNumber.ofNat, JsNumber.ofRat, ← value, x.round_value]
    rfl

example : (Binary64.shortest <$> Binary64.round (1 / 10)) = some ⟨1, -1⟩ := by decide +kernel

end Adjudicate.Js
