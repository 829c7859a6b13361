/-
This file models the conversion of data values to numbers.
-/

import Adjudicate.Js.Comparison
import Adjudicate.Js.Conversion

namespace Adjudicate.Js

/-- These are the code units of `\s`. -/
def isWhiteSpace (unit : CodeUnit) : Bool :=
  (0x09 ≤ unit && unit ≤ 0x0D) || unit = 0x20 || unit = 0xA0 || unit = 0x1680 ||
    (0x2000 ≤ unit && unit ≤ 0x200A) || unit = 0x2028 || unit = 0x2029 || unit = 0x202F ||
    unit = 0x205F || unit = 0x3000 || unit = 0xFEFF

/-- This is the value of a digit or of a letter as a digit. -/
def digitOf (unit : CodeUnit) : Option Nat :=
  if isDigit unit then some (unit.val - 0x30)
  else if 0x61 ≤ unit.val ∧ unit.val ≤ 0x7A then some (unit.val - 0x57)
  else if 0x41 ≤ unit.val ∧ unit.val ≤ 0x5A then some (unit.val - 0x37)
  else none

def radixValue (radix : Nat) (digits : JsString) : Option Nat :=
  if digits = [] then none
  else digits.foldlM (fun value unit => do
    let digit ← digitOf unit
    if digit < radix then some (value * radix + digit) else none) 0

/-- This is an unsigned decimal literal, where one side of the point may be empty. -/
def decimalValue (text : JsString) : Option ℚ := do
  let integer := text.takeWhile isDigit
  let (fraction, afterFraction) :=
    match text.dropWhile isDigit with
    | 0x2E :: rest => (rest.takeWhile isDigit, rest.dropWhile isDigit)
    | rest => ([], rest)
  guard (integer ++ fraction ≠ [])
  let (exponent, rest) ← scanExponent afterFraction
  guard (rest = [])
  return digitsValue (integer ++ fraction) * 10 ^ (exponent - fraction.length)

def signedNumber (text : JsString) : Option JsNumber :=
  let (negative, literal) := scanSign text
  if literal = utf16 "Infinity" then some (.infinity negative)
  else (decimalValue literal).map (JsNumber.ofRat negative)

/-- This is `StringToNumber`. A text that is no literal is not a number. -/
def stringToNumber (text : JsString) : JsNumber :=
  let literal := (text.dropWhile isWhiteSpace).rdropWhile isWhiteSpace
  let parsed :=
    match literal with
    | [] => some 0
    | 0x30 :: 0x78 :: digits => (radixValue 16 digits).map JsNumber.ofNat
    | 0x30 :: 0x58 :: digits => (radixValue 16 digits).map JsNumber.ofNat
    | 0x30 :: 0x6F :: digits => (radixValue 8 digits).map JsNumber.ofNat
    | 0x30 :: 0x4F :: digits => (radixValue 8 digits).map JsNumber.ofNat
    | 0x30 :: 0x62 :: digits => (radixValue 2 digits).map JsNumber.ofNat
    | 0x30 :: 0x42 :: digits => (radixValue 2 digits).map JsNumber.ofNat
    | literal => signedNumber literal
  parsed.getD .nan

/-- This is `ToNumber`. An array or an object is converted through its text. -/
def JsValue.toNumber : JsValue → Except Thrown JsNumber
  | .undefined => .ok .nan
  | .null => .ok 0
  | .bool true => .ok 1
  | .bool false => .ok 0
  | .num number => .ok number
  | .str text => .ok (stringToNumber text)
  | value => do return stringToNumber (← value.toText)

/-- This is `Number.isInteger` on numbers. -/
def isInteger : JsNumber → Bool
  | .finite _ magnitude => magnitude.value.den = 1
  | _ => false

/-- This is `Number.prototype.toFixed`; of two nearest decimals it takes the larger. -/
def JsNumber.toFixed (fractionDigits : Nat) : JsNumber → JsString
  | .nan => "NaN"
  | .infinity negative => (JsNumber.infinity negative).toString
  | .finite negative magnitude =>
      if 10 ^ 21 ≤ magnitude.value then (JsNumber.finite negative magnitude).toString
      else
        let scaled := digitsText ⌊magnitude.value * 10 ^ fractionDigits + 1 / 2⌋₊
        let digits := zeros (fractionDigits + 1 - scaled.length) ++ scaled
        let integer := digits.take (digits.length - fractionDigits)
        (if negative ∧ magnitude.significand ≠ 0 then [0x2D] else []) ++ integer ++
          (if fractionDigits = 0 then [] else 0x2E :: digits.drop (digits.length - fractionDigits))

/-- This is the operator `??`. -/
def JsValue.orElse (value fallback : JsValue) : JsValue :=
  match value with
  | .undefined => fallback
  | .null => fallback
  | value => value

/-- This is `ToBoolean`. -/
def JsValue.truthy : JsValue → Bool
  | .undefined => false
  | .null => false
  | .bool value => value
  | .num number => number ≠ .nan && !number.equals 0
  | .str text => text ≠ []
  | _ => true

def isText (value : JsValue) (text : JsString) : Bool :=
  match value with
  | .str other => other = text
  | _ => false

theorem isText_iff {value : JsValue} {text : JsString} : isText value text = true ↔ value = .str text := by
  cases value with
  | str other =>
      rw [isText, decide_eq_true_iff]
      exact JsValue.str.injEq other text ▸ Iff.rfl
  | _ => exact ⟨nofun, nofun⟩

example : stringToNumber " -1.5e3 " = JsNumber.ofRat true 1500 := by decide +kernel

example : (JsNumber.ofRat false (6005 / 1000)).toFixed 2 = utf16 "6.00" := by decide +kernel

end Adjudicate.Js
