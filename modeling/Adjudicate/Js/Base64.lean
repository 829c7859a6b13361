/-
This file models the base64url text of bytes and its lenient reader.
-/

import Adjudicate.Js.Utf8

namespace Adjudicate.Js

/-- These are the digits of the alphabet for URLs. -/
def base64Digit (value : Nat) : CodeUnit :=
  if value < 26 then Fin.ofNat _ (0x41 + value)
  else if value < 52 then Fin.ofNat _ (0x61 + (value - 26))
  else if value < 62 then Fin.ofNat _ (0x30 + (value - 52))
  else if value = 62 then 0x2D
  else 0x5F

/-- The reader knows the digits of both alphabets. -/
def base64Value (unit : CodeUnit) : Option Nat :=
  if 0x41 ≤ unit.val ∧ unit.val ≤ 0x5A then some (unit.val - 0x41)
  else if 0x61 ≤ unit.val ∧ unit.val ≤ 0x7A then some (unit.val - 0x61 + 26)
  else if 0x30 ≤ unit.val ∧ unit.val ≤ 0x39 then some (unit.val - 0x30 + 52)
  else if unit.val = 0x2B ∨ unit.val = 0x2D then some 62
  else if unit.val = 0x2F ∨ unit.val = 0x5F then some 63
  else none

/-- The last group is not padded. -/
def base64Values : List Byte → List Nat
  | first :: second :: third :: rest =>
      (first.val / 4) :: (first.val % 4 * 16 + second.val / 16) ::
        (second.val % 16 * 4 + third.val / 64) :: (third.val % 64) :: base64Values rest
  | [first, second] =>
      [first.val / 4, first.val % 4 * 16 + second.val / 16, second.val % 16 * 4]
  | [first] => [first.val / 4, first.val % 4 * 16]
  | [] => []

/-- A single digit at the end is dropped. -/
def base64Groups : List Nat → List Byte
  | first :: second :: third :: fourth :: rest =>
      Fin.ofNat _ (first * 4 + second / 16) :: Fin.ofNat _ (second % 16 * 16 + third / 4) ::
        Fin.ofNat _ (third % 4 * 64 + fourth) :: base64Groups rest
  | [first, second, third] =>
      [Fin.ofNat _ (first * 4 + second / 16), Fin.ofNat _ (second % 16 * 16 + third / 4)]
  | [first, second] => [Fin.ofNat _ (first * 4 + second / 16)]
  | _ => []

/-- This is `buffer.toString("base64url")`. -/
def base64Text (bytes : List Byte) : JsString := (base64Values bytes).map base64Digit

/-- This is `Buffer.from(text, "base64url")`, which skips units outside of the alphabets. -/
def base64Bytes (text : JsString) : List Byte := base64Groups (text.filterMap base64Value)

theorem base64Value_base64Digit : ∀ value < 64, base64Value (base64Digit value) = some value := by
  decide

theorem base64Values_lt (bytes : List Byte) : ∀ value ∈ base64Values bytes, value < 64 := by
  fun_induction base64Values bytes with
  | case1 first second third rest ih =>
      have firstBound := first.isLt
      have secondBound := second.isLt
      simp only [List.forall_mem_cons]
      exact ⟨by omega, by omega, by omega, by omega, ih⟩
  | case2 first second =>
      have firstBound := first.isLt
      have secondBound := second.isLt
      simp only [List.forall_mem_cons]
      exact ⟨by omega, by omega, by omega, by simp⟩
  | case3 first =>
      have bound := first.isLt
      simp only [List.forall_mem_cons]
      exact ⟨by omega, by omega, by simp⟩
  | case4 => exact nofun

theorem base64Groups_values (bytes : List Byte) : base64Groups (base64Values bytes) = bytes := by
  fun_induction base64Values bytes with
  | case1 first second third rest ih =>
      have firstBound := first.isLt
      have secondBound := second.isLt
      have thirdBound := third.isLt
      rw [base64Groups, ih]
      simp only [List.cons.injEq, Fin.ext_iff, Fin.val_ofNat, and_true]
      omega
  | case2 first second =>
      have firstBound := first.isLt
      have secondBound := second.isLt
      simp only [base64Groups, List.cons.injEq, Fin.ext_iff, Fin.val_ofNat, and_true]
      omega
  | case3 first =>
      have bound := first.isLt
      simp only [base64Groups, List.cons.injEq, Fin.ext_iff, Fin.val_ofNat, and_true]
      omega
  | case4 => rfl

/-- The digits of bytes are read back as the bytes. -/
theorem base64Bytes_base64Text (bytes : List Byte) : base64Bytes (base64Text bytes) = bytes := by
  have digits : ∀ values : List Nat, (∀ value ∈ values, value < 64) →
      (values.map base64Digit).filterMap base64Value = values := by
    intro values
    induction values with
    | nil => exact fun _ => rfl
    | cons value values ih =>
        intro small
        obtain ⟨digit, others⟩ := List.forall_mem_cons.mp small
        rw [List.map_cons, List.filterMap_cons_some (base64Value_base64Digit value digit), ih others]
  rw [base64Bytes, base64Text, digits _ (base64Values_lt bytes), base64Groups_values]

end Adjudicate.Js
