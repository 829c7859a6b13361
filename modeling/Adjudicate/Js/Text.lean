/-
This file models JavaScript strings: UTF-16 code units, their order, and decimal digits.
-/

import Mathlib

namespace Adjudicate.Js

/-- A string element is one UTF-16 code unit. -/
abbrev CodeUnit := Fin 0x10000

instance neZero_codeUnits : NeZero (0x10000 : Nat) := ⟨by decide⟩

/-- A JavaScript string is any sequence of code units, so a surrogate may stand alone. -/
abbrev JsString := List CodeUnit

instance lawfulBEq_jsString : LawfulBEq JsString := inferInstance

def charUnits (char : Char) : JsString :=
  if char.toNat < 0x10000 then [Fin.ofNat _ char.toNat]
  else [Fin.ofNat _ (0xD800 + (char.toNat - 0x10000) / 0x400),
    Fin.ofNat _ (0xDC00 + (char.toNat - 0x10000) % 0x400)]

/-- A source literal denotes its UTF-16 encoding. -/
def utf16 (text : String) : JsString := text.toList.flatMap charUnits

instance : Coe String JsString := ⟨utf16⟩

def isHighSurrogate (unit : CodeUnit) : Bool := 0xD800 ≤ unit.val && unit.val < 0xDC00

def isLowSurrogate (unit : CodeUnit) : Bool := 0xDC00 ≤ unit.val && unit.val < 0xE000

def isSurrogate (unit : CodeUnit) : Bool := isHighSurrogate unit || isLowSurrogate unit

/-- This is `String.prototype.isWellFormed`: every surrogate belongs to a pair. -/
def isWellFormed : JsString → Bool
  | [] => true
  | [unit] => !isSurrogate unit
  | first :: second :: rest =>
      if isHighSurrogate first then isLowSurrogate second && isWellFormed rest
      else !isLowSurrogate first && isWellFormed (second :: rest)

theorem charToNat_lt (char : Char) : char.toNat < 0x110000 := by
  have valid := char.valid
  simp only [UInt32.isValidChar, Nat.isValidChar] at valid
  have same : char.toNat = char.val.toNat := rfl
  omega

theorem charToNat_notSurrogate (char : Char) :
    char.toNat < 0xD800 ∨ 0xE000 ≤ char.toNat := by
  have valid := char.valid
  simp only [UInt32.isValidChar, Nat.isValidChar] at valid
  have same : char.toNat = char.val.toNat := rfl
  omega

/-- The encoding of one character is a prefix code. -/
theorem charUnits_append_inj (left right : Char) (leftRest rightRest : JsString)
    (same : charUnits left ++ leftRest = charUnits right ++ rightRest) :
    left = right ∧ leftRest = rightRest := by
  have leftBound := charToNat_lt left
  have rightBound := charToNat_lt right
  have leftPlain := charToNat_notSurrogate left
  have rightPlain := charToNat_notSurrogate right
  have toChar : left.toNat = right.toNat → left = right := fun equal => Char.toNat_inj.mp equal
  unfold charUnits at same
  split at same <;> split at same <;>
    simp only [List.cons_append, List.nil_append, List.cons.injEq, Fin.ext_iff,
      Fin.val_ofNat] at same
  · exact ⟨toChar (by omega), same.2⟩
  · omega
  · omega
  · exact ⟨toChar (by omega), same.2.2⟩

theorem utf16_injective : Function.Injective utf16 := by
  intro left right same
  apply String.toList_injective
  unfold utf16 at same
  generalize left.toList = leftChars at same
  generalize right.toList = rightChars at same
  have nonempty (char : Char) : charUnits char ≠ [] := by unfold charUnits; split <;> simp
  induction leftChars generalizing rightChars with
  | nil =>
      cases rightChars with
      | nil => rfl
      | cons char rest => simp [nonempty] at same
  | cons char rest ih =>
      cases rightChars with
      | nil => simp [nonempty] at same
      | cons other others =>
          simp only [List.flatMap_cons] at same
          obtain ⟨rfl, tails⟩ := charUnits_append_inj _ _ _ _ same
          rw [ih _ tails]

/-- The characters of a literal are cheaper to run than the literal itself. -/
theorem utf16_ofList (chars : List Char) : utf16 (String.ofList chars) = chars.flatMap charUnits := by
  rw [utf16, String.toList_ofList]

/-- Two literals denote one string exactly when they are the same literal. -/
@[simp] theorem utf16_inj {left right : String} : utf16 left = utf16 right ↔ left = right :=
  utf16_injective.eq_iff

/-- Well-formed strings are closed under concatenation. -/
theorem isWellFormed_append (front back : JsString) (frontFormed : isWellFormed front = true)
    (backFormed : isWellFormed back = true) : isWellFormed (front ++ back) = true := by
  induction front using isWellFormed.induct with
  | case1 => exact backFormed
  | case2 unit =>
      simp only [isWellFormed, isSurrogate, Bool.not_or, Bool.and_eq_true] at frontFormed
      cases back <;> simp_all [isWellFormed, isSurrogate]
  | case3 first second rest high ih => simp_all [isWellFormed]
  | case4 first second rest low ih => simp_all [isWellFormed]

/-- The next unit does not continue a run. -/
def Stops (member : CodeUnit → Bool) (rest : JsString) : Prop :=
  ∀ unit ∈ rest.head?, member unit = false

theorem stops_cons {member : CodeUnit → Bool} {unit : CodeUnit} {rest : JsString}
    (stop : member unit = false) : Stops member (unit :: rest) := by
  simpa [Stops] using stop

/-- A scanner takes a whole run and leaves what stops it. -/
theorem run_append (member : CodeUnit → Bool) (run rest : JsString)
    (all : ∀ unit ∈ run, member unit = true) (stops : Stops member rest) :
    (run ++ rest).takeWhile member = run ∧ (run ++ rest).dropWhile member = rest := by
  induction run with
  | nil =>
      cases rest with
      | nil => simp
      | cons unit rest =>
          have stop : member unit = false := stops unit (by simp)
          simp [stop]
  | cons unit run ih =>
      have head : member unit = true := all unit (by simp)
      have tails := ih fun other inside => all other (by simp [inside])
      simp [head, tails]

end Adjudicate.Js
