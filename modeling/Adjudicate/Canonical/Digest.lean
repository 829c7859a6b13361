/-
This file treats SHA-256 as an injective map from UTF-8 texts to ASCII texts.
-/

import Adjudicate.Canonical.ContentAddress

namespace Adjudicate.Canonical

open Js

/-- The UTF-8 encoder writes this unit for a surrogate outside a pair. -/
def replacement : CodeUnit := ⟨0xFFFD, by decide⟩

def replaceLone (unit : CodeUnit) : CodeUnit := if isSurrogate unit then replacement else unit

/-- This is `String.prototype.toWellFormed`, which is what the UTF-8 encoder sees. -/
def toWellFormed : JsString → JsString
  | [] => []
  | [unit] => [replaceLone unit]
  | first :: second :: rest =>
      if isHighSurrogate first && isLowSurrogate second then first :: second :: toWellFormed rest
      else replaceLone first :: toWellFormed (second :: rest)

/-- Digests are ASCII texts, and texts with different UTF-8 forms have different digests. -/
structure Host.InjectiveDigest (host : Host) : Prop where
  ascii : ∀ text, (host.sha256Hex text).all isAscii = true
  injective : ∀ left right, host.sha256Hex left = host.sha256Hex right →
    toWellFormed left = toWellFormed right

theorem toWellFormed_of_isWellFormed {text : JsString} (formed : isWellFormed text = true) :
    toWellFormed text = text := by
  induction text using toWellFormed.induct with
  | case1 => rfl
  | case2 unit =>
      have plain : isSurrogate unit = false := by simpa [isWellFormed] using formed
      rw [toWellFormed, replaceLone, plain]
      rfl
  | case3 first second rest pair ih =>
      rw [Bool.and_eq_true] at pair
      rw [isWellFormed, pair.1, if_pos rfl, pair.2, Bool.true_and] at formed
      rw [toWellFormed, pair.1, pair.2, Bool.and_self, if_pos rfl, ih formed]
  | case4 first second rest lone ih =>
      rw [toWellFormed, if_neg lone]
      rw [isWellFormed] at formed
      cases high : isHighSurrogate first with
      | true =>
          rw [high, if_pos rfl, Bool.and_eq_true] at formed
          rw [high, formed.1] at lone
          exact (lone rfl).elim
      | false =>
          rw [high, if_neg Bool.false_ne_true, Bool.and_eq_true] at formed
          have plain : isSurrogate first = false := by
            rw [isSurrogate, high, Bool.false_or]
            simpa using formed.1
          rw [replaceLone, plain, ih formed.2]
          rfl

theorem not_isSurrogate_of_isAscii {unit : CodeUnit} (ascii : isAscii unit = true) :
    isSurrogate unit = false := by
  simp only [isAscii, decide_eq_true_eq] at ascii
  simp only [isSurrogate, isHighSurrogate, isLowSurrogate, Bool.or_eq_false_iff]
  constructor <;> simp <;> omega

/-- The encoder keeps an ASCII text in front of any other. -/
theorem toWellFormed_append {front : JsString} (ascii : front.all isAscii = true)
    (back : JsString) : toWellFormed (front ++ back) = front ++ toWellFormed back := by
  induction front with
  | nil => rfl
  | cons unit front ih =>
      obtain ⟨unitAscii, frontAscii⟩ := (Bool.and_eq_true _ _).mp (List.all_cons.symm.trans ascii)
      have plain := not_isSurrogate_of_isAscii unitAscii
      have high : isHighSurrogate unit = false := (Bool.or_eq_false_iff.mp plain).1
      have head (rest : JsString) : toWellFormed (unit :: rest) = unit :: toWellFormed rest := by
        cases rest with
        | nil => simp [toWellFormed, replaceLone, plain]
        | cons second rest => simp [toWellFormed, replaceLone, plain, high]
      rw [List.cons_append, head, ih frontAscii, List.cons_append]

theorem Host.InjectiveDigest.collisionFree {host : Host} (digest : host.InjectiveDigest) :
    host.CollisionFree := by
  intro left right leftFormed rightFormed same
  have forms := digest.injective left right same
  rwa [toWellFormed_of_isWellFormed leftFormed, toWellFormed_of_isWellFormed rightFormed] at forms

/-- Texts behind different digests of one length-independent form stay apart. -/
theorem Host.InjectiveDigest.prefix_injective {host : Host} (digest : host.InjectiveDigest)
    {left right back : JsString} (leftAscii : left.all isAscii = true)
    (rightAscii : right.all isAscii = true)
    (same : host.sha256Hex (left ++ back) = host.sha256Hex (right ++ back)) : left = right := by
  have forms := digest.injective _ _ same
  rw [toWellFormed_append leftAscii, toWellFormed_append rightAscii] at forms
  exact List.append_cancel_right forms

/-- Three ASCII units spell one code unit. -/
def asciiUnits (unit : CodeUnit) : JsString :=
  [Fin.ofNat _ (unit.val / 0x4000), Fin.ofNat _ (unit.val / 0x80 % 0x80),
    Fin.ofNat _ (unit.val % 0x80)]

def asciiForm (text : JsString) : JsString := text.flatMap asciiUnits

theorem asciiUnits_ascii (unit : CodeUnit) : (asciiUnits unit).all isAscii = true := by
  have bound := unit.isLt
  simp only [asciiUnits, List.all_cons, List.all_nil, isAscii, Fin.val_ofNat, Bool.and_true,
    Bool.and_eq_true, decide_eq_true_eq]
  omega

theorem asciiForm_ascii (text : JsString) : (asciiForm text).all isAscii = true := by
  rw [asciiForm, List.all_flatMap, List.all_eq_true]
  intro unit _
  exact asciiUnits_ascii unit

theorem asciiUnits_injective {left right : CodeUnit}
    (same : asciiUnits left = asciiUnits right) : left = right := by
  have leftBound := left.isLt
  have rightBound := right.isLt
  simp only [asciiUnits, List.cons.injEq, and_true, Fin.ext_iff, Fin.val_ofNat] at same
  rw [Fin.ext_iff]
  omega

theorem asciiForm_injective {left right : JsString} (same : asciiForm left = asciiForm right) :
    left = right := by
  induction left generalizing right with
  | nil =>
      cases right with
      | nil => rfl
      | cons unit right => cases same
  | cons unit left ih =>
      cases right with
      | nil => cases same
      | cons other right =>
          rw [asciiForm, List.flatMap_cons, asciiForm, List.flatMap_cons] at same
          obtain ⟨head, tail⟩ := List.append_inj same rfl
          rw [asciiUnits_injective head, ih tail]

theorem id_ascii (text : JsString) (_ : text.all isAscii) : id text = text := rfl

/-- The host of listed digests marks every other text with an ASCII form of it. -/
def Host.ofAsciiDigests (digests : Props JsString) : Host where
  nfc := id
  nfc_ascii := id_ascii
  sha256Hex text := (digests.lookup (toWellFormed text)).getD
    (utf16 "sha256:" ++ asciiForm (toWellFormed text))

/-- Listed ASCII digests that differ from each other and from every mark are injective. -/
theorem Host.ofAsciiDigests_injectiveDigest {digests : Props JsString}
    (texts : (keys digests).Nodup) (distinct : (digests.map Prod.snd).Nodup)
    (ascii : ∀ digest ∈ digests, digest.2.all isAscii = true)
    (unmarked : ∀ digest ∈ digests, ¬(utf16 "sha256:").isPrefixOf digest.2) :
    (Host.ofAsciiDigests digests).InjectiveDigest := by
  have listed {text digest : JsString} (found : digests.lookup text = some digest) :
      (text, digest) ∈ digests := (lookup_eq_some texts text digest).mp found
  have marked {text digest other : JsString} (found : digests.lookup text = some digest) :
      digest ≠ utf16 "sha256:" ++ other := by
    rintro rfl
    exact unmarked _ (listed found) (List.isPrefixOf_iff_prefix.mpr ⟨other, rfl⟩)
  constructor
  · intro text
    change ((digests.lookup (toWellFormed text)).getD _).all isAscii = true
    cases found : digests.lookup (toWellFormed text) with
    | some digest => exact ascii _ (listed found)
    | none =>
        rw [Option.getD_none, List.all_append, asciiForm_ascii, Bool.and_true]
        decide
  · intro left right same
    change (digests.lookup (toWellFormed left)).getD _ =
      (digests.lookup (toWellFormed right)).getD _ at same
    cases leftFound : digests.lookup (toWellFormed left) with
    | some digest =>
        cases rightFound : digests.lookup (toWellFormed right) with
        | some other =>
            rw [leftFound, rightFound] at same
            obtain rfl : digest = other := same
            have entry := List.inj_on_of_nodup_map distinct (listed leftFound) (listed rightFound) rfl
            exact congrArg Prod.fst entry
        | none =>
            rw [leftFound, rightFound] at same
            exact (marked leftFound same).elim
    | none =>
        cases rightFound : digests.lookup (toWellFormed right) with
        | some other =>
            rw [leftFound, rightFound] at same
            exact (marked rightFound same.symm).elim
        | none =>
            rw [leftFound, rightFound] at same
            exact asciiForm_injective (List.append_cancel_left same)

end Adjudicate.Canonical
