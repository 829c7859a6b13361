/-
This file models the value equality that the claims runtime decides conflicts with.
-/

import Adjudicate.Js.Value
import Mathlib.Data.List.Forall2
import Mathlib.Data.List.Perm.Subperm

namespace Adjudicate.Claims

open Js

mutual

/-- Equal scalars are the same value; NaN equals itself and the zeros equal each other. -/
def sameValue : JsValue → JsValue → Bool
  | .undefined, .undefined => true
  | .null, .null => true
  | .bool left, .bool right => left == right
  | .num left, .num right => left.unsigned == right.unsigned
  | .str left, .str right => left == right
  | .arr left, .arr right => left.length == right.length && sameItems left right
  | .obj left, .obj right => left.length == right.length && sameProps left right
  | _, _ => false

def sameItems : List JsValue → List JsValue → Bool
  | left :: lefts, right :: rights => sameValue left right && sameItems lefts rights
  | _, _ => true

/-- Every own name of the left object is an own name of the right one with the same value. -/
def sameProps : Props JsValue → Props JsValue → Bool
  | [], _ => true
  | (key, value) :: rest, right =>
      (match right.lookup key with
        | some other => sameValue value other
        | none => false) && sameProps rest right

end

mutual

/-- The objects inside a value have distinct names, as every object of the language has. -/
def HasDistinctNames : JsValue → Prop
  | .arr items => ItemsHaveDistinctNames items
  | .obj props => (keys props).Nodup ∧ PropsHaveDistinctNames props
  | _ => True

def ItemsHaveDistinctNames : List JsValue → Prop
  | [] => True
  | item :: items => HasDistinctNames item ∧ ItemsHaveDistinctNames items

def PropsHaveDistinctNames : Props JsValue → Prop
  | [] => True
  | (_, value) :: props => HasDistinctNames value ∧ PropsHaveDistinctNames props

end

@[simp] theorem itemsHaveDistinctNames_iff (items : List JsValue) :
    ItemsHaveDistinctNames items ↔ ∀ item ∈ items, HasDistinctNames item := by
  induction items with
  | nil => simp [ItemsHaveDistinctNames]
  | cons item items ih => simp [ItemsHaveDistinctNames, ih]

@[simp] theorem propsHaveDistinctNames_iff (props : Props JsValue) :
    PropsHaveDistinctNames props ↔ ∀ property ∈ props, HasDistinctNames property.2 := by
  induction props with
  | nil => simp [PropsHaveDistinctNames]
  | cons property props ih => simp [PropsHaveDistinctNames, ih]

/-- Every JSON value has distinct names. -/
theorem hasDistinctNames_of_isJson (value : JsValue) :
    value.IsJson → HasDistinctNames value := by
  induction value with
  | arr items ih =>
      intro json
      simp only [JsValue.IsJson, isJsonItems_iff] at json
      simpa [HasDistinctNames] using fun item inside => ih item inside (json item inside)
  | obj props ih =>
      intro json
      simp only [JsValue.IsJson, isJsonProps_iff] at json
      simp only [HasDistinctNames, propsHaveDistinctNames_iff]
      refine ⟨json.1, ?_⟩
      intro property inside
      cases defined : property.2.isUndefined with
      | false => exact ih property inside (json.2 property inside defined)
      | true =>
          cases value : property.2 <;> simp_all [JsValue.isUndefined, HasDistinctNames]
  | _ => simp [HasDistinctNames]

theorem sameItems_iff {left right : List JsValue} :
    (left.length == right.length && sameItems left right) = true ↔
      List.Forall₂ (fun first second => sameValue first second = true) left right := by
  induction left generalizing right with
  | nil => cases right <;> simp [sameItems]
  | cons item items ih =>
      cases right with
      | nil => simp
      | cons other others =>
          rw [List.forall₂_cons, ← ih]
          simp only [sameItems, List.length_cons, Bool.and_eq_true, beq_iff_eq, Nat.add_right_cancel_iff]
          tauto

theorem sameProps_iff {left right : Props JsValue} :
    sameProps left right = true ↔
      ∀ property ∈ left, ∃ other, right.lookup property.1 = some other ∧
        sameValue property.2 other = true := by
  induction left with
  | nil => simp [sameProps]
  | cons property left ih =>
      obtain ⟨key, value⟩ := property
      rw [sameProps, Bool.and_eq_true, ih, List.forall_mem_cons]
      refine and_congr_left fun _ => ?_
      cases right.lookup key <;> simp

theorem sameValue_refl (value : JsValue) :
    HasDistinctNames value → sameValue value value = true := by
  induction value with
  | arr items ih =>
      intro distinct
      simp only [HasDistinctNames, itemsHaveDistinctNames_iff] at distinct
      rw [sameValue, sameItems_iff, List.forall₂_same]
      exact fun item inside => ih item inside (distinct item inside)
  | obj props ih =>
      intro distinct
      simp only [HasDistinctNames, propsHaveDistinctNames_iff] at distinct
      rw [sameValue, Bool.and_eq_true, sameProps_iff]
      refine ⟨by simp, ?_⟩
      intro property inside
      exact ⟨property.2, (lookup_eq_some distinct.1 _ _).mpr inside,
        ih property inside (distinct.2 property inside)⟩
  | _ => simp [sameValue]

/-- Turning every related pair around turns the related lists around. -/
theorem forall₂_turned {A B : Type} {R : A → B → Prop} {S : B → A → Prop} {left : List A}
    {right : List B} (all : List.Forall₂ R left right)
    (turned : ∀ first ∈ left, ∀ second ∈ right, R first second → S second first) :
    List.Forall₂ S right left := by
  induction all with
  | nil => exact .nil
  | cons head tail ih =>
      refine .cons (turned _ (by simp) _ (by simp) head) (ih ?_)
      intro first inLeft second inRight
      exact turned first (List.mem_cons_of_mem _ inLeft) second (List.mem_cons_of_mem _ inRight)

theorem forall₂_composed {A B C : Type} {R : A → B → Prop} {S : B → C → Prop} {T : A → C → Prop}
    {first : List A} {second : List B} {third : List C} (lower : List.Forall₂ R first second)
    (upper : List.Forall₂ S second third)
    (composed : ∀ low ∈ first, ∀ middle high, R low middle → S middle high → T low high) :
    List.Forall₂ T first third := by
  induction lower generalizing third with
  | nil =>
      cases upper
      exact .nil
  | cons head tail ih =>
      cases upper with
      | cons above rest =>
          refine .cons (composed _ (by simp) _ _ head above) (ih rest ?_)
          intro low inside
          exact composed low (List.mem_cons_of_mem _ inside)

/-- With distinct names on both sides, the right object has no further name. -/
theorem mem_keys_left {left right : Props JsValue} (leftDistinct : (keys left).Nodup)
    (sameLength : left.length = right.length) (same : sameProps left right = true)
    {key : JsString} (inRight : key ∈ keys right) : key ∈ keys left := by
  have included : keys left ⊆ keys right := by
    intro name inLeft
    obtain ⟨property, inside, rfl⟩ := List.mem_map.mp inLeft
    obtain ⟨other, found, -⟩ := sameProps_iff.mp same property inside
    by_contra missing
    rw [lookup_eq_none.mpr missing] at found
    cases found
  have every := (leftDistinct.subperm included).perm_of_length_le (by simp [keys, sameLength])
  exact every.mem_iff.mpr inRight

theorem sameValue_symm (left : JsValue) : ∀ right, HasDistinctNames left → HasDistinctNames right →
    sameValue left right = true → sameValue right left = true := by
  induction left with
  | arr items ih =>
      intro right leftNames rightNames same
      cases right <;> simp only [sameValue, Bool.false_eq_true] at same
      simp only [HasDistinctNames, itemsHaveDistinctNames_iff] at leftNames rightNames
      rw [sameValue, sameItems_iff]
      refine forall₂_turned (sameItems_iff.mp same) ?_
      intro first inLeft second inRight
      exact ih first inLeft second (leftNames first inLeft) (rightNames second inRight)
  | obj props ih =>
      intro right leftNames rightNames same
      cases right <;> simp only [sameValue, Bool.false_eq_true] at same
      rename_i others
      simp only [HasDistinctNames, propsHaveDistinctNames_iff] at leftNames rightNames
      obtain ⟨sameLength, same⟩ := (Bool.and_eq_true _ _).mp same
      rw [beq_iff_eq] at sameLength
      rw [sameValue, Bool.and_eq_true, beq_iff_eq, sameProps_iff]
      refine ⟨sameLength.symm, ?_⟩
      intro property inRight
      have known := mem_keys_left leftNames.1 sameLength same (mem_keys_of_mem inRight)
      obtain ⟨own, inLeft, sameName⟩ := List.mem_map.mp known
      obtain ⟨other, found, equal⟩ := sameProps_iff.mp same own inLeft
      rw [sameName, (lookup_eq_some rightNames.1 _ _).mpr inRight] at found
      obtain rfl := Option.some.inj found
      refine ⟨own.2, (lookup_eq_some leftNames.1 _ _).mpr (sameName ▸ inLeft), ?_⟩
      exact ih own inLeft property.2 (leftNames.2 own inLeft) (rightNames.2 property inRight) equal
  | _ =>
      intro right _ _ same
      cases right <;> simp_all [sameValue]

theorem sameValue_trans (first : JsValue) : ∀ second third,
    sameValue first second = true → sameValue second third = true →
      sameValue first third = true := by
  induction first with
  | arr items ih =>
      intro second third lower upper
      cases second <;> simp only [sameValue, Bool.false_eq_true] at lower
      cases third <;> simp only [sameValue, Bool.false_eq_true] at upper
      rw [sameValue, sameItems_iff]
      exact forall₂_composed (sameItems_iff.mp lower) (sameItems_iff.mp upper) ih
  | obj props ih =>
      intro second third lower upper
      cases second <;> simp only [sameValue, Bool.false_eq_true] at lower
      cases third <;> simp only [sameValue, Bool.false_eq_true] at upper
      rw [Bool.and_eq_true, beq_iff_eq, sameProps_iff] at lower upper
      rw [sameValue, Bool.and_eq_true, beq_iff_eq, sameProps_iff]
      refine ⟨lower.1.trans upper.1, ?_⟩
      intro property inside
      obtain ⟨middle, found, equal⟩ := lower.2 property inside
      obtain ⟨last, known, agrees⟩ := upper.2 _ (mem_of_lookup found)
      exact ⟨last, known, ih property inside middle last equal agrees⟩
  | _ =>
      intro second third lower upper
      cases second <;> cases third <;> simp_all [sameValue]

end Adjudicate.Claims
