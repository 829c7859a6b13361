/-
This file develops the validation of JSON values against schemas.
-/

import Adjudicate.Js.Value

namespace Adjudicate.Js

/-- A length counts characters, and a surrogate pair is one of them. -/
def characterCount : JsString → Nat
  | [] => 0
  | [_] => 1
  | first :: second :: rest =>
      if isHighSurrogate first && isLowSurrogate second then characterCount rest + 1
      else characterCount (second :: rest) + 1

theorem one_le_characterCount {text : JsString} : 1 ≤ characterCount text ↔ text ≠ [] := by
  match text with
  | [] => simp [characterCount]
  | [_] => simp [characterCount]
  | first :: second :: rest =>
      rw [characterCount]
      split <;> simp

/-- An object schema gives a schema to each named property and one to all others. -/
inductive Schema where
  | any
  | never
  | const (number : JsNumber)
  | string (minLength : Nat) (pattern : Option (JsString → Bool))
  | enum (texts : List JsString)
  | object (required : List JsString) (properties : List (JsString × Schema)) (additional : Schema)

mutual

def Schema.validates : Schema → JsValue → Bool
  | .any, _ => true
  | .const number, .num other => decide (other = number)
  | .string minLength pattern, .str text =>
      decide (minLength ≤ characterCount text) && pattern.all (· text)
  | .enum texts, .str text => texts.contains text
  | .object required properties additional, .obj props =>
      required.all (keys props).contains &&
        props.all fun property =>
          validatesProperty properties additional.validates property.1 property.2
  | _, _ => false

/-- The first schema with the name of the property decides, or else the additional one. -/
def validatesProperty : List (JsString × Schema) → (JsValue → Bool) → JsString → JsValue → Bool
  | [], additional, _, value => additional value
  | (name, schema) :: rest, additional, key, value =>
      if key = name then schema.validates value else validatesProperty rest additional key value

end

section Object

variable {required : List JsString} {properties : List (JsString × Schema)} {additional : Schema}
  {props : Props JsValue}

theorem validatesProperty_of_mem (names : (properties.map Prod.fst).Nodup) {name : JsString}
    {schema : Schema} (member : (name, schema) ∈ properties) (rest : JsValue → Bool)
    (value : JsValue) : validatesProperty properties rest name value = schema.validates value := by
  induction properties with
  | nil => cases member
  | cons property properties ih =>
      obtain ⟨other, first⟩ := property
      obtain ⟨fresh, distinct⟩ := List.nodup_cons.mp names
      rw [validatesProperty]
      rcases List.mem_cons.mp member with same | inside
      · obtain ⟨rfl, rfl⟩ := Prod.mk.inj same
        rw [if_pos rfl]
      · have different : name ≠ other := by
          rintro rfl
          exact fresh (List.mem_map.mpr ⟨_, inside, rfl⟩)
        rw [if_neg different, ih distinct inside]

theorem validatesProperty_of_notMem {name : JsString} (absent : name ∉ properties.map Prod.fst)
    (rest : JsValue → Bool) (value : JsValue) :
    validatesProperty properties rest name value = rest value := by
  induction properties with
  | nil => rfl
  | cons property properties ih =>
      obtain ⟨other, first⟩ := property
      obtain ⟨different, later⟩ := not_or.mp (List.mem_cons.not.mp absent)
      rw [validatesProperty, if_neg different, ih later]

/-- A closed schema admits its own names only and checks each of them that is there. -/
theorem validates_closed (names : (properties.map Prod.fst).Nodup) (distinct : (keys props).Nodup) :
    (Schema.object required properties .never).validates (.obj props) = true ↔
      (∀ name ∈ required, name ∈ keys props) ∧
      (∀ name ∈ keys props, name ∈ properties.map Prod.fst) ∧
      ∀ property ∈ properties, ∀ value ∈ props.lookup property.1,
        property.2.validates value = true := by
  rw [Schema.validates, Bool.and_eq_true, List.all_eq_true, List.all_eq_true]
  simp only [List.contains_iff_mem]
  apply and_congr_right
  intro _
  constructor
  · intro checked
    constructor
    · intro name member
      obtain ⟨⟨key, value⟩, inside, rfl⟩ := List.mem_map.mp member
      by_contra absent
      have refused := checked _ inside
      rw [validatesProperty_of_notMem absent] at refused
      cases refused
    · rintro ⟨name, schema⟩ member value found
      have passed := checked _ ((lookup_eq_some distinct name value).mp found)
      rwa [validatesProperty_of_mem names member] at passed
  · rintro ⟨closed, checked⟩ ⟨name, value⟩ inside
    obtain ⟨⟨_, schema⟩, member, rfl⟩ := List.mem_map.mp (closed name (mem_keys_of_mem inside))
    rw [validatesProperty_of_mem names member]
    exact checked _ member value ((lookup_eq_some distinct _ value).mpr inside)

/-- Without named properties every value has the additional schema. -/
theorem validates_map : (Schema.object [] [] additional).validates (.obj props) = true ↔
    ∀ property ∈ props, additional.validates property.2 = true := by
  simp [Schema.validates, validatesProperty]

end Object

section Parsed

theorem defineAll_nodup {A : Type} (entries : Props A) : (keys (defineAll entries)).Nodup := by
  have kept (front back : Props A) (distinct : (keys front).Nodup) :
      (keys (back.foldl (fun props entry => setOwn props entry.1 entry.2) front)).Nodup := by
    induction back generalizing front with
    | nil => exact distinct
    | cons entry back ih => exact ih _ (setOwn_nodup distinct _ _)
  exact kept [] entries List.nodup_nil

theorem mem_setOwn {A : Type} {props : Props A} {key : JsString} {value : A}
    {property : JsString × A} (member : property ∈ setOwn props key value) :
    property ∈ props ∨ property.2 = value := by
  induction props with
  | nil => exact .inr (by rw [List.mem_singleton.mp member])
  | cons first rest ih =>
      obtain ⟨other, old⟩ := first
      rw [setOwn] at member
      split at member
      · rcases List.mem_cons.mp member with rfl | inside
        · exact .inr rfl
        · exact .inl (List.mem_cons_of_mem _ inside)
      · rcases List.mem_cons.mp member with rfl | inside
        · exact .inl List.mem_cons_self
        · exact (ih inside).imp_left (List.mem_cons_of_mem _)

/-- Defining properties makes up no value. -/
theorem mem_defineAll {A : Type} {entries : Props A} {property : JsString × A}
    (member : property ∈ defineAll entries) : ∃ entry ∈ entries, property.2 = entry.2 := by
  have source (front back : Props A)
      (member : property ∈ back.foldl (fun props entry => setOwn props entry.1 entry.2) front) :
      property ∈ front ∨ ∃ entry ∈ back, property.2 = entry.2 := by
    induction back generalizing front with
    | nil => exact .inl member
    | cons entry back ih =>
        rcases ih _ member with inside | ⟨later, inside, same⟩
        · rcases mem_setOwn inside with old | same
          · exact .inl old
          · exact .inr ⟨entry, List.mem_cons_self, same⟩
        · exact .inr ⟨later, List.mem_cons_of_mem _ inside, same⟩
  exact (source [] entries member).resolve_left List.not_mem_nil

theorem toValue_isDefined (tree : Json) : tree.toValue ≠ .undefined := by
  cases tree <;> nofun

/-- A parsed object has distinct names, and its values are parsed values. -/
theorem toValue_obj {tree : Json} {props : Props JsValue} (same : tree.toValue = .obj props) :
    (keys props).Nodup ∧ ∀ property ∈ props, ∃ inner : Json, property.2 = inner.toValue := by
  cases tree with
  | obj members =>
      cases same
      refine ⟨defineAll_nodup _, fun property member => ?_⟩
      obtain ⟨entry, inside, value⟩ := mem_defineAll member
      rw [toMembers_eq] at inside
      obtain ⟨source, -, rfl⟩ := List.mem_map.mp inside
      exact ⟨source.2, value⟩
  | _ => cases same

end Parsed

end Adjudicate.Js
