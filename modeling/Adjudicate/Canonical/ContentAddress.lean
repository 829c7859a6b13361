/-
This file decides which JSON values share a canonical text.
-/

import Adjudicate.Canonical.Canonicalize

namespace Adjudicate.Canonical

open Js

variable (host : Host)

/-- Values agree up to property order, undefined properties, the sign of zero and
normalization of strings. -/
inductive SameJson : JsValue → JsValue → Prop
  | undefined : SameJson .undefined .undefined
  | null : SameJson .null .null
  | bool (value : Bool) : SameJson (.bool value) (.bool value)
  | num {left right : JsNumber} (same : left.unsigned = right.unsigned) :
      SameJson (.num left) (.num right)
  | str {left right : JsString} (same : host.nfc left = host.nfc right) :
      SameJson (.str left) (.str right)
  | arr {left right : List JsValue} (sameLength : left.length = right.length)
      (sameItems : ∀ (index : Nat) (first second : JsValue), left[index]? = some first →
        right[index]? = some second → SameJson first second) :
      SameJson (.arr left) (.arr right)
  | obj {left right : Props JsValue}
      (sameProps : ∀ key, SameJson ((JsValue.obj left).getOwn key) ((JsValue.obj right).getOwn key)) :
      SameJson (.obj left) (.obj right)

mutual

/-- The value without the own properties named `__proto__` at any level. -/
def dropProto : JsValue → JsValue
  | .arr items => .arr (dropProtoItems items)
  | .obj props => .obj (deleteOwn (dropProtoProps props) protoKey)
  | value => value

def dropProtoItems : List JsValue → List JsValue
  | [] => []
  | item :: items => dropProto item :: dropProtoItems items

def dropProtoProps : Props JsValue → Props JsValue
  | [] => []
  | (key, value) :: props => (key, dropProto value) :: dropProtoProps props

end

/-- The values differ, but only in own properties named `__proto__`. -/
def DifferOnlyInProto (left right : JsValue) : Prop :=
  SameJson host (dropProto left) (dropProto right) ∧ ¬SameJson host left right

@[simp] theorem dropProtoItems_eq (items : List JsValue) :
    dropProtoItems items = items.map dropProto := by
  induction items with
  | nil => rfl
  | cons item items ih => rw [dropProtoItems, ih, List.map_cons]

@[simp] theorem dropProtoProps_eq (props : Props JsValue) :
    dropProtoProps props = mapValues dropProto props := by
  induction props with
  | nil => rfl
  | cons property props ih =>
      rw [dropProtoProps, ih]
      rfl

theorem getOwn_dropProto (props : Props JsValue) (key : JsString) :
    (dropProto (.obj props)).getOwn key =
      if key = protoKey then .undefined else dropProto ((JsValue.obj props).getOwn key) := by
  rw [dropProto, dropProtoProps_eq, JsValue.getOwn, JsValue.getOwn, lookup_deleteOwn,
    lookup_mapValues]
  split
  · rfl
  · cases props.lookup key <;> rfl

theorem sameJson_arr {left right : List JsValue} :
    SameJson host (.arr left) (.arr right) ↔ left.length = right.length ∧
      ∀ (index : Nat) (first second : JsValue), left[index]? = some first →
        right[index]? = some second → SameJson host first second := by
  constructor
  · intro same
    cases same with
    | arr sameLength sameItems => exact ⟨sameLength, sameItems⟩
  · rintro ⟨sameLength, sameItems⟩
    exact .arr sameLength sameItems

theorem sameJson_obj {left right : Props JsValue} :
    SameJson host (.obj left) (.obj right) ↔
      ∀ key, SameJson host ((JsValue.obj left).getOwn key) ((JsValue.obj right).getOwn key) := by
  constructor
  · intro same
    cases same with
    | obj sameProps => exact sameProps
  · exact .obj

/-- Objects agree without the prototype name when all their other properties agree. -/
theorem dropProto_obj_iff {left right : Props JsValue} :
    SameJson host (dropProto (.obj left)) (dropProto (.obj right)) ↔
      ∀ key, key ≠ protoKey → SameJson host (dropProto ((JsValue.obj left).getOwn key))
        (dropProto ((JsValue.obj right).getOwn key)) := by
  change SameJson host (.obj _) (.obj _) ↔ _
  rw [sameJson_obj]
  apply forall_congr'
  intro key
  change SameJson host ((dropProto (.obj left)).getOwn key) ((dropProto (.obj right)).getOwn key) ↔ _
  rw [getOwn_dropProto, getOwn_dropProto]
  split
  · next same => exact iff_of_true .undefined fun different => (different same).elim
  · next different => exact ⟨fun same _ => same, fun same => same different⟩

/-- An undefined value has no encoding of its own. -/
def encodingOf : JsValue → Option Json
  | .undefined => none
  | value => some (canonicalTree host value)

theorem encodingOf_defined {value : JsValue} (present : value.isUndefined = false) :
    encodingOf host value = some (canonicalTree host value) := by
  cases value with
  | undefined => cases present
  | _ => rfl

theorem isDefined_of_isJson {value : JsValue} (json : value.IsJson) :
    value.isUndefined = false := by
  cases value with
  | undefined => exact json.elim
  | _ => rfl

theorem lookup_layoutMembers {props : Props JsValue} (distinct : (keys props).Nodup)
    (key : JsString) :
    (layoutMembers host encoderLayout props).lookup key =
      encodingOf host ((JsValue.obj props).getOwn key) := by
  rw [layoutMembers_eq, lookup_mapValues, JsValue.getOwn]
  apply Option.ext
  intro tree
  rw [Option.map_eq_some_iff]
  cases found : props.lookup key with
  | none =>
      have absent : (definedProps props).lookup key = none := by
        rw [lookup_eq_none] at found ⊢
        exact fun present => found ((List.filter_sublist.map _).subset present)
      simp [absent, encodingOf]
  | some value =>
      simp only [lookup_eq_some (definedProps_nodup distinct), mem_definedProps,
        ← lookup_eq_some distinct, found, Option.some.injEq, Option.getD_some]
      cases present : value.isUndefined with
      | true => cases value <;> simp_all [JsValue.isUndefined, encodingOf]
      | false => simp [encodingOf_defined host present, present]

/-- Equal layouts mean equal lookups away from the prototype name. -/
theorem encoderLayout_eq_iff {left right : Props Json} (leftDistinct : (keys left).Nodup)
    (rightDistinct : (keys right).Nodup) :
    encoderLayout left = encoderLayout right ↔
      ∀ key, key ≠ protoKey → left.lookup key = right.lookup key := by
  have kept {members : Props Json} (distinct : (keys members).Nodup) :
      (keys (deleteOwn members protoKey)).Nodup :=
    distinct.sublist (List.filter_sublist.map _)
  constructor
  · intro same key different
    have found {members : Props Json} (distinct : (keys members).Nodup) :
        (encoderLayout members).lookup key = members.lookup key := by
      have perm := encoderLayout_perm members
      rw [lookup_perm perm ((keys_perm perm).nodup_iff.mpr (kept distinct)), lookup_deleteOwn,
        if_neg different]
    rw [← found leftDistinct, same, found rightDistinct]
  · intro same
    have perm : (deleteOwn left protoKey).Perm (deleteOwn right protoKey) := by
      apply perm_of_lookup (kept leftDistinct) (kept rightDistinct)
      intro key
      rw [lookup_deleteOwn, lookup_deleteOwn]
      split
      · rfl
      · next different => exact same key different
    have sorted : sortKeys (deleteOwn left protoKey) = sortKeys (deleteOwn right protoKey) :=
      sortKeys_congr perm (kept leftDistinct)
    rw [deleteOwn, ← sortKeys_filter, deleteOwn,
      ← sortKeys_filter] at sorted
    exact congrArg enumerate sorted

/-- Objects share their canonical tree exactly when their properties share their encodings away
from the prototype name. -/
theorem canonicalTree_obj_iff {left right : Props JsValue} (leftDistinct : (keys left).Nodup)
    (rightDistinct : (keys right).Nodup) :
    canonicalTree host (.obj left) = canonicalTree host (.obj right) ↔
      ∀ key, key ≠ protoKey → encodingOf host ((JsValue.obj left).getOwn key) =
        encodingOf host ((JsValue.obj right).getOwn key) := by
  rw [canonicalTree, layoutTree, layoutTree, Json.obj.injEq,
    encoderLayout_eq_iff (layoutMembers_nodup host _ leftDistinct)
      (layoutMembers_nodup host _ rightDistinct)]
  simp only [lookup_layoutMembers host leftDistinct, lookup_layoutMembers host rightDistinct]

theorem map_eq_map_iff {A B C : Type} (f : A → C) (g : B → C) (left : List A) (right : List B) :
    left.map f = right.map g ↔ left.length = right.length ∧
      ∀ (index : Nat) (first : A) (second : B), left[index]? = some first →
        right[index]? = some second → f first = g second := by
  constructor
  · intro same
    refine ⟨by simpa using congrArg List.length same, ?_⟩
    intro index first second firstAt secondAt
    have point := congrArg (fun items => items[index]?) same
    simpa [firstAt, secondAt] using point
  · rintro ⟨sameLength, sameItems⟩
    apply List.ext_getElem
    · simpa using sameLength
    · intro index firstBound secondBound
      rw [List.length_map] at firstBound secondBound
      rw [List.getElem_map, List.getElem_map]
      exact sameItems index _ _ (List.getElem?_eq_getElem firstBound)
        (List.getElem?_eq_getElem secondBound)

theorem encodingOf_undefined (right : JsValue) :
    encodingOf host .undefined = encodingOf host right ↔
      SameJson host .undefined (dropProto right) := by
  cases right with
  | undefined => exact iff_of_true rfl .undefined
  | _ => exact iff_of_false nofun nofun

theorem getOwn_isJson {props : Props JsValue} (json : (JsValue.obj props).IsJson)
    (key : JsString) (present : ((JsValue.obj props).getOwn key).isUndefined = false) :
    ((JsValue.obj props).getOwn key).IsJson := by
  rw [JsValue.IsJson, isJsonProps_iff] at json
  rw [JsValue.getOwn] at present ⊢
  cases found : props.lookup key with
  | none => simp [found, JsValue.isUndefined] at present
  | some value =>
      rw [found] at present
      exact json.2 _ ((lookup_eq_some json.1 key value).mp found) present

/-- Equal encodings mean equal values once the prototype names are dropped. -/
theorem encodingOf_eq_iff (left right : JsValue) (leftJson : left.isUndefined = false → left.IsJson)
    (rightJson : right.isUndefined = false → right.IsJson) :
    encodingOf host left = encodingOf host right ↔
      SameJson host (dropProto left) (dropProto right) := by
  induction left generalizing right with
  | undefined => exact encodingOf_undefined host right
  | null =>
      cases right with
      | null => exact iff_of_true rfl .null
      | _ => exact iff_of_false (by rintro ⟨⟩) (by rintro ⟨⟩)
  | bool value =>
      cases right with
      | bool other =>
          simp only [encodingOf, canonicalTree, layoutTree, dropProto, Option.some.injEq,
            Json.bool.injEq]
          constructor
          · rintro rfl
            exact .bool value
          · rintro ⟨⟩
            rfl
      | _ => exact iff_of_false (by rintro ⟨⟩) (by rintro ⟨⟩)
  | num number =>
      cases right with
      | num other =>
          simp only [encodingOf, canonicalTree, layoutTree, dropProto, Option.some.injEq,
            Json.num.injEq, toString_eq_iff (leftJson rfl) (rightJson rfl)]
          constructor
          · exact .num
          · rintro ⟨⟩
            assumption
      | _ => exact iff_of_false (by rintro ⟨⟩) (by rintro ⟨⟩)
  | str text =>
      cases right with
      | str other =>
          simp only [encodingOf, canonicalTree, layoutTree, dropProto, Option.some.injEq,
            Json.str.injEq]
          constructor
          · exact .str
          · rintro ⟨⟩
            assumption
      | _ => exact iff_of_false (by rintro ⟨⟩) (by rintro ⟨⟩)
  | arr items ih =>
      cases right with
      | arr others =>
          have leftItems := (isJsonItems_iff items).mp (leftJson rfl)
          have rightItems := (isJsonItems_iff others).mp (rightJson rfl)
          have pointwise {first second : JsValue} (firstIn : first ∈ items)
              (secondIn : second ∈ others) :
              canonicalTree host first = canonicalTree host second ↔
                SameJson host (dropProto first) (dropProto second) := by
            have firstJson := leftItems first firstIn
            have secondJson := rightItems second secondIn
            rw [← ih first firstIn second (fun _ => firstJson) (fun _ => secondJson),
              encodingOf_defined host (isDefined_of_isJson firstJson),
              encodingOf_defined host (isDefined_of_isJson secondJson), Option.some.injEq]
          simp only [encodingOf, canonicalTree, layoutTree, dropProto, layoutItems_eq,
            dropProtoItems_eq, Option.some.injEq, Json.arr.injEq, map_eq_map_iff, sameJson_arr,
            List.length_map]
          apply and_congr_right
          intro _
          simp only [List.getElem?_map, Option.map_eq_some_iff]
          constructor
          · rintro trees index _ _ ⟨first, firstAt, rfl⟩ ⟨second, secondAt, rfl⟩
            exact (pointwise (List.mem_of_getElem? firstAt) (List.mem_of_getElem? secondAt)).mp
              (trees index first second firstAt secondAt)
          · intro same index first second firstAt secondAt
            exact (pointwise (List.mem_of_getElem? firstAt) (List.mem_of_getElem? secondAt)).mpr
              (same index _ _ ⟨first, firstAt, rfl⟩ ⟨second, secondAt, rfl⟩)
      | _ => exact iff_of_false (by rintro ⟨⟩) (by rintro ⟨⟩)
  | obj props ih =>
      cases right with
      | obj others =>
          have leftObject := leftJson rfl
          have rightObject := rightJson rfl
          have pointwise (key : JsString) :
              encodingOf host ((JsValue.obj props).getOwn key) =
                  encodingOf host ((JsValue.obj others).getOwn key) ↔
                SameJson host (dropProto ((JsValue.obj props).getOwn key))
                  (dropProto ((JsValue.obj others).getOwn key)) := by
            have leftProperty := getOwn_isJson leftObject key
            have rightProperty := getOwn_isJson rightObject key
            rw [JsValue.getOwn] at leftProperty ⊢
            cases found : props.lookup key with
            | none => exact encodingOf_undefined host _
            | some value =>
                rw [found] at leftProperty
                exact ih (key, value) ((lookup_eq_some leftObject.1 key value).mp found) _
                  leftProperty rightProperty
          rw [dropProto_obj_iff, encodingOf_defined host rfl, encodingOf_defined host rfl,
            Option.some.injEq, canonicalTree_obj_iff host leftObject.1 rightObject.1]
          simp only [pointwise]
      | _ => exact iff_of_false (by rintro ⟨⟩) (by rintro ⟨⟩)

/-- JSON values share a canonical text exactly when they agree once `__proto__` is dropped. -/
theorem canonicalJson_eq_iff_sameJson {left right : JsValue} (leftJson : left.IsJson)
    (rightJson : right.IsJson) :
    canonicalJson host left = canonicalJson host right ↔
      SameJson host (dropProto left) (dropProto right) := by
  rw [canonicalJson_eq_iff host leftJson rightJson,
    ← encodingOf_eq_iff host left right (fun _ => leftJson) (fun _ => rightJson),
    encodingOf_defined host (isDefined_of_isJson leftJson),
    encodingOf_defined host (isDefined_of_isJson rightJson), Option.some.injEq]

/-- Equal canonical texts mean equal values except where only `__proto__` differs. -/
theorem sameJson_of_canonicalJson_iff {left right : JsValue} (leftJson : left.IsJson)
    (rightJson : right.IsJson) :
    (canonicalJson host left = canonicalJson host right → SameJson host left right) ↔
      ¬DifferOnlyInProto host left right := by
  rw [canonicalJson_eq_iff_sameJson host leftJson rightJson, DifferOnlyInProto, not_and_not_right]

theorem sha256Canonical_eq {value : JsValue} (json : value.IsJson) :
    sha256Canonical host value = .ok (host.sha256Hex (canonicalTree host value).print) := by
  rw [sha256Canonical, canonicalJson_eq host json]
  rfl

/-- Without collisions, equal hashes of JSON values mean equal canonical texts. -/
theorem sha256Canonical_eq_iff {host : Host} (free : host.CollisionFree) {left right : JsValue}
    (leftJson : left.IsJson) (rightJson : right.IsJson) :
    sha256Canonical host left = sha256Canonical host right ↔
      canonicalJson host left = canonicalJson host right := by
  constructor
  · intro same
    rw [sha256Canonical_eq host leftJson, sha256Canonical_eq host rightJson,
      Except.ok.injEq] at same
    have texts := free _ _ (print_isWellFormed _ (canonicalTree_valid host leftJson))
      (print_isWellFormed _ (canonicalTree_valid host rightJson)) same
    rw [canonicalJson_eq host leftJson, canonicalJson_eq host rightJson, texts]
  · intro same
    rw [sha256Canonical, sha256Canonical, same]

/-- Without collisions, equal hashes of objects mean equal encodings of their properties away from
the prototype name. -/
theorem sha256Canonical_obj_iff {host : Host} (free : host.CollisionFree)
    {left right : Props JsValue} (leftJson : (JsValue.obj left).IsJson)
    (rightJson : (JsValue.obj right).IsJson) :
    sha256Canonical host (.obj left) = sha256Canonical host (.obj right) ↔
      ∀ key, key ≠ protoKey → encodingOf host ((JsValue.obj left).getOwn key) =
        encodingOf host ((JsValue.obj right).getOwn key) := by
  rw [sha256Canonical_eq_iff free leftJson rightJson,
    canonicalJson_eq_iff host leftJson rightJson]
  rw [JsValue.IsJson] at leftJson rightJson
  exact canonicalTree_obj_iff host leftJson.1 rightJson.1

/-- Objects with the same names encode alike when their values do one by one. -/
theorem encodingOf_getOwn_of_forall₂ {left right : Props JsValue}
    (same : List.Forall₂ (fun first second =>
      first.1 = second.1 ∧ encodingOf host first.2 = encodingOf host second.2) left right)
    (key : JsString) :
    encodingOf host ((JsValue.obj left).getOwn key) =
      encodingOf host ((JsValue.obj right).getOwn key) := by
  induction same with
  | nil => rfl
  | @cons first second left right head tail ih =>
      obtain ⟨name, value⟩ := first
      obtain ⟨other, otherValue⟩ := second
      obtain ⟨rfl, valueSame⟩ := head
      simp only [JsValue.getOwn, List.lookup_cons] at ih ⊢
      cases key == name with
      | true => exact valueSame
      | false => exact ih

theorem sameJson_str {left right : JsString} :
    SameJson host (.str left) (.str right) ↔ host.nfc left = host.nfc right := by
  constructor
  · intro same
    cases same
    assumption
  · exact .str

theorem sameJson_num {left right : JsNumber} :
    SameJson host (.num left) (.num right) ↔ left.unsigned = right.unsigned := by
  constructor
  · intro same
    cases same
    assumption
  · exact .num

/-- Objects with the same names agree when their values agree one by one. -/
theorem sameJson_of_forall₂ {left right : Props JsValue}
    (same : List.Forall₂ (fun first second =>
      first.1 = second.1 ∧ SameJson host first.2 second.2) left right) :
    SameJson host (.obj left) (.obj right) := by
  rw [sameJson_obj]
  intro key
  induction same with
  | nil => exact .undefined
  | @cons first second left right head tail ih =>
      obtain ⟨name, value⟩ := first
      obtain ⟨other, otherValue⟩ := second
      obtain ⟨rfl, valueSame⟩ := head
      simp only [JsValue.getOwn, List.lookup_cons] at ih ⊢
      cases key == name with
      | true => exact valueSame
      | false => exact ih

end Adjudicate.Canonical
