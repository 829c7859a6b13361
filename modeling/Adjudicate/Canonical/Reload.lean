/-
This file proves that the canonical text of a value survives JSON persistence.
-/

import Adjudicate.Canonical.ContentAddress

namespace Adjudicate.Canonical

open Js

/-- This is `JSON.parse(JSON.stringify(value))`; a value without a text stays undefined. -/
def reload (value : JsValue) : JsValue := (value.stringify.bind JsValue.parse).getD .undefined

theorem reload_eq (value : JsValue) :
    reload value = (value.serialize.map Json.toValue).getD .undefined := by
  rw [reload, JsValue.stringify]
  cases text : value.serialize with
  | none => rfl
  | some tree =>
      change (JsValue.parse tree.print).getD .undefined = tree.toValue
      rw [JsValue.parse, parse_print tree (serialize_valid value tree text)]
      rfl

theorem reload_str (text : JsString) : reload (.str text) = .str text := reload_eq _

/-- The text of a number forgets the sign of zero. -/
theorem reload_num {number : JsNumber} (finite : number.isFinite = true) :
    reload (.num number) = .num number.unsigned := by
  rw [reload_eq, JsValue.serialize, if_pos finite]
  change JsValue.num ((parseNumber number.toString).getD .nan) = _
  rw [parseNumber_toString number finite]
  rfl

theorem serializeProps_nodup {props : Props JsValue} (distinct : (keys props).Nodup) :
    (keys (serializeProps props)).Nodup := by
  have source : List.Sublist (keys (serializeProps props)) (keys props) := by
    induction props with
    | nil => exact .slnil
    | cons property props ih =>
        obtain ⟨key, value⟩ := property
        have tail := ih (List.nodup_cons.mp distinct).2
        rw [serializeProps]
        cases value.serialize with
        | none => exact tail.cons key
        | some tree => exact tail.cons_cons key
  exact distinct.sublist source

theorem lookup_serializeProps {props : Props JsValue} (distinct : (keys props).Nodup)
    (key : JsString) :
    (serializeProps props).lookup key = (props.lookup key).bind JsValue.serialize := by
  induction props with
  | nil => rfl
  | cons property props ih =>
      obtain ⟨name, value⟩ := property
      obtain ⟨fresh, restDistinct⟩ := List.nodup_cons.mp distinct
      rw [serializeProps, lookup_cons_if]
      cases text : value.serialize with
      | none =>
          rw [ih restDistinct]
          split
          · next same =>
              subst same
              rw [lookup_eq_none.mpr fresh, Option.bind_some, text]
              rfl
          · rfl
      | some tree =>
          rw [lookup_cons_if, ih restDistinct]
          split
          · exact text.symm
          · rfl

theorem reload_obj {props : Props JsValue} (distinct : (keys props).Nodup) :
    reload (.obj props) = .obj (mapValues Json.toValue (enumerate (serializeProps props))) := by
  have members : (keys (enumerate (serializeProps props))).Nodup :=
    (keys_perm (enumerate_perm _)).nodup_iff.mpr (serializeProps_nodup distinct)
  rw [reload_eq, JsValue.serialize]
  change Json.toValue (.obj _) = _
  rw [Json.toValue, toMembers_eq, defineAll_of_nodup ((keys_mapValues _ _).symm ▸ members)]

theorem reload_nodup {props : Props JsValue} (distinct : (keys props).Nodup) :
    (keys (mapValues Json.toValue (enumerate (serializeProps props)))).Nodup := by
  rw [keys_mapValues]
  exact (keys_perm (enumerate_perm _)).nodup_iff.mpr (serializeProps_nodup distinct)

/-- A reloaded object holds the reloaded properties. -/
theorem getOwn_reload {props : Props JsValue} (distinct : (keys props).Nodup) (key : JsString) :
    (reload (.obj props)).getOwn key = reload ((JsValue.obj props).getOwn key) := by
  rw [reload_obj distinct, JsValue.getOwn, lookup_mapValues,
    lookup_perm (enumerate_perm _)
      ((keys_perm (enumerate_perm _)).nodup_iff.mpr (serializeProps_nodup distinct)),
    lookup_serializeProps distinct, JsValue.getOwn]
  cases props.lookup key with
  | none => rfl
  | some value => exact (reload_eq value).symm

theorem serialize_isSome {value : JsValue} (present : value.isUndefined = false) :
    ∃ tree, value.serialize = some tree := by
  cases value with
  | undefined => cases present
  | _ => exact ⟨_, rfl⟩

/-- The text of a value is read back as the reloaded value. -/
theorem parse_stringify {value : JsValue} (present : value.isUndefined = false) :
    JsValue.parse (value.stringify.getD []) = some (reload value) := by
  obtain ⟨tree, text⟩ := serialize_isSome present
  rw [reload_eq, JsValue.stringify, text, JsValue.parse]
  change (Json.parse tree.print).map Json.toValue = _
  rw [parse_print tree (serialize_valid _ tree text)]
  rfl

/-- Inside a container, a JSON item reloads to itself up to its own reload. -/
theorem reload_item {item : JsValue} (json : item.IsJson) :
    Json.toValue (item.serialize.getD .null) = reload item := by
  obtain ⟨tree, same⟩ := serialize_isSome (isDefined_of_isJson json)
  rw [reload_eq, same]
  rfl

theorem reload_arr {items : List JsValue} (json : ∀ item ∈ items, item.IsJson) :
    reload (.arr items) = .arr (items.map reload) := by
  rw [reload_eq, JsValue.serialize, serializeItems_eq]
  change Json.toValue (.arr _) = _
  rw [Json.toValue, toItems_eq, List.map_map]
  congr 1
  apply List.map_congr_left
  intro item inside
  exact reload_item (json item inside)

theorem isUndefined_reload (value : JsValue) :
    (reload value).isUndefined = value.isUndefined := by
  rw [reload_eq]
  cases value with
  | num number =>
      rw [JsValue.serialize]
      split <;> rfl
  | _ => rfl

/-- A JSON value reloads to a JSON value. -/
theorem reload_isJson (value : JsValue) (json : value.IsJson) : (reload value).IsJson := by
  induction value with
  | undefined => exact json.elim
  | null => rw [reload_eq]; trivial
  | bool value => rw [reload_eq]; trivial
  | num number =>
      rw [reload_num json]
      exact (number.isFinite_unsigned).trans json
  | str text => rw [reload_str]; trivial
  | arr items ih =>
      rw [JsValue.IsJson, isJsonItems_iff] at json
      rw [reload_arr json, JsValue.IsJson, isJsonItems_iff]
      intro value inside
      obtain ⟨item, itemIn, rfl⟩ := List.mem_map.mp inside
      exact ih item itemIn (json item itemIn)
  | obj props ih =>
      rw [JsValue.IsJson, isJsonProps_iff] at json
      rw [reload_obj json.1, JsValue.IsJson, isJsonProps_iff]
      refine ⟨reload_nodup json.1, ?_⟩
      intro property inside _
      obtain ⟨member, memberIn, rfl⟩ := List.mem_map.mp inside
      have source := (enumerate_perm _).mem_iff.mp memberIn
      rw [serializeProps_eq] at source
      obtain ⟨⟨key, value⟩, propertyIn, found⟩ := List.mem_filterMap.mp source
      obtain ⟨tree, text, rfl⟩ := Option.map_eq_some_iff.mp found
      have present : value.isUndefined = false := by
        cases value with
        | undefined => cases text
        | _ => rfl
      have whole := ih (key, value) propertyIn (json.2 (key, value) propertyIn present)
      rw [reload_eq, text] at whole
      exact whole

variable (host : Host)

theorem encodingOf_reload_of_tree {value : JsValue}
    (tree : value.isUndefined = false →
      canonicalTree host (reload value) = canonicalTree host value) :
    encodingOf host (reload value) = encodingOf host value := by
  cases present : value.isUndefined with
  | true =>
      cases value with
      | undefined => rw [reload_eq]; rfl
      | _ => cases present
  | false =>
      rw [encodingOf_defined host present,
        encodingOf_defined host ((isUndefined_reload _).trans present), tree present]

/-- The encoder cannot see whether a value was reloaded. -/
theorem canonicalTree_reload (value : JsValue) (json : value.IsJson) :
    canonicalTree host (reload value) = canonicalTree host value := by
  induction value with
  | undefined => exact json.elim
  | null => rw [reload_eq]; rfl
  | bool value => rw [reload_eq]; rfl
  | num number =>
      change number.isFinite = true at json
      rw [reload_num json]
      change Json.num number.unsigned.toString = Json.num number.toString
      rw [Json.num.injEq, toString_eq_iff ((number.isFinite_unsigned).trans json) json,
        JsNumber.unsigned_unsigned]
  | str text => rw [reload_str]
  | arr items ih =>
      rw [JsValue.IsJson, isJsonItems_iff] at json
      rw [reload_arr json, canonicalTree, layoutTree, layoutTree, layoutItems_eq, layoutItems_eq,
        List.map_map]
      congr 1
      apply List.map_congr_left
      intro item inside
      exact ih item inside (json item inside)
  | obj props ih =>
      have object := json
      rw [JsValue.IsJson, isJsonProps_iff] at json
      rw [reload_obj json.1]
      refine (canonicalTree_obj_iff host (reload_nodup json.1) json.1).mpr ?_
      intro key _
      rw [← reload_obj json.1, getOwn_reload json.1]
      apply encodingOf_reload_of_tree
      intro present
      have propertyJson := getOwn_isJson object key present
      rw [JsValue.getOwn] at present propertyJson ⊢
      cases found : props.lookup key with
      | none => rw [found] at present; cases present
      | some value =>
          rw [found] at propertyJson
          exact ih (key, value) ((lookup_eq_some json.1 key value).mp found) propertyJson

/-- A JSON value or an undefined property keeps its encoding. -/
theorem encodingOf_reload {value : JsValue} (json : value.isUndefined = false → value.IsJson) :
    encodingOf host (reload value) = encodingOf host value :=
  encodingOf_reload_of_tree host fun present => canonicalTree_reload host value (json present)

-- The texts of symbolic values must not be computed when two types are compared.
attribute [irreducible] reload

end Adjudicate.Canonical
