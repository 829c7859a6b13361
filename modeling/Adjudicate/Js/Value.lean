/-
This file models JavaScript data values with `JSON.stringify` and `JSON.parse`.
-/

import Adjudicate.Js.JsonRoundTrip
import Adjudicate.Js.Property

namespace Adjudicate.Js

/-- A data value may hold `undefined` and numbers that JSON cannot express. -/
inductive JsValue where
  | undefined
  | null
  | bool (value : Bool)
  | num (number : JsNumber)
  | str (text : JsString)
  | arr (items : List JsValue)
  | obj (props : List (JsString × JsValue))

/-- A thrown value is an `Error`, a value with a `String` conversion, or a value whose
conversion throws in turn. -/
inductive Thrown where
  | error (name message : JsString)
  | other (text : JsString)
  | unprintable (raised : Thrown)
deriving DecidableEq

@[simp] theorem ok_bind {A B : Type} (value : A) (next : A → Except Thrown B) :
    (Except.ok value >>= next) = next value := rfl

theorem bind_eq_ok {A B : Type} {computation : Except Thrown A} {next : A → Except Thrown B}
    {result : B} :
    (computation >>= next) = .ok result ↔
      ∃ value, computation = .ok value ∧ next value = .ok result := by
  cases computation with
  | error raised => exact iff_of_false nofun (by simp)
  | ok value => simp

namespace JsValue

instance : Coe JsString JsValue := ⟨.str⟩

instance : Coe String JsValue := ⟨fun text => .str (utf16 text)⟩

def isUndefined : JsValue → Bool
  | .undefined => true
  | _ => false

/-- Reading a missing property gives `undefined`. -/
def getOwn (value : JsValue) (key : JsString) : JsValue :=
  match value with
  | .obj props => (props.lookup key).getD .undefined
  | _ => .undefined

/-- An array owns its indices and a text owns its code units. -/
def ownProps : JsValue → Props JsValue
  | .obj props => props
  | .arr items => items.mapIdx fun index item => (digitsText index, item)
  | .str text => text.mapIdx fun index unit => (digitsText index, .str [unit])
  | _ => []

end JsValue

/-- An optional property that is absent is not part of the object. -/
def optionalProp (key : JsString) (value : Option JsValue) : Props JsValue :=
  match value with
  | some value => [(key, value)]
  | none => []

/-- The values inside an array or an object come before it. -/
@[elab_as_elim, induction_eliminator]
theorem JsValue.inductionOn {motive : JsValue → Prop} (undefined : motive .undefined)
    (null : motive .null) (bool : ∀ value, motive (.bool value))
    (num : ∀ number, motive (.num number)) (str : ∀ text, motive (.str text))
    (arr : ∀ items, (∀ item ∈ items, motive item) → motive (.arr items))
    (obj : ∀ props, (∀ property ∈ props, motive property.2) → motive (.obj props))
    (value : JsValue) : motive value := by
  apply @JsValue.rec motive (fun items => ∀ item ∈ items, motive item)
    (fun props => ∀ property ∈ props, motive property.2) (fun property => motive property.2)
    undefined null bool num str arr obj
  · simp
  · simpa using fun head tail headHolds tailHolds => ⟨headHolds, tailHolds⟩
  · simp
  · simpa using fun head tail headHolds tailHolds => ⟨headHolds, tailHolds⟩
  · exact fun key value holds => holds

mutual

/-- A JSON value has finite numbers and distinct names; only a property may be `undefined`. -/
def JsValue.IsJson : JsValue → Prop
  | .undefined => False
  | .num number => number.isFinite = true
  | .arr items => IsJsonItems items
  | .obj props => (keys props).Nodup ∧ IsJsonProps props
  | _ => True

def IsJsonItems : List JsValue → Prop
  | [] => True
  | item :: items => item.IsJson ∧ IsJsonItems items

def IsJsonProps : Props JsValue → Prop
  | [] => True
  | (_, value) :: props => (value.isUndefined = false → value.IsJson) ∧ IsJsonProps props

end

@[simp] theorem isJsonItems_iff (items : List JsValue) :
    IsJsonItems items ↔ ∀ item ∈ items, item.IsJson := by
  induction items with
  | nil => simp [IsJsonItems]
  | cons item items ih => simp [IsJsonItems, ih]

@[simp] theorem isJsonProps_iff (props : Props JsValue) :
    IsJsonProps props ↔ ∀ property ∈ props, property.2.isUndefined = false → property.2.IsJson := by
  induction props with
  | nil => simp [IsJsonProps]
  | cons property props ih => simp [IsJsonProps, ih]

mutual

/-- This is `SerializeJSONProperty`; `undefined` has no serialization. -/
def JsValue.serialize : JsValue → Option Json
  | .undefined => none
  | .null => some .null
  | .bool value => some (.bool value)
  | .num number => some (if number.isFinite then .num number.toString else .null)
  | .str text => some (.str text)
  | .arr items => some (.arr (serializeItems items))
  | .obj props => some (.obj (enumerate (serializeProps props)))

def serializeItems : List JsValue → List Json
  | [] => []
  | item :: items => item.serialize.getD .null :: serializeItems items

def serializeProps : Props JsValue → Props Json
  | [] => []
  | (key, value) :: props =>
      match value.serialize with
      | some tree => (key, tree) :: serializeProps props
      | none => serializeProps props

end

/-- This is `JSON.stringify` of a value without an indent. -/
def JsValue.stringify (value : JsValue) : Option JsString := value.serialize.map Json.print

mutual

def Json.toValue : Json → JsValue
  | .null => .null
  | .bool value => .bool value
  | .num token => .num ((parseNumber token).getD .nan)
  | .str text => .str text
  | .arr items => .arr (toItems items)
  | .obj members => .obj (defineAll (toMembers members))

def toItems : List Json → List JsValue
  | [] => []
  | item :: items => item.toValue :: toItems items

def toMembers : Props Json → Props JsValue
  | [] => []
  | (key, tree) :: members => (key, tree.toValue) :: toMembers members

end

/-- This is `JSON.parse`; no value means that it throws a `SyntaxError`. -/
def JsValue.parse (text : JsString) : Option JsValue := (Json.parse text).map Json.toValue

@[simp] theorem serializeItems_eq (items : List JsValue) :
    serializeItems items = items.map fun item => item.serialize.getD .null := by
  induction items with
  | nil => rfl
  | cons item items ih => rw [serializeItems, ih, List.map_cons]

theorem serializeProps_eq (props : Props JsValue) :
    serializeProps props =
      props.filterMap fun property => property.2.serialize.map (Prod.mk property.1) := by
  induction props with
  | nil => rfl
  | cons property props ih =>
      obtain ⟨key, value⟩ := property
      rw [serializeProps, List.filterMap_cons, ih]
      cases value.serialize <;> rfl

@[simp] theorem toItems_eq (items : List Json) : toItems items = items.map Json.toValue := by
  induction items with
  | nil => rfl
  | cons item items ih => rw [toItems, ih, List.map_cons]

@[simp] theorem toMembers_eq (members : Props Json) :
    toMembers members = mapValues Json.toValue members := by
  induction members with
  | nil => rfl
  | cons member members ih =>
      obtain ⟨key, tree⟩ := member
      rw [toMembers, ih]
      rfl

@[simp] theorem validItems_iff (items : List Json) :
    ValidItems items ↔ ∀ item ∈ items, item.Valid := by
  induction items with
  | nil => simp [ValidItems]
  | cons item items ih => simp [ValidItems, ih]

@[simp] theorem validMembers_iff (members : Props Json) :
    ValidMembers members ↔ ∀ member ∈ members, member.2.Valid := by
  induction members with
  | nil => simp [ValidMembers]
  | cons member members ih => simp [ValidMembers, ih]

/-- Serialized numbers are valid tokens. -/
theorem serialize_valid (value : JsValue) :
    ∀ tree : Json, value.serialize = some tree → tree.Valid := by
  induction value with
  | undefined => intro tree same; cases same
  | null => intro tree same; cases same; trivial
  | bool value => intro tree same; cases same; trivial
  | num number =>
      intro tree same
      cases same
      split
      · next finite => exact toString_isNumberToken number finite
      · trivial
  | str text => intro tree same; cases same; trivial
  | arr items ih =>
      intro tree same
      cases same
      rw [Json.Valid, validItems_iff, serializeItems_eq]
      intro member inside
      obtain ⟨item, itemIn, rfl⟩ := List.mem_map.mp inside
      cases same : item.serialize with
      | none => trivial
      | some tree => exact ih item itemIn tree same
  | obj props ih =>
      intro tree same
      cases same
      rw [Json.Valid, validMembers_iff, serializeProps_eq]
      intro member inside
      obtain ⟨property, propertyIn, found⟩ :=
        List.mem_filterMap.mp ((enumerate_perm _).mem_iff.mp inside)
      obtain ⟨tree, same, rfl⟩ := Option.map_eq_some_iff.mp found
      exact ih property propertyIn tree same

theorem getOwn_cons (name : JsString) (value : JsValue) (rest : Props JsValue) (key : JsString) :
    (JsValue.obj ((name, value) :: rest)).getOwn key =
      if key = name then value else (JsValue.obj rest).getOwn key := by
  rw [JsValue.getOwn, lookup_cons_if]
  split <;> rfl

theorem getOwn_nil (key : JsString) : (JsValue.obj []).getOwn key = .undefined := rfl

end Adjudicate.Js
