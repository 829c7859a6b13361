/-
This file compares the encoder with the RFC 8785 serialization.
-/

import Adjudicate.Canonical.Canonicalize

namespace Adjudicate.Canonical

open Js

mutual

/-- Every string and every name in the tree is well-formed UTF-16. -/
def hasWellFormedText : Json → Bool
  | .str text => isWellFormed text
  | .arr items => itemsHaveWellFormedText items
  | .obj members => membersHaveWellFormedText members
  | _ => true

def itemsHaveWellFormedText : List Json → Bool
  | [] => true
  | item :: items => hasWellFormedText item && itemsHaveWellFormedText items

def membersHaveWellFormedText : Props Json → Bool
  | [] => true
  | (key, tree) :: members =>
      isWellFormed key && hasWellFormedText tree && membersHaveWellFormedText members

end

/-- RFC 8785 sorts the names of every object and rejects text with lone surrogates. -/
def rfc8785 (host : Host) (value : JsValue) : Option JsString :=
  let tree := layoutTree host sortKeys value
  if hasWellFormedText tree then some tree.print else none

variable (host : Host)

mutual

/-- Names and strings are well-formed, no name is the prototype name, and at every level
the order of enumeration agrees with the order of code units. -/
def Conforming : JsValue → Prop
  | .str text => isWellFormed (host.nfc text) = true
  | .arr items => ConformingItems items
  | .obj props =>
      (∀ key ∈ keys (definedProps props), isWellFormed key = true ∧ key ≠ protoKey) ∧
      (∀ left ∈ keys (definedProps props), ∀ right ∈ keys (definedProps props),
        left ≤ right → EnumeratedBefore left right) ∧
      ConformingProps props
  | _ => True

def ConformingItems : List JsValue → Prop
  | [] => True
  | item :: items => Conforming item ∧ ConformingItems items

def ConformingProps : Props JsValue → Prop
  | [] => True
  | (_, value) :: props => (value.isUndefined = false → Conforming value) ∧ ConformingProps props

end

@[simp] theorem conformingItems_iff (items : List JsValue) :
    ConformingItems host items ↔ ∀ item ∈ items, Conforming host item := by
  induction items with
  | nil => simp [ConformingItems]
  | cons item items ih => simp [ConformingItems, ih]

theorem conformingProps_iff (props : Props JsValue) :
    ConformingProps host props ↔ ∀ property ∈ definedProps props, Conforming host property.2 := by
  simp only [mem_definedProps]
  induction props with
  | nil => simp [ConformingProps]
  | cons property props ih => simp_all [ConformingProps]

@[simp] theorem itemsHaveWellFormedText_iff (items : List Json) :
    itemsHaveWellFormedText items = true ↔ ∀ item ∈ items, hasWellFormedText item = true := by
  induction items with
  | nil => simp [itemsHaveWellFormedText]
  | cons item items ih => simp [itemsHaveWellFormedText, ih]

@[simp] theorem membersHaveWellFormedText_iff (members : Props Json) :
    membersHaveWellFormedText members = true ↔
      ∀ member ∈ members, isWellFormed member.1 = true ∧ hasWellFormedText member.2 = true := by
  induction members with
  | nil => simp [membersHaveWellFormedText]
  | cons member members ih => simp [membersHaveWellFormedText, ih, and_assoc]

/-- The printed members have the sorted names exactly when the prototype name is absent
and enumeration keeps the sorted order. -/
theorem encoderLayout_eq_sortKeys (encode standard : JsValue → Json) {props : Props JsValue} :
    encoderLayout (mapValues encode props) = sortKeys (mapValues standard props) ↔
      protoKey ∉ keys props ∧
      (∀ left ∈ keys props, ∀ right ∈ keys props, left ≤ right → EnumeratedBefore left right) ∧
      ∀ property ∈ props, encode property.2 = standard property.2 := by
  rw [← sortKeys_enumerated]
  have laidOut : encoderLayout (mapValues encode props) =
      mapValues encode (enumerate (deleteOwn (sortKeys props) protoKey)) := by
    rw [encoderLayout, ← mapValues_sortKeys, ← mapValues_deleteOwn, mapValues_enumerate]
  rw [laidOut, ← mapValues_sortKeys]
  have members (property : JsString × JsValue) : property ∈ sortKeys props ↔ property ∈ props :=
    (sortKeys_perm props).mem_iff
  constructor
  · intro same
    have count : (deleteOwn (sortKeys props) protoKey).length = (sortKeys props).length := by
      have lengths := congrArg List.length same
      simpa [mapValues, (enumerate_perm _).length_eq] using lengths
    have kept : deleteOwn (sortKeys props) protoKey = sortKeys props :=
      List.filter_sublist.eq_of_length count
    rw [kept] at same
    have names : keys (enumerate (sortKeys props)) = keys (sortKeys props) := by
      rw [← keys_mapValues encode, same, keys_mapValues]
    have ordered : (sortKeys props).Pairwise fun left right =>
        EnumeratedBefore left.1 right.1 := by
      have enumerated : (keys (enumerate (sortKeys props))).Pairwise EnumeratedBefore :=
        List.pairwise_map.mpr (enumerate_pairwise _)
      rw [names] at enumerated
      exact List.pairwise_map.mp enumerated
    rw [(enumerate_eq_self _).mpr ordered] at same
    refine ⟨?_, ordered, ?_⟩
    · intro present
      obtain ⟨property, inside, name⟩ := List.mem_map.mp present
      have survived := kept.symm ▸ (members property).mpr inside
      simp [deleteOwn, name] at survived
    · intro property inside
      have pointwise := List.map_inj_left.mp same property ((members property).mpr inside)
      exact (Prod.mk.inj pointwise).2
  · rintro ⟨absent, ordered, trees⟩
    have kept : deleteOwn (sortKeys props) protoKey = sortKeys props := by
      apply List.filter_eq_self.mpr
      intro property inside
      have different : property.1 ≠ protoKey := fun name =>
        absent (name ▸ mem_keys_of_mem ((members property).mp inside))
      simp [different]
    rw [kept, (enumerate_eq_self _).mpr ordered]
    apply List.map_congr_left
    intro property inside
    rw [trees property ((members property).mp inside)]

/-- Both trees agree and hold well-formed text exactly on conforming values. -/
theorem conforming_iff (value : JsValue) (json : value.IsJson) :
    canonicalTree host value = layoutTree host sortKeys value ∧
        hasWellFormedText (layoutTree host sortKeys value) = true ↔
      Conforming host value := by
  induction value with
  | undefined => exact json.elim
  | null => simp [layoutTree, hasWellFormedText, Conforming]
  | bool value => simp [layoutTree, hasWellFormedText, Conforming]
  | num number => simp [layoutTree, hasWellFormedText, Conforming]
  | str text => simp [layoutTree, hasWellFormedText, Conforming]
  | arr items ih =>
      rw [JsValue.IsJson, isJsonItems_iff] at json
      simp only [layoutTree, layoutItems_eq, hasWellFormedText, Conforming, Json.arr.injEq,
        itemsHaveWellFormedText_iff, conformingItems_iff, List.map_inj_left, List.forall_mem_map,
        ← forall₂_and]
      exact forall₂_congr fun item inside => ih item inside (json item inside)
  | obj props ih =>
      rw [JsValue.IsJson, isJsonProps_iff] at json
      have step (property : JsString × JsValue) (inside : property ∈ definedProps props) :=
        ih property (mem_definedProps.mp inside).1
          (json.2 property (mem_definedProps.mp inside).1 (mem_definedProps.mp inside).2)
      simp only [layoutTree, layoutMembers_eq, Json.obj.injEq, hasWellFormedText, Conforming,
        encoderLayout_eq_sortKeys, membersHaveWellFormedText_iff, conformingProps_iff,
        (sortKeys_perm _).mem_iff]
      constructor
      · rintro ⟨⟨absent, ordered, trees⟩, text⟩
        refine ⟨?_, ordered, ?_⟩
        · intro key present
          obtain ⟨property, inside, rfl⟩ := List.mem_map.mp present
          have member := text _ (List.mem_map_of_mem inside)
          exact ⟨member.1, fun same => absent (same ▸ present)⟩
        · intro property inside
          have member := text _ (List.mem_map_of_mem inside)
          exact (step property inside).mp ⟨trees property inside, member.2⟩
      · rintro ⟨names, ordered, values⟩
        refine ⟨⟨?_, ordered, ?_⟩, ?_⟩
        · exact fun present => (names protoKey present).2 rfl
        · exact fun property inside => ((step property inside).mpr (values property inside)).1
        · intro member inside
          obtain ⟨property, propertyIn, rfl⟩ := List.mem_map.mp inside
          exact ⟨(names _ (mem_keys_of_mem propertyIn)).1,
            ((step property propertyIn).mpr (values property propertyIn)).2⟩

/-- The encoder returns the RFC 8785 serialization of exactly the conforming JSON values. -/
theorem canonicalJson_rfc8785_iff (value : { value : JsValue // value.IsJson }) :
    (∃ text, canonicalJson host value.1 = .ok text ∧ rfc8785 host value.1 = some text) ↔
      Conforming host value.1 := by
  obtain ⟨value, json⟩ := value
  have standardValid : (layoutTree host sortKeys value).Valid :=
    layoutTree_valid host sortKeys (fun members => (sortKeys_perm members).subset) value json
  rw [← conforming_iff host value json, canonicalJson_eq host json, rfc8785]
  simp only [Except.ok.injEq, exists_eq_left']
  rw [← print_inj (canonicalTree_valid host json) standardValid]
  cases hasWellFormedText (layoutTree host sortKeys value) <;> simp [eq_comm]

/-- The names `10` and `9` are sorted as text but printed as array indices. -/
theorem indexNames_not_rfc8785 :
    (JsValue.obj [("10", .num 0), ("9", .num 1)]).IsJson ∧
      canonicalJson (Host.ofDigests []) (.obj [("10", .num 0), ("9", .num 1)]) =
        .ok "\x7b\"9\":1,\"10\":0\x7d" ∧
      rfc8785 (Host.ofDigests []) (.obj [("10", .num 0), ("9", .num 1)]) =
        some "\x7b\"10\":0,\"9\":1\x7d" ∧
      utf16 "\x7b\"9\":1,\"10\":0\x7d" ≠ "\x7b\"10\":0,\"9\":1\x7d" := by
  refine ⟨?_, ?_, ?_, ?_⟩
  · simp only [JsValue.IsJson, IsJsonProps, and_true]
    decide +kernel
  · decide +kernel
  · decide +kernel
  · decide

end Adjudicate.Canonical
