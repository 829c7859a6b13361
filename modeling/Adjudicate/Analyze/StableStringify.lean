/-
This file models the sorted JSON text behind the manifest digest and the manifest diff.
-/

import Adjudicate.Canonical.Canonicalize
import Adjudicate.Canonical.Reload

namespace Adjudicate.Analyze

open Js Canonical

/-- This is `DIGEST_EXCLUDED_KEYS`. -/
def digestExcludedKeys : List JsString := ["sourceLocation"]

/-- This is one step of the loop that copies the sorted entries. -/
def copyMember (out : Props JsValue) (entry : JsString × JsValue) : Props JsValue :=
  if entry.1 ∈ digestExcludedKeys then out else assign out entry.1 entry.2

mutual

def sortValue : JsValue → JsValue
  | .undefined => .undefined
  | .null => .null
  | .bool value => .bool value
  | .num number => .num number
  | .str text => .str text
  | .arr items => .arr (sortItems items)
  | .obj props => .obj ((sortKeys (sortProps props)).foldl copyMember [])

def sortItems : List JsValue → List JsValue
  | [] => []
  | item :: items => sortValue item :: sortItems items

def sortProps : Props JsValue → Props JsValue
  | [] => []
  | (key, value) :: props => (key, sortValue value) :: sortProps props

end

def stableStringify (value : JsValue) : Option JsString := (sortValue value).stringify

/-- This is the tree that the text prints. -/
def stableTree (value : JsValue) : Option Json := (sortValue value).serialize

/-- The copy keeps this member. -/
def isCopied (key : JsString) : Bool := key ∉ digestExcludedKeys ∧ key ≠ protoKey

theorem sortItems_eq (items : List JsValue) : sortItems items = items.map sortValue := by
  induction items with
  | nil => rfl
  | cons item items ih => rw [sortItems, ih, List.map_cons]

theorem sortProps_eq (props : Props JsValue) : sortProps props = mapValues sortValue props := by
  induction props with
  | nil => rfl
  | cons property props ih =>
      obtain ⟨key, value⟩ := property
      rw [sortProps, ih]
      rfl

theorem foldl_copyMember (values out : Props JsValue) :
    values.foldl copyMember out = (values.filter fun entry => isCopied entry.1).foldl
      (fun out entry => setOwn out entry.1 entry.2) out := by
  induction values generalizing out with
  | nil => rfl
  | cons entry values ih =>
      rw [List.foldl_cons, ih, copyMember, List.filter_cons]
      by_cases excluded : entry.1 ∈ digestExcludedKeys
      · simp [isCopied, excluded]
      · by_cases proto : entry.1 = protoKey
        · simp [isCopied, proto, assign]
        · simp [isCopied, excluded, proto, assign]

section

variable {left right props : Props JsValue}

theorem kept_nodup (distinct : (keys props).Nodup) :
    (keys ((mapValues sortValue props).filter fun entry => isCopied entry.1)).Nodup := by
  have whole : (keys (mapValues sortValue props)).Nodup := by rwa [keys_mapValues]
  exact whole.sublist (List.filter_sublist.map _)

theorem copied_nodup (distinct : (keys props).Nodup) :
    (keys (sortKeys ((mapValues sortValue props).filter fun entry => isCopied entry.1))).Nodup :=
  (keys_perm (sortKeys_perm _)).nodup_iff.mpr (kept_nodup distinct)

/-- The copy holds the sorted members but for the dropped names. -/
theorem sortValue_obj (distinct : (keys props).Nodup) :
    sortValue (.obj props) =
      .obj (sortKeys ((mapValues sortValue props).filter fun entry => isCopied entry.1)) := by
  rw [sortValue, sortProps_eq, foldl_copyMember, sortKeys_filter]
  congr 1
  exact defineAll_of_nodup (copied_nodup distinct)

theorem lookup_filter_copied (props : Props JsValue) (key : JsString) :
    (props.filter fun entry => isCopied entry.1).lookup key =
      if isCopied key then props.lookup key else none := by
  induction props with
  | nil => simp
  | cons entry rest ih =>
      obtain ⟨name, value⟩ := entry
      rw [List.filter_cons, lookup_cons_if]
      by_cases same : key = name
      · subst same
        cases copied : isCopied key <;> simp [ih, copied]
      · cases copied : isCopied name <;> simp [ih, same, lookup_cons_if]

/-- The members of the tree are the trees of the copied members. -/
def stableMembers (props : Props JsValue) : Props Json :=
  serializeProps (sortKeys ((mapValues sortValue props).filter fun entry => isCopied entry.1))

theorem stableTree_obj (distinct : (keys props).Nodup) :
    stableTree (.obj props) = some (.obj (enumerate (stableMembers props))) := by
  rw [stableTree, sortValue_obj distinct, JsValue.serialize]
  rfl

theorem stableMembers_nodup (distinct : (keys props).Nodup) : (keys (stableMembers props)).Nodup :=
  serializeProps_nodup (copied_nodup distinct)

theorem lookup_stableMembers (distinct : (keys props).Nodup) (key : JsString) :
    (stableMembers props).lookup key =
      if isCopied key then stableTree ((JsValue.obj props).getOwn key) else none := by
  rw [stableMembers, lookup_serializeProps (copied_nodup distinct),
    lookup_perm (sortKeys_perm _) (copied_nodup distinct), lookup_filter_copied, lookup_mapValues,
    JsValue.getOwn]
  split
  · cases props.lookup key with
    | none => rfl
    | some value => rfl
  · rfl

theorem serializeProps_sublist (props : Props JsValue) :
    List.Sublist (keys (serializeProps props)) (keys props) := by
  induction props with
  | nil => exact .slnil
  | cons property props ih =>
      obtain ⟨key, value⟩ := property
      rw [serializeProps]
      cases value.serialize with
      | none => exact ih.cons key
      | some tree => exact ih.cons_cons key

theorem stableMembers_sorted (props : Props JsValue) :
    (stableMembers props).Pairwise fun first second => first.1 ≤ second.1 := by
  have ordered := List.pairwise_map.mpr
    (sortKeys_pairwise ((mapValues sortValue props).filter fun entry => isCopied entry.1))
  exact List.pairwise_map.mp (ordered.sublist (serializeProps_sublist _))

/-- Objects share their tree exactly when their members share theirs but for the dropped names. -/
theorem stableTree_obj_iff (leftDistinct : (keys left).Nodup) (rightDistinct : (keys right).Nodup) :
    stableTree (.obj left) = stableTree (.obj right) ↔
      ∀ key, isCopied key = true → stableTree ((JsValue.obj left).getOwn key) =
        stableTree ((JsValue.obj right).getOwn key) := by
  have leftMembers := stableMembers_nodup leftDistinct
  have rightMembers := stableMembers_nodup rightDistinct
  rw [stableTree_obj leftDistinct, stableTree_obj rightDistinct, Option.some.injEq, Json.obj.injEq]
  constructor
  · intro same key copied
    have found {props : Props JsValue} (distinct : (keys props).Nodup) :
        (enumerate (stableMembers props)).lookup key =
          stableTree ((JsValue.obj props).getOwn key) := by
      have members := stableMembers_nodup distinct
      have perm := enumerate_perm (stableMembers props)
      rw [lookup_perm perm ((keys_perm perm).nodup_iff.mpr members), lookup_stableMembers distinct,
        if_pos copied]
    rw [← found leftDistinct, same, found rightDistinct]
  · intro same
    have perm : (stableMembers left).Perm (stableMembers right) := by
      apply perm_of_lookup leftMembers rightMembers
      intro key
      rw [lookup_stableMembers leftDistinct, lookup_stableMembers rightDistinct]
      split
      · next copied => exact same key copied
      · rfl
    have leftSorted := sortKeys_eq_of_sorted perm leftMembers (stableMembers_sorted left)
    have rightSorted := sortKeys_eq_of_sorted (.refl _) rightMembers (stableMembers_sorted right)
    rw [leftSorted, ← rightSorted]

theorem stableTree_arr (items : List JsValue) :
    stableTree (.arr items) = some (.arr (items.map fun item => (stableTree item).getD .null)) := by
  rw [stableTree, sortValue, sortItems_eq, JsValue.serialize, serializeItems_eq, List.map_map]
  rfl

theorem stableTree_str {first second : JsString} :
    stableTree (.str first) = stableTree (.str second) ↔ first = second := by
  simp [stableTree, sortValue, JsValue.serialize]

/-- Texts agree exactly when their trees do. -/
theorem stableStringify_iff (first second : JsValue) :
    stableStringify first = stableStringify second ↔ stableTree first = stableTree second := by
  unfold stableStringify stableTree JsValue.stringify
  cases firstTree : (sortValue first).serialize with
  | none => cases secondTree : (sortValue second).serialize <;> simp
  | some tree =>
      cases secondTree : (sortValue second).serialize with
      | none => simp
      | some other =>
          rw [Option.map_some, Option.map_some, Option.some.injEq, Option.some.injEq]
          exact print_inj (serialize_valid _ tree firstTree) (serialize_valid _ other secondTree)

end

section Locations

mutual

/-- The value without the excluded members, at any depth. -/
def withoutLocations : JsValue → JsValue
  | .undefined => .undefined
  | .null => .null
  | .bool value => .bool value
  | .num number => .num number
  | .str text => .str text
  | .arr items => .arr (itemsWithoutLocations items)
  | .obj props => .obj (propsWithoutLocations props)

def itemsWithoutLocations : List JsValue → List JsValue
  | [] => []
  | item :: items => withoutLocations item :: itemsWithoutLocations items

def propsWithoutLocations : Props JsValue → Props JsValue
  | [] => []
  | (key, value) :: props =>
      if key ∈ digestExcludedKeys then propsWithoutLocations props
      else (key, withoutLocations value) :: propsWithoutLocations props

end

theorem itemsWithoutLocations_eq (items : List JsValue) :
    itemsWithoutLocations items = items.map withoutLocations := by
  induction items with
  | nil => rfl
  | cons item items ih => rw [itemsWithoutLocations, ih, List.map_cons]

theorem propsWithoutLocations_eq (props : Props JsValue) :
    propsWithoutLocations props =
      (mapValues withoutLocations props).filter fun entry => entry.1 ∉ digestExcludedKeys := by
  induction props with
  | nil => rfl
  | cons property props ih =>
      obtain ⟨key, value⟩ := property
      rw [propsWithoutLocations, ih]
      by_cases excluded : key ∈ digestExcludedKeys <;> simp [mapValues, excluded]

theorem lookup_propsWithoutLocations (props : Props JsValue) {key : JsString}
    (kept : key ∉ digestExcludedKeys) :
    (propsWithoutLocations props).lookup key = (props.lookup key).map withoutLocations := by
  induction props with
  | nil => rfl
  | cons property props ih =>
      obtain ⟨name, value⟩ := property
      rw [propsWithoutLocations, lookup_cons_if]
      by_cases excluded : name ∈ digestExcludedKeys
      · have apart : key ≠ name := fun same => kept (same ▸ excluded)
        rw [if_pos excluded, if_neg apart, ih]
      · rw [if_neg excluded, lookup_cons_if, ih]
        split <;> rfl

/-- The sorted copy does not see the excluded members. -/
theorem sortValue_withoutLocations (value : JsValue) :
    sortValue (withoutLocations value) = sortValue value := by
  induction value using JsValue.inductionOn with
  | undefined => rfl
  | null => rfl
  | bool value => rfl
  | num number => rfl
  | str text => rfl
  | arr items ih =>
      rw [withoutLocations, sortValue, sortValue, sortItems_eq, sortItems_eq,
        itemsWithoutLocations_eq, List.map_map]
      congr 1
      exact List.map_congr_left ih
  | obj props ih =>
      have members : mapValues sortValue (mapValues withoutLocations props) =
          mapValues sortValue props := by
        rw [mapValues, mapValues, List.map_map, mapValues]
        apply List.map_congr_left
        intro property member
        exact congrArg (Prod.mk property.1) (ih property member)
      have kept : mapValues sortValue ((mapValues withoutLocations props).filter fun entry =>
          entry.1 ∉ digestExcludedKeys) =
          (mapValues sortValue props).filter fun entry => entry.1 ∉ digestExcludedKeys := by
        rw [← members]
        let store (property : JsString × JsValue) := (property.1, sortValue property.2)
        let keep (entry : JsString × JsValue) : Bool := entry.1 ∉ digestExcludedKeys
        exact (List.filter_map (f := store) (p := keep)).symm
      rw [withoutLocations, sortValue, sortValue, sortProps_eq, sortProps_eq,
        propsWithoutLocations_eq, kept, foldl_copyMember, foldl_copyMember, ← sortKeys_filter,
        List.filter_filter]
      congr 2
      apply List.filter_congr
      intro entry _
      by_cases excluded : entry.1 ∈ digestExcludedKeys <;> simp [isCopied, excluded]

theorem stableTree_withoutLocations {first second : JsValue}
    (same : withoutLocations first = withoutLocations second) :
    stableTree first = stableTree second := by
  rw [stableTree, ← sortValue_withoutLocations, same, sortValue_withoutLocations, stableTree]

end Locations

end Adjudicate.Analyze
