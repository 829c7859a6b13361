/-
This file models the own properties of an object and their enumeration order.
-/

import Adjudicate.Js.NumberText

namespace Adjudicate.Js

/-- An object holds its own properties in the order of their creation. -/
abbrev Props (A : Type) := List (JsString × A)

variable {A B : Type}

def keys (props : Props A) : List JsString := props.map Prod.fst

/-- Assignment to this name reaches the accessor of `Object.prototype`. -/
def protoKey : JsString := "__proto__"

/-- The names that every plain object inherits. -/
def objectPrototypeNames : List JsString :=
  ["constructor", "__defineGetter__", "__defineSetter__", "hasOwnProperty", "__lookupGetter__",
    "__lookupSetter__", "isPrototypeOf", "propertyIsEnumerable", "toString", "valueOf", "__proto__",
    "toLocaleString"]

/-- An array index is a canonical decimal below `2 ^ 32 - 1`. -/
def arrayIndex (key : JsString) : Option Nat :=
  if integerPart key && key.all isDigit && decide (digitsValue key < 2 ^ 32 - 1) then
    some (digitsValue key)
  else none

/-- Array indices come first in numeric order; other names keep their creation order. -/
def EnumeratedBefore (left right : JsString) : Prop :=
  match arrayIndex left, arrayIndex right with
  | some first, some second => first ≤ second
  | none, some _ => False
  | _, none => True

instance : DecidableRel EnumeratedBefore := fun left right => by
  unfold EnumeratedBefore
  exact match arrayIndex left, arrayIndex right with
    | some _, some _ => inferInstance
    | none, some _ => inferInstance
    | some _, none => inferInstance
    | none, none => inferInstance

/-- This is `OrdinaryOwnPropertyKeys` as a stable sort of the creation order. -/
def enumerate (props : Props A) : Props A :=
  props.insertionSort fun left right => EnumeratedBefore left.1 right.1

/-- The `<` on strings compares UTF-16 code units. -/
def sortKeys (props : Props A) : Props A :=
  props.insertionSort fun left right => left.1 ≤ right.1

/-- A defined property keeps its place when it is overwritten. -/
def setOwn (props : Props A) (key : JsString) (value : A) : Props A :=
  match props with
  | [] => [(key, value)]
  | (other, old) :: rest =>
      if other = key then (key, value) :: rest else (other, old) :: setOwn rest key value

/-- This is `out[key] = value` on a plain object: the prototype accessor swallows one name. -/
def assign (props : Props A) (key : JsString) (value : A) : Props A :=
  if key = protoKey then props else setOwn props key value

def deleteOwn (props : Props A) (key : JsString) : Props A :=
  props.filter fun property => property.1 ≠ key

/-- Properties are defined one after another, so the last of equal names wins. -/
def defineAll (entries : Props A) : Props A :=
  entries.foldl (fun props entry => setOwn props entry.1 entry.2) []

/-- An object spread defines the own properties of the source in enumeration order. -/
def spreadInto (target source : Props A) : Props A :=
  (enumerate source).foldl (fun props entry => setOwn props entry.1 entry.2) target

def mapValues (f : A → B) (props : Props A) : Props B :=
  props.map fun property => (property.1, f property.2)

@[simp] theorem keys_mapValues (f : A → B) (props : Props A) :
    keys (mapValues f props) = keys props := by
  simp [keys, mapValues, Function.comp_def]

theorem lookup_mapValues (f : A → B) (props : Props A) (key : JsString) :
    (mapValues f props).lookup key = (props.lookup key).map f := by
  induction props with
  | nil => rfl
  | cons property rest ih =>
      change List.lookup key ((property.1, f property.2) :: mapValues f rest) = _
      rw [show property = (property.1, property.2) from rfl, List.lookup_cons, List.lookup_cons]
      by_cases same : key == property.1 <;> simp [same, ih]

theorem mem_keys_of_mem {property : JsString × A} {props : Props A} (member : property ∈ props) :
    property.1 ∈ keys props :=
  List.mem_map_of_mem member

theorem lookup_cons_if (name : JsString) (value : A) (rest : Props A) (key : JsString) :
    List.lookup key ((name, value) :: rest) =
      if key = name then some value else rest.lookup key := by
  rw [List.lookup_cons]
  by_cases same : key = name
  · simp [same]
  · have missed : (key == name) = false := by simpa using same
    simp [same, missed]

/-- With distinct names, a lookup finds exactly the members. -/
theorem lookup_eq_some {props : Props A} (distinct : (keys props).Nodup) (key : JsString)
    (value : A) : props.lookup key = some value ↔ (key, value) ∈ props := by
  induction props with
  | nil => simp
  | cons property rest ih =>
      obtain ⟨other, old⟩ := property
      simp only [keys, List.map_cons, List.nodup_cons] at distinct
      rw [List.lookup_cons, List.mem_cons, Prod.mk.injEq]
      by_cases same : key = other
      · subst same
        have fresh : (key, value) ∉ rest := fun member => distinct.1 (mem_keys_of_mem member)
        simp [fresh, eq_comm]
      · have different : (key == other) = false := by simpa using same
        simp [different, same, ih distinct.2]

theorem mem_of_lookup {props : Props A} {key : JsString} {value : A}
    (found : props.lookup key = some value) : (key, value) ∈ props := by
  obtain ⟨front, back, rfl, -⟩ := List.lookup_eq_some_iff.mp found
  simp

theorem lookup_eq_none {props : Props A} {key : JsString} :
    props.lookup key = none ↔ key ∉ keys props := by
  induction props with
  | nil => simp [keys]
  | cons property rest ih =>
      obtain ⟨other, old⟩ := property
      rw [List.lookup_cons]
      by_cases same : key = other
      · simp [same, keys]
      · have different : (key == other) = false := by simpa using same
        simpa [different, keys, same] using ih

theorem lookup_deleteOwn (props : Props A) (removed key : JsString) :
    (deleteOwn props removed).lookup key = if key = removed then none else props.lookup key := by
  split
  · next same =>
      rw [same, lookup_eq_none]
      intro present
      obtain ⟨property, inside, name⟩ := List.mem_map.mp present
      simp [deleteOwn, name] at inside
  · next different =>
      induction props with
      | nil => rfl
      | cons property props ih =>
          obtain ⟨other, value⟩ := property
          rw [deleteOwn, List.filter_cons, ← deleteOwn, List.lookup_cons, ← ih]
          by_cases gone : other = removed
          · have missed : (key == removed) = false := by simpa using different
            simp [gone, missed]
          · simp [gone, List.lookup_cons]

theorem keys_perm {left right : Props A} (perm : left.Perm right) :
    (keys left).Perm (keys right) :=
  perm.map _

theorem lookup_perm {left right : Props A} (perm : left.Perm right)
    (distinct : (keys left).Nodup) (key : JsString) : left.lookup key = right.lookup key := by
  have rightDistinct := (keys_perm perm).nodup_iff.mp distinct
  apply Option.ext
  intro value
  rw [lookup_eq_some distinct, lookup_eq_some rightDistinct, perm.mem_iff]

/-- Distinct names and equal lookups give the same properties in some order. -/
theorem perm_of_lookup {left right : Props A} (leftDistinct : (keys left).Nodup)
    (rightDistinct : (keys right).Nodup)
    (same : ∀ key, left.lookup key = right.lookup key) : left.Perm right := by
  rw [List.perm_ext_iff_of_nodup (List.Nodup.of_map _ leftDistinct)
    (List.Nodup.of_map _ rightDistinct)]
  rintro ⟨key, value⟩
  rw [← lookup_eq_some leftDistinct, ← lookup_eq_some rightDistinct, same]

theorem sortKeys_perm (props : Props A) : (sortKeys props).Perm props :=
  List.perm_insertionSort _ _

theorem enumerate_perm (props : Props A) : (enumerate props).Perm props :=
  List.perm_insertionSort _ _

theorem sortKeys_pairwise (props : Props A) :
    (sortKeys props).Pairwise fun left right => left.1 ≤ right.1 := by
  have : Std.Total fun left right : JsString × A => left.1 ≤ right.1 :=
    ⟨fun left right => le_total left.1 right.1⟩
  have : IsTrans (JsString × A) fun left right => left.1 ≤ right.1 :=
    ⟨fun _ _ _ first second => le_trans first second⟩
  exact List.pairwise_insertionSort _ _

theorem enumeratedBefore_total (left right : JsString) :
    EnumeratedBefore left right ∨ EnumeratedBefore right left := by
  unfold EnumeratedBefore
  cases arrayIndex left <;> cases arrayIndex right <;> simp [Nat.le_total]

theorem enumeratedBefore_trans {first second third : JsString}
    (left : EnumeratedBefore first second) (right : EnumeratedBefore second third) :
    EnumeratedBefore first third := by
  simp only [EnumeratedBefore] at *
  cases firstIndex : arrayIndex first <;> cases secondIndex : arrayIndex second <;>
    cases thirdIndex : arrayIndex third <;> simp only [firstIndex, secondIndex, thirdIndex] at *
  exact Nat.le_trans left right

theorem enumerate_pairwise (props : Props A) :
    (enumerate props).Pairwise fun left right => EnumeratedBefore left.1 right.1 := by
  have : Std.Total fun left right : JsString × A => EnumeratedBefore left.1 right.1 :=
    ⟨fun left right => enumeratedBefore_total left.1 right.1⟩
  have : IsTrans (JsString × A) fun left right => EnumeratedBefore left.1 right.1 :=
    ⟨fun _ _ _ first second => enumeratedBefore_trans first second⟩
  exact List.pairwise_insertionSort _ _

/-- Creation order survives enumeration exactly when no pair of names is out of place. -/
theorem enumerate_eq_self (props : Props A) :
    enumerate props = props ↔
      props.Pairwise fun left right => EnumeratedBefore left.1 right.1 := by
  constructor
  · intro same
    rw [← same]
    exact enumerate_pairwise props
  · exact List.Pairwise.insertionSort_eq

/-- The sorted names survive enumeration exactly when smaller names are enumerated earlier. -/
theorem sortKeys_enumerated (props : Props A) :
    ((sortKeys props).Pairwise fun left right => EnumeratedBefore left.1 right.1) ↔
      ∀ left ∈ keys props, ∀ right ∈ keys props, left ≤ right → EnumeratedBefore left right := by
  have reflexive (key : JsString) : EnumeratedBefore key key :=
    (enumeratedBefore_total key key).elim id id
  constructor
  · intro ordered left leftIn right rightIn
    obtain ⟨first, firstIn, rfl⟩ := List.mem_map.mp leftIn
    obtain ⟨second, secondIn, rfl⟩ := List.mem_map.mp rightIn
    let Agree (first second : JsString × A) : Prop :=
      (first.1 ≤ second.1 → EnumeratedBefore first.1 second.1) ∧
        (second.1 ≤ first.1 → EnumeratedBefore second.1 first.1)
    have symmetric : Std.Symm Agree := ⟨fun _ _ => And.symm⟩
    have agree : (sortKeys props).Pairwise Agree := by
      apply ((sortKeys_pairwise props).and ordered).imp
      rintro first second ⟨below, before⟩
      exact ⟨fun _ => before, fun above => le_antisymm below above ▸ reflexive _⟩
    have all := agree.forall_of_forall fun entry _ => ⟨fun _ => reflexive _, fun _ => reflexive _⟩
    exact (all ((sortKeys_perm props).mem_iff.mpr firstIn)
      ((sortKeys_perm props).mem_iff.mpr secondIn)).1
  · intro ordered
    apply (sortKeys_pairwise props).imp_of_mem
    intro left right leftIn rightIn below
    exact ordered _ (mem_keys_of_mem ((sortKeys_perm props).mem_iff.mp leftIn)) _
      (mem_keys_of_mem ((sortKeys_perm props).mem_iff.mp rightIn)) below

theorem sortKeys_eq_of_sorted {left right : Props A} (perm : left.Perm right)
    (distinct : (keys left).Nodup)
    (sorted : left.Pairwise fun first second => first.1 ≤ second.1) : left = sortKeys right := by
  have whole := perm.trans (sortKeys_perm right).symm
  refine whole.eq_of_pairwise ?_ sorted (sortKeys_pairwise right)
  intro first second firstIn secondIn below above
  have name : first.1 = second.1 := le_antisymm below above
  have secondIn : second ∈ left := whole.mem_iff.mpr secondIn
  have value := (lookup_eq_some distinct first.1 first.2).mpr firstIn
  rw [name, (lookup_eq_some distinct second.1 second.2).mpr secondIn] at value
  exact Prod.ext name (Option.some.inj value).symm

/-- Sorting forgets the order of distinct names. -/
theorem sortKeys_congr {left right : Props A} (perm : left.Perm right)
    (distinct : (keys left).Nodup) : sortKeys left = sortKeys right :=
  sortKeys_eq_of_sorted ((sortKeys_perm left).trans perm)
    ((keys_perm (sortKeys_perm left)).nodup_iff.mpr distinct) (sortKeys_pairwise left)

/-- An insertion into the kept entries is the kept part of the insertion. -/
theorem filter_orderedInsert (keep : JsString × A → Bool) (entry : JsString × A) {sorted : Props A}
    (ordered : sorted.Pairwise fun first second => first.1 ≤ second.1) :
    (sorted.orderedInsert (fun left right => left.1 ≤ right.1) entry).filter keep =
      if keep entry then
        (sorted.filter keep).orderedInsert (fun left right => left.1 ≤ right.1) entry
      else sorted.filter keep := by
  induction sorted with
  | nil => cases kept : keep entry <;> simp [kept]
  | cons head rest ih =>
      obtain ⟨least, later⟩ := List.pairwise_cons.mp ordered
      rw [List.orderedInsert_cons]
      by_cases below : entry.1 ≤ head.1
      · rw [if_pos below, List.filter_cons]
        have first : ∀ other ∈ (head :: rest).filter keep, entry.1 ≤ other.1 := by
          intro other member
          obtain rfl | member := List.mem_cons.mp (List.mem_of_mem_filter member)
          · exact below
          · exact below.trans (least other member)
        cases kept : keep entry with
        | false => rfl
        | true =>
            rw [if_pos rfl, if_pos rfl]
            cases shape : (head :: rest).filter keep with
            | nil => rfl
            | cons other others =>
                rw [List.orderedInsert_cons, if_pos (first other (shape ▸ List.mem_cons_self))]
      · rw [if_neg below, List.filter_cons, ih later, List.filter_cons]
        cases kept : keep entry with
        | false => rfl
        | true =>
            cases keep head with
            | false => rfl
            | true => simp [below]

theorem sortKeys_filter (keep : JsString × A → Bool) (props : Props A) :
    (sortKeys props).filter keep = sortKeys (props.filter keep) := by
  induction props with
  | nil => rfl
  | cons entry rest ih =>
      have inserted := filter_orderedInsert keep entry (sortKeys_pairwise rest)
      rw [ih] at inserted
      refine inserted.trans ?_
      rw [List.filter_cons]
      split
      · rfl
      · rfl

theorem mapValues_sortKeys (f : A → B) (props : Props A) :
    mapValues f (sortKeys props) = sortKeys (mapValues f props) :=
  List.map_insertionSort _ _ _ _ fun _ _ _ _ => Iff.rfl

theorem mapValues_enumerate (f : A → B) (props : Props A) :
    mapValues f (enumerate props) = enumerate (mapValues f props) :=
  List.map_insertionSort _ _ _ _ fun _ _ _ _ => Iff.rfl

theorem lookup_setOwn (props : Props A) (key : JsString) (value : A) (other : JsString) :
    (setOwn props key value).lookup other =
      if other = key then some value else props.lookup other := by
  induction props with
  | nil => rw [setOwn, lookup_cons_if]
  | cons property rest ih =>
      obtain ⟨name, old⟩ := property
      rw [setOwn, lookup_cons_if]
      split
      · next found =>
          subst found
          rw [lookup_cons_if]
          split <;> rfl
      · next different =>
          rw [lookup_cons_if, ih]
          by_cases same : other = name <;> simp [same, different]

theorem setOwn_nodup {props : Props A} (distinct : (keys props).Nodup) (key : JsString)
    (value : A) : (keys (setOwn props key value)).Nodup := by
  induction props with
  | nil => simp [setOwn, keys]
  | cons property rest ih =>
      obtain ⟨name, old⟩ := property
      obtain ⟨fresh, restDistinct⟩ := List.nodup_cons.mp distinct
      rw [setOwn]
      split
      · next found => exact found ▸ distinct
      · next different =>
          refine List.nodup_cons.mpr ⟨?_, ih restDistinct⟩
          change name ∉ keys (setOwn rest key value)
          rw [← lookup_eq_none, lookup_setOwn, if_neg different]
          exact lookup_eq_none.mpr fresh

theorem setOwn_of_notMem {props : Props A} {key : JsString} {value : A}
    (fresh : key ∉ keys props) : setOwn props key value = props ++ [(key, value)] := by
  induction props with
  | nil => rfl
  | cons property rest ih =>
      obtain ⟨other, old⟩ := property
      simp only [keys, List.map_cons, List.mem_cons, not_or] at fresh
      rw [setOwn, if_neg (Ne.symm fresh.1), ih fresh.2]
      rfl

/-- Defining distinct names one after another builds the list itself. -/
theorem defineAll_of_nodup {entries : Props A} (distinct : (keys entries).Nodup) :
    defineAll entries = entries := by
  have built (front back : Props A) (distinct : (keys (front ++ back)).Nodup) :
      back.foldl (fun props entry => setOwn props entry.1 entry.2) front = front ++ back := by
    induction back generalizing front with
    | nil => simp
    | cons entry back ih =>
        have whole : front ++ entry :: back = front ++ [(entry.1, entry.2)] ++ back := by simp
        have fresh : entry.1 ∉ keys front := by
          intro member
          rw [keys, List.map_append, List.nodup_append] at distinct
          exact distinct.2.2 _ member _ (by simp) rfl
        rw [List.foldl_cons, setOwn_of_notMem fresh, whole]
        exact ih _ (whole ▸ distinct)
  exact built [] entries distinct

end Adjudicate.Js
