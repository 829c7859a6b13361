/-
This file models reading and writing a value at a path of property names.
-/

import Adjudicate.Js.Value

namespace Adjudicate.Js

namespace JsValue

def isObject : JsValue → Bool
  | .arr _ => true
  | .obj _ => true
  | _ => false

/-- Only an object or an array has children. -/
def child (value : JsValue) (key : JsString) : Option JsValue :=
  if value.isObject then value.ownProps.lookup key else none

def walk : JsValue → List JsString → Option JsValue
  | value, [] => some value
  | value, key :: rest => (value.child key).bind fun next => walk next rest

/-- This is `cursor[key] = value`; a write to an array stays within its items. -/
def putChild (value : JsValue) (key : JsString) (new : JsValue) : JsValue :=
  match value with
  | .obj props => .obj (if key ∈ keys props then setOwn props key new else assign props key new)
  | .arr items =>
      .arr (items.mapIdx fun index item => if digitsText index = key then new else item)
  | other => other

/-- Nothing happens when a node on the way is missing or is no object. -/
def putPath : JsValue → List JsString → JsValue → JsValue
  | root, [], _ => root
  | root, [key], new => root.putChild key new
  | root, key :: next :: rest, new =>
      match root.child key with
      | none => root
      | some node =>
          if node.isObject then root.putChild key (putPath node (next :: rest) new) else root

/-- What a node is apart from its children. -/
def outline : JsValue → JsValue
  | .arr _ => .arr []
  | .obj _ => .obj []
  | value => value

end JsValue

/-- The values have the same nodes outside the subtrees at the targets. -/
def SameOutside (targets : List (List JsString)) (left right : JsValue) : Prop :=
  ∀ path, (∀ target ∈ targets, ¬target <+: path) →
    (left.walk path).map JsValue.outline = (right.walk path).map JsValue.outline

/-- The values have the same nodes, except that a target may hold another text. -/
def Retexted (targets : List (List JsString)) (left right : JsValue) : Prop :=
  ∀ path, (left.walk path).map JsValue.outline = (right.walk path).map JsValue.outline ∨
    path ∈ targets ∧ ∃ before after, left.walk path = some (.str before) ∧
      right.walk path = some (.str after)

namespace JsValue

@[simp] theorem outline_putChild (value : JsValue) (key : JsString) (new : JsValue) :
    (value.putChild key new).outline = value.outline := by
  cases value <;> rfl

/-- Overwriting a name that is there changes this name only. -/
theorem lookup_overwrite {A : Type} {props : Props A} (written : JsString) (new : A)
    (key : JsString) :
    List.lookup key (props.map fun property =>
        (property.1, if property.1 = written then new else property.2)) =
      if key = written then (props.lookup key).map fun _ => new else props.lookup key := by
  induction props with
  | nil => simp
  | cons property props ih =>
      obtain ⟨name, old⟩ := property
      rw [List.map_cons, lookup_cons_if, lookup_cons_if, ih]
      by_cases same : key = name
      · subst same
        by_cases here : key = written <;> simp [here]
      · simp [same]

theorem child_putChild {value old : JsValue} {written : JsString}
    (present : value.child written = some old) (new : JsValue) (key : JsString) :
    (value.putChild written new).child key =
      if key = written then some new else value.child key := by
  cases value with
  | obj props =>
      change props.lookup written = some old at present
      have inside : written ∈ keys props := by
        by_contra missing
        rw [lookup_eq_none.mpr missing] at present
        cases present
      simp only [putChild, if_pos inside]
      exact lookup_setOwn props written new key
  | arr items =>
      change (JsValue.arr items).ownProps.lookup written = some old at present
      have overwritten : ((JsValue.arr items).putChild written new).ownProps =
          (JsValue.arr items).ownProps.map fun property =>
            (property.1, if property.1 = written then new else property.2) := by
        simp only [putChild, ownProps, List.mapIdx_mapIdx]
        exact List.ext_getElem (by simp) (by simp)
      change List.lookup key ((JsValue.arr items).putChild written new).ownProps =
        if key = written then some new else (JsValue.arr items).ownProps.lookup key
      rw [overwritten, lookup_overwrite]
      split
      · next same => rw [same, present, Option.map_some]
      · rfl
  | undefined | null | bool | num | str => cases present

@[simp] theorem walk_nil (value : JsValue) : value.walk [] = some value := rfl

theorem walk_cons (value : JsValue) (key : JsString) (rest : List JsString) :
    value.walk (key :: rest) = (value.child key).bind fun next => next.walk rest := rfl

theorem walk_str (text key : JsString) (rest : List JsString) :
    (JsValue.str text).walk (key :: rest) = none := rfl

theorem walk_append (value : JsValue) (front back : List JsString) :
    value.walk (front ++ back) = (value.walk front).bind fun node => node.walk back := by
  induction front generalizing value with
  | nil => rfl
  | cons key front ih =>
      rw [List.cons_append, walk_cons, walk_cons, Option.bind_assoc]
      exact congrArg _ (funext fun next => ih next)

end JsValue

/-- A text over a text changes no node but this one. -/
theorem retexted_putPath {path : List JsString} (nonempty : path ≠ []) {root : JsValue}
    {old : JsString} (read : root.walk path = some (.str old)) (new : JsString) :
    Retexted [path] root (root.putPath path (.str new)) := by
  induction path generalizing root with
  | nil => exact absurd rfl nonempty
  | cons key rest ih =>
      obtain ⟨node, present, below⟩ := Option.bind_eq_some_iff.mp read
      cases rest with
      | nil =>
          obtain rfl := Option.some.inj below
          intro path
          cases path with
          | nil => exact .inl (by simp [JsValue.putPath])
          | cons first others =>
              rw [JsValue.putPath, JsValue.walk_cons, JsValue.walk_cons,
                JsValue.child_putChild present]
              by_cases same : first = key
              · subst same
                rw [if_pos rfl, present]
                cases others with
                | nil => exact .inr ⟨by simp, old, new, rfl, rfl⟩
                | cons second others => exact .inl rfl
              · rw [if_neg same]
                exact .inl rfl
      | cons second rest =>
          have object : node.isObject = true := by
            cases node with
            | arr | obj => rfl
            | undefined | null | bool | num | str => cases below
          have written : root.putPath (key :: second :: rest) (.str new) =
              root.putChild key (node.putPath (second :: rest) (.str new)) := by
            simp [JsValue.putPath, present, object]
          rw [written]
          intro path
          cases path with
          | nil => exact .inl (by simp)
          | cons first others =>
              rw [JsValue.walk_cons, JsValue.walk_cons, JsValue.child_putChild present]
              by_cases same : first = key
              · subst same
                rw [if_pos rfl, present]
                obtain kept | ⟨target, texts⟩ := ih (by simp) below others
                · exact .inl kept
                · refine .inr ⟨?_, texts⟩
                  simp_all
              · rw [if_neg same]
                exact .inl rfl

theorem Retexted.refl (targets : List (List JsString)) (value : JsValue) :
    Retexted targets value value := fun _ => .inl rfl

/-- A node that is a text stays a text. -/
theorem Retexted.text {targets : List (List JsString)} {left right : JsValue}
    (same : Retexted targets left right) {path : List JsString} {text : JsString}
    (read : left.walk path = some (.str text)) : ∃ after, right.walk path = some (.str after) := by
  obtain kept | ⟨-, before, after, -, found⟩ := same path
  · rw [read] at kept
    cases found : right.walk path with
    | none => simp [found] at kept
    | some node =>
        rw [found] at kept
        cases node <;> simp [JsValue.outline] at kept
        exact ⟨text, by rw [kept]⟩
  · exact ⟨after, found⟩

theorem Retexted.trans {first second : List (List JsString)} {left middle right : JsValue}
    (lower : Retexted first left middle) (upper : Retexted second middle right)
    {targets : List (List JsString)} (lowerTargets : first ⊆ targets)
    (upperTargets : second ⊆ targets) : Retexted targets left right := by
  intro path
  obtain kept | ⟨target, before, after, read, found⟩ := lower path
  · obtain kept' | ⟨target, before, after, read, found⟩ := upper path
    · exact .inl (kept.trans kept')
    · refine .inr ⟨upperTargets target, ?_⟩
      -- The text in the middle is the text on the left.
      rw [read] at kept
      cases known : left.walk path with
      | none => simp [known] at kept
      | some node =>
          rw [known] at kept
          cases node <;> simp [JsValue.outline] at kept
          exact ⟨_, after, rfl, found⟩
  · obtain ⟨last, final⟩ := upper.text found
    exact .inr ⟨lowerTargets target, before, last, read, final⟩

theorem Retexted.sameOutside {targets : List (List JsString)} {left right : JsValue}
    (same : Retexted targets left right) : SameOutside targets left right := by
  intro path outside
  obtain kept | ⟨target, -⟩ := same path
  · exact kept
  · exact absurd (List.prefix_refl path) (outside path target)

end Adjudicate.Js
