/-
This file shows that the canonical encoder throws exactly on numbers that are not finite.
-/

import Adjudicate.Canonical.Canonicalize

namespace Adjudicate.Canonical

open Js

mutual

/-- Every number that the encoder reaches is finite. -/
def AllFinite : JsValue → Prop
  | .num number => number.isFinite = true
  | .arr items => AllFiniteItems items
  | .obj props => AllFiniteProps props
  | _ => True

def AllFiniteItems : List JsValue → Prop
  | [] => True
  | item :: items => AllFinite item ∧ AllFiniteItems items

def AllFiniteProps : Props JsValue → Prop
  | [] => True
  | (_, value) :: props => AllFinite value ∧ AllFiniteProps props

end

@[simp] theorem allFiniteItems_iff (items : List JsValue) :
    AllFiniteItems items ↔ ∀ item ∈ items, AllFinite item := by
  induction items with
  | nil => simp [AllFiniteItems]
  | cons item items ih => simp [AllFiniteItems, ih]

@[simp] theorem allFiniteProps_iff (props : Props JsValue) :
    AllFiniteProps props ↔ ∀ property ∈ props, AllFinite property.2 := by
  induction props with
  | nil => simp [AllFiniteProps]
  | cons property props ih => simp [AllFiniteProps, ih]

theorem allFinite_arr (items : List JsValue) :
    AllFinite (.arr items) ↔ ∀ item ∈ items, AllFinite item := by
  rw [AllFinite, allFiniteItems_iff]

theorem allFinite_obj (props : Props JsValue) :
    AllFinite (.obj props) ↔ ∀ property ∈ props, AllFinite property.2 := by
  rw [AllFinite, allFiniteProps_iff]

theorem allFinite_optionalProp (key : JsString) (value : Option JsValue) :
    (∀ property ∈ optionalProp key value, AllFinite property.2) ↔ ∀ inner ∈ value, AllFinite inner := by
  cases value <;> simp [optionalProp]

theorem allFinite_getOwn {payload : JsValue} (finite : AllFinite payload) (key : JsString) :
    AllFinite (payload.getOwn key) := by
  cases payload with
  | obj props =>
      rw [allFinite_obj] at finite
      cases found : props.lookup key with
      | none =>
          rw [JsValue.getOwn, found]
          trivial
      | some value =>
          rw [JsValue.getOwn, found]
          exact finite _ (mem_of_lookup found)
  | _ => trivial

/-- The copy loop returns exactly when every result is a value. -/
theorem assignAll_returns (entries : Props (Except Thrown JsValue)) (out : Props JsValue) :
    (∃ copied, assignAll out entries = .ok copied) ↔ ∀ entry ∈ entries, ∃ value, entry.2 = .ok value := by
  induction entries generalizing out with
  | nil => simp [assignAll]
  | cons entry entries ih =>
      obtain ⟨key, result⟩ := entry
      rw [assignAll, List.forall_mem_cons]
      cases result with
      | error raised =>
          constructor
          · intro ⟨copied, returned⟩
            cases returned
          · intro ⟨⟨value, same⟩, _⟩
            cases same
      | ok value =>
          rw [ok_bind, ih]
          simp

variable (host : Host)

theorem mem_canonicalizeEntries (props : Props JsValue) (entry : JsString × Except Thrown JsValue) :
    entry ∈ canonicalizeEntries host props ↔
      ∃ property ∈ props, property.2.isUndefined = false ∧
        entry = (property.1, canonicalize host property.2) := by
  induction props with
  | nil => simp [canonicalizeEntries]
  | cons property props ih =>
      obtain ⟨key, value⟩ := property
      rw [canonicalizeEntries]
      cases absent : value.isUndefined <;> simp [ih, absent]

theorem canonicalizeItems_returns {items : List JsValue}
    (each : ∀ item ∈ items, (∃ value, canonicalize host item = .ok value) ↔ AllFinite item) :
    (∃ values, canonicalizeItems host items = .ok values) ↔ ∀ item ∈ items, AllFinite item := by
  induction items with
  | nil => simp [canonicalizeItems]
  | cons item items ih =>
      obtain ⟨head, tail⟩ := List.forall_mem_cons.mp each
      rw [canonicalizeItems, List.forall_mem_cons, ← head, ← ih tail]
      constructor
      · rintro ⟨values, returned⟩
        obtain ⟨value, first, rest⟩ := bind_eq_ok.mp returned
        obtain ⟨more, second, -⟩ := bind_eq_ok.mp rest
        exact ⟨⟨value, first⟩, more, second⟩
      · rintro ⟨⟨value, first⟩, more, second⟩
        exact ⟨value :: more, by rw [first, second]; rfl⟩

/-- The encoder returns exactly when every number is finite. -/
theorem canonicalize_returns (value : JsValue) :
    (∃ encoded, canonicalize host value = .ok encoded) ↔ AllFinite value := by
  induction value with
  | undefined => exact iff_of_true ⟨_, rfl⟩ trivial
  | null => exact iff_of_true ⟨_, rfl⟩ trivial
  | bool value => exact iff_of_true ⟨_, rfl⟩ trivial
  | str text => exact iff_of_true ⟨_, rfl⟩ trivial
  | num number =>
      rw [canonicalize, AllFinite]
      split
      · next finite => exact iff_of_true ⟨_, rfl⟩ finite
      · next infinite =>
          refine iff_of_false ?_ infinite
          rintro ⟨encoded, returned⟩
          cases returned
  | arr items ih =>
      rw [canonicalize, allFinite_arr, ← canonicalizeItems_returns host ih]
      constructor
      · rintro ⟨encoded, returned⟩
        obtain ⟨values, copied, -⟩ := bind_eq_ok.mp returned
        exact ⟨values, copied⟩
      · rintro ⟨values, copied⟩
        exact ⟨.arr values, by rw [copied]; rfl⟩
  | obj props ih =>
      have copies : (∃ encoded, canonicalize host (.obj props) = .ok encoded) ↔
          ∃ copied, assignAll [] (sortKeys (enumerate (canonicalizeEntries host props))) =
            .ok copied := by
        rw [canonicalize]
        constructor
        · rintro ⟨encoded, returned⟩
          obtain ⟨copied, same, -⟩ := bind_eq_ok.mp returned
          exact ⟨copied, same⟩
        · rintro ⟨copied, same⟩
          exact ⟨.obj copied, by rw [same]; rfl⟩
      rw [copies, assignAll_returns, allFinite_obj]
      constructor
      · intro each property inside
        cases absent : property.2.isUndefined with
        | true =>
            cases value : property.2 with
            | undefined => trivial
            | _ =>
                rw [value] at absent
                cases absent
        | false =>
            rw [← ih property inside]
            apply each (property.1, canonicalize host property.2)
            rw [(sortKeys_perm _).mem_iff, (enumerate_perm _).mem_iff, mem_canonicalizeEntries]
            exact ⟨property, inside, absent, rfl⟩
      · intro each entry inside
        rw [(sortKeys_perm _).mem_iff, (enumerate_perm _).mem_iff,
          mem_canonicalizeEntries] at inside
        obtain ⟨property, source, -, rfl⟩ := inside
        exact (ih property source).mpr (each property source)

theorem sha256Canonical_returns (value : JsValue) :
    (∃ digest, sha256Canonical host value = .ok digest) ↔ AllFinite value := by
  rw [← canonicalize_returns host, sha256Canonical, canonicalJson]
  cases canonicalize host value with
  | error raised =>
      constructor
      · rintro ⟨digest, returned⟩
        cases returned
      · rintro ⟨encoded, returned⟩
        cases returned
  | ok encoded => exact iff_of_true ⟨_, rfl⟩ ⟨_, rfl⟩

/-- The copy loop throws what one of its results throws. -/
theorem assignAll_raises {entries : Props (Except Thrown JsValue)} {out : Props JsValue}
    {raised : Thrown} (throws : assignAll out entries = .error raised) :
    ∃ entry ∈ entries, entry.2 = .error raised := by
  induction entries generalizing out with
  | nil => cases throws
  | cons entry entries ih =>
      obtain ⟨key, result⟩ := entry
      rw [assignAll] at throws
      cases result with
      | error other =>
          cases throws
          exact ⟨_, List.mem_cons_self, rfl⟩
      | ok value =>
          obtain ⟨entry, inside, same⟩ := ih throws
          exact ⟨entry, List.mem_cons_of_mem _ inside, same⟩

theorem canonicalizeItems_raises {items : List JsValue} {raised : Thrown}
    (throws : canonicalizeItems host items = .error raised) :
    ∃ item ∈ items, canonicalize host item = .error raised := by
  induction items with
  | nil => cases throws
  | cons item items ih =>
      rw [canonicalizeItems] at throws
      cases first : canonicalize host item with
      | error other =>
          rw [first] at throws
          cases throws
          exact ⟨item, List.mem_cons_self, first⟩
      | ok value =>
          rw [first, ok_bind] at throws
          cases rest : canonicalizeItems host items with
          | error other =>
              rw [rest] at throws
              cases throws
              obtain ⟨found, inside, same⟩ := ih rest
              exact ⟨found, List.mem_cons_of_mem _ inside, same⟩
          | ok values =>
              rw [rest] at throws
              cases throws

/-- The encoder throws nothing but its own error. -/
theorem canonicalize_raises {value : JsValue} {raised : Thrown}
    (throws : canonicalize host value = .error raised) : ∃ number, raised = nonFiniteError number := by
  induction value with
  | num number =>
      rw [canonicalize] at throws
      split at throws
      · cases throws
      · cases throws
        exact ⟨number, rfl⟩
  | arr items ih =>
      rw [canonicalize] at throws
      cases copied : canonicalizeItems host items with
      | error other =>
          rw [copied] at throws
          cases throws
          obtain ⟨item, inside, same⟩ := canonicalizeItems_raises host copied
          exact ih item inside same
      | ok values =>
          rw [copied] at throws
          cases throws
  | obj props ih =>
      rw [canonicalize] at throws
      cases copied : assignAll [] (sortKeys (enumerate (canonicalizeEntries host props))) with
      | error other =>
          rw [copied] at throws
          cases throws
          obtain ⟨entry, inside, same⟩ := assignAll_raises copied
          rw [(sortKeys_perm _).mem_iff, (enumerate_perm _).mem_iff,
            mem_canonicalizeEntries] at inside
          obtain ⟨property, source, -, rfl⟩ := inside
          exact ih property source same
      | ok values =>
          rw [copied] at throws
          cases throws
  | _ => cases throws

theorem sha256Canonical_raises {value : JsValue} {raised : Thrown}
    (throws : sha256Canonical host value = .error raised) :
    ∃ number, raised = nonFiniteError number := by
  rw [sha256Canonical, canonicalJson] at throws
  cases encoded : canonicalize host value with
  | error other =>
      rw [encoded] at throws
      cases throws
      exact canonicalize_raises host encoded
  | ok tree =>
      rw [encoded] at throws
      cases throws

end Adjudicate.Canonical
