/-
This file relates the canonical texts of a value and of a rearranged one.
-/

import Adjudicate.Canonical.Reload
import Adjudicate.Js.WireSchema

namespace Adjudicate.Canonical

open Js

variable {host : Host} {props : Props JsValue} {canonical : JsValue}

theorem canonicalizeEntries_eq (host : Host) (props : Props JsValue) :
    canonicalizeEntries host props = mapValues (canonicalize host) (definedProps props) := by
  induction props with
  | nil => rfl
  | cons property props ih =>
      obtain ⟨key, value⟩ := property
      rw [canonicalizeEntries, ih]
      cases absent : value.isUndefined <;> simp [mapValues, definedProps, absent]

theorem canonicalizeEntries_nodup (distinct : (keys props).Nodup) :
    (keys (canonicalizeEntries host props)).Nodup := by
  rw [canonicalizeEntries_eq, keys_mapValues]
  exact definedProps_nodup distinct

/-- The copy loop returns when no entry throws. -/
theorem assignAll_eq_ok {out result : Props JsValue} {entries : Props (Except Thrown JsValue)}
    (run : assignAll out entries = .ok result) :
    ∀ entry ∈ entries, ∃ value, entry.2 = .ok value := by
  induction entries generalizing out with
  | nil => exact nofun
  | cons entry entries ih =>
      obtain ⟨key, outcome⟩ := entry
      rw [assignAll, bind_eq_ok] at run
      obtain ⟨value, same, rest⟩ := run
      exact List.forall_mem_cons.mpr ⟨⟨value, same⟩, ih rest⟩

theorem eq_mapValues_ok {entries : Props (Except Thrown JsValue)}
    (returned : ∀ entry ∈ entries, ∃ value, entry.2 = .ok value) :
    ∃ values, entries = mapValues Except.ok values := by
  induction entries with
  | nil => exact ⟨[], rfl⟩
  | cons entry entries ih =>
      obtain ⟨⟨value, same⟩, rest⟩ := List.forall_mem_cons.mp returned
      obtain ⟨values, tail⟩ := ih rest
      refine ⟨(entry.1, value) :: values, ?_⟩
      rw [tail]
      change (entry.1, entry.2) :: _ = _
      rw [same]
      rfl

/-- An object has a canonical form when each of its defined properties has one. -/
theorem canonicalizeEntries_of_ok (run : canonicalize host (.obj props) = .ok canonical) :
    ∃ values, canonicalizeEntries host props = mapValues Except.ok values := by
  rw [canonicalize, bind_eq_ok] at run
  obtain ⟨result, copied, -⟩ := run
  apply eq_mapValues_ok
  intro entry inside
  apply assignAll_eq_ok copied
  exact ((sortKeys_perm _).trans (enumerate_perm _)).mem_iff.mpr inside

theorem canonicalize_obj {values : Props JsValue} (distinct : (keys props).Nodup)
    (each : canonicalizeEntries host props = mapValues Except.ok values) :
    canonicalize host (.obj props) = .ok (.obj (deleteOwn (sortKeys values) protoKey)) := by
  have fresh : (keys values).Nodup := by
    have entries := @canonicalizeEntries_nodup host props distinct
    rwa [each, keys_mapValues] at entries
  have order : sortKeys (enumerate values) = sortKeys values :=
    sortKeys_congr (enumerate_perm values)
      ((keys_perm (enumerate_perm values)).nodup_iff.mpr fresh)
  rw [canonicalize, each, ← mapValues_enumerate, ← mapValues_sortKeys, order,
    assignAll_ok ((keys_perm (sortKeys_perm values)).nodup_iff.mpr fresh)]
  rfl

theorem lookup_definedProps (distinct : (keys props).Nodup) (key : JsString) :
    (definedProps props).lookup key =
      if ((JsValue.obj props).getOwn key).isUndefined then none
      else some ((JsValue.obj props).getOwn key) := by
  apply Option.ext
  intro value
  rw [lookup_eq_some (definedProps_nodup distinct), mem_definedProps, JsValue.getOwn,
    ← lookup_eq_some distinct]
  cases found : props.lookup key with
  | none => simp [JsValue.isUndefined]
  | some other =>
      cases absent : other.isUndefined with
      | true =>
          simp only [Option.some.injEq, Option.getD_some, absent, if_true, reduceCtorEq, iff_false]
          rintro ⟨rfl, present⟩
          rw [absent] at present
          cases present
      | false =>
          simp only [Option.some.injEq, Option.getD_some, absent, Bool.false_eq_true, if_false,
            and_iff_left_iff_imp]
          rintro rfl
          exact absent

theorem lookup_canonicalizeEntries (distinct : (keys props).Nodup) (key : JsString) :
    (canonicalizeEntries host props).lookup key =
      if ((JsValue.obj props).getOwn key).isUndefined then none
      else some (canonicalize host ((JsValue.obj props).getOwn key)) := by
  rw [canonicalizeEntries_eq, lookup_mapValues, lookup_definedProps distinct]
  split <;> rfl

/-- The canonical form holds the canonical forms of the defined properties. -/
theorem canonicalize_getOwn (distinct : (keys props).Nodup)
    (run : canonicalize host (.obj props) = .ok canonical) :
    ∃ members, canonical = .obj members ∧ (keys members).Nodup ∧ ∀ key, key ≠ protoKey →
      if ((JsValue.obj props).getOwn key).isUndefined then
        (JsValue.obj members).getOwn key = .undefined
      else canonicalize host ((JsValue.obj props).getOwn key) =
        .ok ((JsValue.obj members).getOwn key) := by
  obtain ⟨values, each⟩ := canonicalizeEntries_of_ok run
  rw [canonicalize_obj distinct each, Except.ok.injEq] at run
  have fresh : (keys values).Nodup := by
    have entries := @canonicalizeEntries_nodup host props distinct
    rwa [each, keys_mapValues] at entries
  have sorted := (keys_perm (sortKeys_perm values)).nodup_iff.mpr fresh
  refine ⟨_, run.symm, sorted.sublist (List.filter_sublist.map _), ?_⟩
  intro key kept
  have found := @lookup_canonicalizeEntries host props distinct key
  rw [each, lookup_mapValues] at found
  have kept : (JsValue.obj (deleteOwn (sortKeys values) protoKey)).getOwn key =
      (values.lookup key).getD .undefined := by
    rw [JsValue.getOwn, lookup_deleteOwn, if_neg kept, lookup_perm (sortKeys_perm values) sorted]
  rw [kept]
  split
  · next absent =>
      rw [if_pos absent, Option.map_eq_none_iff] at found
      rw [found]
      rfl
  · next present =>
      rw [if_neg present, Option.map_eq_some_iff] at found
      obtain ⟨value, same, outcome⟩ := found
      rw [same]
      exact outcome.symm

theorem canonicalize_isDefined {value : JsValue} (run : canonicalize host value = .ok canonical) :
    canonical.isUndefined = false := by
  cases value with
  | num number =>
      rw [canonicalize] at run
      split at run
      · cases run
        rfl
      · cases run
  | arr items =>
      rw [canonicalize, bind_eq_ok] at run
      obtain ⟨values, -, ⟨⟩⟩ := run
      rfl
  | obj props =>
      rw [canonicalize, bind_eq_ok] at run
      obtain ⟨values, -, ⟨⟩⟩ := run
      rfl
  | _ =>
      cases run
      rfl

theorem canonicalizeItems_congr {lossy : Prop} {left right values : List JsValue}
    (length : left.length = right.length)
    (each : ∀ (index : Nat) (first second : JsValue), left[index]? = some first →
      right[index]? = some second → ∀ value, canonicalize host first = .ok value →
        ∃ other, canonicalize host second = .ok other ∧ (¬lossy → other = value))
    (run : canonicalizeItems host left = .ok values) :
    ∃ others, canonicalizeItems host right = .ok others ∧ (¬lossy → others = values) := by
  induction left generalizing right values with
  | nil =>
      cases right with
      | nil => exact ⟨values, run, fun _ => rfl⟩
      | cons _ _ => cases length
  | cons first left ih =>
      cases right with
      | nil => cases length
      | cons second right =>
          rw [canonicalizeItems, bind_eq_ok] at run
          obtain ⟨head, headRun, tailRun⟩ := run
          rw [bind_eq_ok] at tailRun
          obtain ⟨tail, tailRun, ⟨⟩⟩ := tailRun
          obtain ⟨other, headOther, sameHead⟩ := each 0 first second rfl rfl head headRun
          obtain ⟨others, tailOther, sameTail⟩ := ih (Nat.succ.inj length)
            (fun index => each (index + 1)) tailRun
          refine ⟨other :: others, ?_, fun whole => by rw [sameHead whole, sameTail whole]⟩
          rw [canonicalizeItems, headOther, tailOther]
          rfl

/-- A rearranged value has a canonical form, and it is the same one when nothing is lost. -/
theorem canonicalize_rearranged {lossy : Prop} {value wire : JsValue}
    (rearranged : Rearranged lossy value wire)
    (run : canonicalize host value = .ok canonical) :
    ∃ other, canonicalize host wire = .ok other ∧ (¬lossy → other = canonical) := by
  induction rearranged generalizing canonical with
  | same value => exact ⟨canonical, run, fun _ => rfl⟩
  | @arr left right length items ih =>
      rw [canonicalize, bind_eq_ok] at run
      obtain ⟨values, itemsRun, ⟨⟩⟩ := run
      obtain ⟨others, otherRun, same⟩ := canonicalizeItems_congr length
        (fun index first second firstAt secondAt value => ih index first second firstAt secondAt)
        itemsRun
      refine ⟨.arr others, ?_, fun whole => by rw [same whole]⟩
      rw [canonicalize, otherRun]
      rfl
  | @obj left right distinct source members ih =>
      obtain ⟨leftValues, leftEach⟩ := canonicalizeEntries_of_ok run
      -- Each defined property of the result comes from a defined property of the source.
      have returned (key : JsString)
          (present : ((JsValue.obj right).getOwn key).isUndefined = false) :
          ∃ value, canonicalize host ((JsValue.obj left).getOwn key) = .ok value := by
        have kept : ¬(lossy ∧ (JsValue.obj right).getOwn key = .undefined) := by
          rintro ⟨-, absent⟩
          rw [absent] at present
          cases present
        have defined := (members key kept).isUndefined.trans present
        have inside : (key, (JsValue.obj left).getOwn key) ∈ definedProps left := by
          refine mem_definedProps.mpr ⟨?_, defined⟩
          rw [JsValue.getOwn] at defined ⊢
          cases found : left.lookup key with
          | none =>
              rw [found] at defined
              cases defined
          | some value => exact mem_of_lookup found
        have entry : (key, canonicalize host ((JsValue.obj left).getOwn key)) ∈
            mapValues Except.ok leftValues := by
          rw [← leftEach, canonicalizeEntries_eq]
          exact List.mem_map.mpr ⟨_, inside, rfl⟩
        obtain ⟨pair, -, same⟩ := List.mem_map.mp entry
        exact ⟨pair.2, (congrArg Prod.snd same).symm⟩
      have step (key : JsString) (present : ((JsValue.obj right).getOwn key).isUndefined = false) :
          ∃ value other, canonicalize host ((JsValue.obj left).getOwn key) = .ok value ∧
            canonicalize host ((JsValue.obj right).getOwn key) = .ok other ∧
            (¬lossy → other = value) := by
        obtain ⟨value, valueRun⟩ := returned key present
        obtain ⟨other, otherRun, same⟩ := ih key (by
          rintro ⟨-, absent⟩
          rw [absent] at present
          cases present) valueRun
        exact ⟨value, other, valueRun, otherRun, same⟩
      obtain ⟨rightValues, rightEach⟩ :
          ∃ values, canonicalizeEntries host right = mapValues Except.ok values := by
        apply eq_mapValues_ok
        rintro ⟨key, outcome⟩ inside
        rw [← lookup_eq_some (canonicalizeEntries_nodup distinct),
          lookup_canonicalizeEntries distinct] at inside
        split at inside
        · cases inside
        · next present =>
            obtain ⟨value, other, -, otherRun, -⟩ := step key (Bool.not_eq_true _ ▸ present)
            cases inside
            exact ⟨other, otherRun⟩
      refine ⟨_, canonicalize_obj distinct rightEach, fun whole => ?_⟩
      have leftDistinct := source.resolve_left whole
      have canonicalSame := (canonicalize_obj leftDistinct leftEach).symm.trans run
      rw [← Except.ok.inj canonicalSame]
      have perm : rightValues.Perm leftValues := by
        have freshLeft := @canonicalizeEntries_nodup host left leftDistinct
        have freshRight := @canonicalizeEntries_nodup host right distinct
        rw [leftEach, keys_mapValues] at freshLeft
        rw [rightEach, keys_mapValues] at freshRight
        apply perm_of_lookup freshRight freshLeft
        intro key
        have leftFound := @lookup_canonicalizeEntries host left leftDistinct key
        have rightFound := @lookup_canonicalizeEntries host right distinct key
        rw [leftEach, lookup_mapValues] at leftFound
        rw [rightEach, lookup_mapValues] at rightFound
        have absence := (members key fun both => whole both.1).isUndefined
        have same : (rightValues.lookup key).map (Except.ok (ε := Thrown)) =
            (leftValues.lookup key).map Except.ok := by
          rw [rightFound, leftFound, absence]
          split
          · rfl
          · next present =>
              obtain ⟨value, other, valueRun, otherRun, equal⟩ :=
                step key (Bool.not_eq_true _ ▸ present)
              rw [valueRun, otherRun, equal whole]
        exact Option.map_injective (fun _ _ => Except.ok.inj) same
      have fresh : (keys rightValues).Nodup := by
        have entries := @canonicalizeEntries_nodup host right distinct
        rwa [rightEach, keys_mapValues] at entries
      rw [sortKeys_congr perm fresh]

theorem sha256Canonical_eq_ok {value : JsValue} {hash : JsString} :
    sha256Canonical host value = .ok hash ↔ ∃ form, canonicalize host value = .ok form ∧
      hash = host.sha256Hex (form.stringify.getD []) := by
  rw [sha256Canonical, canonicalJson]
  cases run : canonicalize host value with
  | error raised => exact iff_of_false (by rintro ⟨⟩) (by rintro ⟨_, ⟨⟩, _⟩)
  | ok form =>
      change Except.ok _ = Except.ok hash ↔ _
      simp only [Except.ok.injEq, exists_eq_left']
      exact eq_comm

/-- A lossless rearrangement keeps the hash, and a lossy one has a hash. -/
theorem sha256Canonical_rearranged {lossy : Prop} {value wire : JsValue} {hash : JsString}
    (rearranged : Rearranged lossy value wire) (hashed : sha256Canonical host value = .ok hash) :
    ∃ other, sha256Canonical host wire = .ok other ∧ (¬lossy → other = hash) := by
  obtain ⟨form, run, rfl⟩ := sha256Canonical_eq_ok.mp hashed
  obtain ⟨other, otherRun, same⟩ := canonicalize_rearranged rearranged run
  refine ⟨_, sha256Canonical_eq_ok.mpr ⟨other, otherRun, rfl⟩, fun whole => ?_⟩
  rw [same whole]

/-- The canonical texts of the values are read back as the same value. -/
def SameText (host : Host) (left right : JsValue) : Prop :=
  ∃ leftForm rightForm, canonicalize host left = .ok leftForm ∧
    canonicalize host right = .ok rightForm ∧ reload leftForm = reload rightForm

theorem stringify_isWellFormed (value : JsValue) :
    isWellFormed (value.stringify.getD []) = true := by
  rw [JsValue.stringify]
  cases printed : value.serialize with
  | none => rfl
  | some tree => exact print_isWellFormed tree (serialize_valid value tree printed)

/-- Without collisions, equal hashes mean equal texts. -/
theorem sameText_of_sha256Canonical (free : host.CollisionFree) {left right : JsValue}
    {hash : JsString} (leftHash : sha256Canonical host left = .ok hash)
    (rightHash : sha256Canonical host right = .ok hash) : SameText host left right := by
  obtain ⟨leftForm, leftRun, rfl⟩ := sha256Canonical_eq_ok.mp leftHash
  obtain ⟨rightForm, rightRun, same⟩ := sha256Canonical_eq_ok.mp rightHash
  refine ⟨leftForm, rightForm, leftRun, rightRun, ?_⟩
  have texts := free _ _ (stringify_isWellFormed leftForm) (stringify_isWellFormed rightForm) same
  obtain ⟨leftTree, leftText⟩ := serialize_isSome (canonicalize_isDefined leftRun)
  obtain ⟨rightTree, rightText⟩ := serialize_isSome (canonicalize_isDefined rightRun)
  rw [JsValue.stringify, leftText, JsValue.stringify, rightText] at texts
  rw [reload, JsValue.stringify, leftText, reload, JsValue.stringify, rightText]
  exact congrArg (fun text : JsString => (JsValue.parse text).getD .undefined) texts

/-- Objects with the same text agree on which properties are defined, and these have the same
texts. -/
theorem SameText.getOwn {left right : Props JsValue} (same : SameText host (.obj left) (.obj right))
    (leftDistinct : (keys left).Nodup) (rightDistinct : (keys right).Nodup) {key : JsString}
    (kept : key ≠ protoKey) :
    ((JsValue.obj left).getOwn key).isUndefined = ((JsValue.obj right).getOwn key).isUndefined ∧
      (((JsValue.obj left).getOwn key).isUndefined = false →
        SameText host ((JsValue.obj left).getOwn key) ((JsValue.obj right).getOwn key)) := by
  obtain ⟨_, _, leftRun, rightRun, reloaded⟩ := same
  obtain ⟨leftMembers, rfl, leftFresh, leftMember⟩ := canonicalize_getOwn leftDistinct leftRun
  obtain ⟨rightMembers, rfl, rightFresh, rightMember⟩ := canonicalize_getOwn rightDistinct rightRun
  have member := congrArg (fun value => value.getOwn key) reloaded
  rw [getOwn_reload leftFresh, getOwn_reload rightFresh] at member
  have leftFound := leftMember key kept
  have rightFound := rightMember key kept
  have defined := congrArg JsValue.isUndefined member
  rw [isUndefined_reload, isUndefined_reload] at defined
  have absence {props members : Props JsValue}
      (found : if ((JsValue.obj props).getOwn key).isUndefined then
          (JsValue.obj members).getOwn key = .undefined
        else canonicalize host ((JsValue.obj props).getOwn key) =
          .ok ((JsValue.obj members).getOwn key)) :
      ((JsValue.obj members).getOwn key).isUndefined =
        ((JsValue.obj props).getOwn key).isUndefined := by
    cases present : ((JsValue.obj props).getOwn key).isUndefined with
    | true =>
        rw [present, if_pos rfl] at found
        rw [found]
        rfl
    | false =>
        rw [present, if_neg Bool.false_ne_true] at found
        exact canonicalize_isDefined found
  rw [absence leftFound, absence rightFound] at defined
  refine ⟨defined, fun present => ?_⟩
  rw [present, if_neg Bool.false_ne_true] at leftFound
  rw [← defined, present, if_neg Bool.false_ne_true] at rightFound
  exact ⟨_, _, leftFound, rightFound, member⟩

end Adjudicate.Canonical
