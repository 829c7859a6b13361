/-
This file models the canonical JSON encoder and the hash over its output.
-/

import Adjudicate.Js.Value

namespace Adjudicate.Canonical

open Js

/-- A code unit below 128 is an ASCII character. -/
def isAscii (unit : CodeUnit) : Bool := unit.val < 128

/-- The host supplies Unicode normalization and SHA-256 over UTF-8 as hexadecimal text. -/
structure Host where
  nfc : JsString → JsString
  nfc_ascii : ∀ text : JsString, text.all isAscii → nfc text = text
  sha256Hex : JsString → JsString

/-- Different well-formed texts have different digests. -/
def Host.CollisionFree (host : Host) : Prop :=
  ∀ left right : JsString, isWellFormed left = true → isWellFormed right = true →
    host.sha256Hex left = host.sha256Hex right → left = right

/-- The host of ASCII text looks its digests up and marks every other text instead. -/
def Host.ofDigests (digests : Props JsString) : Host where
  nfc := id
  nfc_ascii := fun _ _ => rfl
  sha256Hex text := (digests.lookup text).getD ("sha256:" ++ text)

/-- Listed digests that differ from each other and from every mark do not collide. -/
theorem Host.ofDigests_collisionFree {digests : Props JsString}
    (distinct : (digests.map Prod.snd).Nodup)
    (unmarked : ∀ digest ∈ digests, ¬(utf16 "sha256:").isPrefixOf digest.2) :
    (Host.ofDigests digests).CollisionFree := by
  have source {text digest : JsString} (found : digests.lookup text = some digest) :
      (text, digest) ∈ digests := by
    clear distinct unmarked
    induction digests with
    | nil => cases found
    | cons entry rest ih =>
        rw [show entry = (entry.1, entry.2) from rfl, List.lookup_cons] at found
        by_cases same : text = entry.1
        · have value : entry.2 = digest := by simpa [same] using found
          simp [same, ← value]
        · have missed : (text == entry.1) = false := by simpa using same
          rw [missed] at found
          exact List.mem_cons_of_mem _ (ih found)
  have listed {text other digest : JsString} (found : digests.lookup text = some digest) :
      digest ≠ utf16 "sha256:" ++ other := by
    intro same
    apply unmarked _ (source found)
    simp [same, List.isPrefixOf_iff_prefix]
  intro left right _ _ same
  simp only [Host.ofDigests] at same
  cases leftFound : digests.lookup left with
  | none =>
      cases rightFound : digests.lookup right with
      | none => simpa [leftFound, rightFound] using same
      | some digest =>
          rw [leftFound, rightFound] at same
          exact (listed rightFound same.symm).elim
  | some digest =>
      cases rightFound : digests.lookup right with
      | none =>
          rw [leftFound, rightFound] at same
          exact (listed leftFound same).elim
      | some other =>
          rw [leftFound, rightFound] at same
          have pairs := List.inj_on_of_nodup_map distinct (source leftFound) (source rightFound) same
          exact (Prod.mk.inj pairs).1

/-- This is the `RangeError` for a number that JSON cannot express. -/
def nonFiniteError (number : JsNumber) : Thrown :=
  .error "RangeError" ("canonical-JSON: non-finite number (" ++ number.toString ++
    utf16 ") has no canonical representation (RFC 8785 §3.2.2.3)")

/-- This is the loop that copies the sorted entries into the fresh object. -/
def assignAll (out : Props JsValue) :
    Props (Except Thrown JsValue) → Except Thrown (Props JsValue)
  | [] => .ok out
  | (key, result) :: entries => do
      let value ← result
      assignAll (assign out key value) entries

variable (host : Host)

mutual

/-- An absent value becomes `null`, strings are normalized, and entries are sorted by name. -/
def canonicalize : JsValue → Except Thrown JsValue
  | .undefined => .ok .null
  | .null => .ok .null
  | .str text => .ok (.str (host.nfc text))
  | .num number =>
      if number.isFinite then .ok (.num number) else .error (nonFiniteError number)
  | .bool value => .ok (.bool value)
  | .arr items => do return .arr (← canonicalizeItems items)
  | .obj props => do
      return .obj (← assignAll [] (sortKeys (enumerate (canonicalizeEntries props))))

def canonicalizeItems : List JsValue → Except Thrown (List JsValue)
  | [] => .ok []
  | item :: items => do return (← canonicalize item) :: (← canonicalizeItems items)

-- The copy loop reads each result when it reaches the key, so the results stay suspended here.
def canonicalizeEntries : Props JsValue → Props (Except Thrown JsValue)
  | [] => []
  | (key, value) :: props =>
      if value.isUndefined then canonicalizeEntries props
      else (key, canonicalize value) :: canonicalizeEntries props

end

def canonicalJson (value : JsValue) : Except Thrown JsString := do
  return (← canonicalize host value).stringify.getD []

def sha256Canonical (value : JsValue) : Except Thrown JsString := do
  return host.sha256Hex (← canonicalJson host value)

section Tree

variable (layout : Props Json → Props Json)

mutual

/-- This is the printed tree of a JSON value whose layout arranges the members of each object. -/
def layoutTree : JsValue → Json
  | .undefined => .null
  | .null => .null
  | .str text => .str (host.nfc text)
  | .num number => .num number.toString
  | .bool value => .bool value
  | .arr items => .arr (layoutItems items)
  | .obj props => .obj (layout (layoutMembers props))

def layoutItems : List JsValue → List Json
  | [] => []
  | item :: items => layoutTree item :: layoutItems items

def layoutMembers : Props JsValue → Props Json
  | [] => []
  | (key, value) :: props =>
      if value.isUndefined then layoutMembers props
      else (key, layoutTree value) :: layoutMembers props

end

def definedProps (props : Props JsValue) : Props JsValue :=
  props.filter fun property => !property.2.isUndefined

theorem definedProps_nodup {props : Props JsValue} (distinct : (keys props).Nodup) :
    (keys (definedProps props)).Nodup :=
  distinct.sublist (List.filter_sublist.map _)

theorem mem_definedProps {props : Props JsValue} {property : JsString × JsValue} :
    property ∈ definedProps props ↔ property ∈ props ∧ property.2.isUndefined = false := by
  simp [definedProps]

@[simp] theorem layoutItems_eq (items : List JsValue) :
    layoutItems host layout items = items.map (layoutTree host layout) := by
  induction items with
  | nil => rfl
  | cons item items ih => rw [layoutItems, ih, List.map_cons]

/-- The members are the defined properties with their trees. -/
theorem layoutMembers_eq (props : Props JsValue) :
    layoutMembers host layout props =
      mapValues (layoutTree host layout) (definedProps props) := by
  induction props with
  | nil => rfl
  | cons property props ih =>
      obtain ⟨key, value⟩ := property
      rw [layoutMembers, ih]
      cases absent : value.isUndefined <;> simp [mapValues, definedProps, absent]

theorem layoutMembers_nodup {props : Props JsValue} (distinct : (keys props).Nodup) :
    (keys (layoutMembers host layout props)).Nodup := by
  rw [layoutMembers_eq, keys_mapValues]
  exact definedProps_nodup distinct

/-- A layout that adds no member gives a tree with valid number tokens. -/
theorem layoutTree_valid (kept : ∀ members, layout members ⊆ members) (value : JsValue)
    (json : value.IsJson) : (layoutTree host layout value).Valid := by
  induction value with
  | undefined => exact json.elim
  | null => trivial
  | bool value => trivial
  | num number => exact toString_isNumberToken number json
  | str text => trivial
  | arr items ih =>
      rw [JsValue.IsJson, isJsonItems_iff] at json
      rw [layoutTree, Json.Valid, validItems_iff, layoutItems_eq]
      intro tree inside
      obtain ⟨item, itemIn, rfl⟩ := List.mem_map.mp inside
      exact ih item itemIn (json item itemIn)
  | obj props ih =>
      rw [JsValue.IsJson, isJsonProps_iff] at json
      rw [layoutTree, Json.Valid, validMembers_iff]
      intro member inside
      have source := kept _ inside
      rw [layoutMembers_eq] at source
      obtain ⟨property, propertyIn, rfl⟩ := List.mem_map.mp source
      obtain ⟨propertyIn, present⟩ := mem_definedProps.mp propertyIn
      exact ih property propertyIn (json.2 property propertyIn present)

end Tree

/-- The encoder sorts the members, loses the prototype name, and prints in enumeration order. -/
def encoderLayout (members : Props Json) : Props Json :=
  enumerate (deleteOwn (sortKeys members) protoKey)

/-- This is the tree that the canonical text of a JSON value prints. -/
abbrev canonicalTree : JsValue → Json := layoutTree host encoderLayout

theorem encoderLayout_perm (members : Props Json) :
    (encoderLayout members).Perm (deleteOwn members protoKey) :=
  (enumerate_perm _).trans ((sortKeys_perm members).filter _)

theorem assign_foldl (values out : Props JsValue) :
    values.foldl (fun out entry => assign out entry.1 entry.2) out =
      (deleteOwn values protoKey).foldl (fun out entry => setOwn out entry.1 entry.2) out := by
  induction values generalizing out with
  | nil => rfl
  | cons entry values ih =>
      rw [List.foldl_cons, ih, assign]
      cases decEq entry.1 protoKey with
      | isTrue same => simp [deleteOwn, same]
      | isFalse different => simp [deleteOwn, different]

/-- When no entry throws, the copy loses the prototype name and nothing else. -/
theorem assignAll_ok {values : Props JsValue} (distinct : (keys values).Nodup) :
    assignAll [] (mapValues Except.ok values) = .ok (deleteOwn values protoKey) := by
  have loop (values out : Props JsValue) : assignAll out (mapValues Except.ok values) =
      .ok (values.foldl (fun out entry => assign out entry.1 entry.2) out) := by
    induction values generalizing out with
    | nil => rfl
    | cons entry values ih => exact ih (assign out entry.1 entry.2)
  have kept : (keys (deleteOwn values protoKey)).Nodup :=
    distinct.sublist (List.filter_sublist.map _)
  rw [loop, assign_foldl]
  exact congrArg Except.ok (defineAll_of_nodup kept)

theorem serializeProps_of_mapValues {values : Props JsValue} {members : Props Json}
    (same : mapValues JsValue.serialize values = mapValues some members) :
    serializeProps values = members := by
  induction values generalizing members with
  | nil =>
      cases members with
      | nil => rfl
      | cons member members => cases same
  | cons entry values ih =>
      cases members with
      | nil => cases same
      | cons member members =>
          obtain ⟨headSame, tailSame⟩ := List.cons.inj same
          obtain ⟨keySame, valueSame⟩ := Prod.mk.inj headSame
          rw [serializeProps_eq, List.filterMap_cons, ← serializeProps_eq, ih tailSame]
          change entry.2.serialize = some member.2 at valueSame
          rw [valueSame, Option.map_some, keySame]

theorem mapValues_deleteOwn {A B : Type} (f : A → B) (props : Props A) (key : JsString) :
    mapValues f (deleteOwn props key) = deleteOwn (mapValues f props) key := by
  simp [mapValues, deleteOwn, List.filter_map, Function.comp_def]

/-- The encoder returns a value whose serialization is the canonical tree. -/
def Encodes (value : JsValue) : Prop :=
  ∃ canonical, canonicalize host value = .ok canonical ∧
    canonical.serialize = some (canonicalTree host value)

theorem canonicalizeItems_encodes {items : List JsValue}
    (encoded : ∀ item ∈ items, Encodes host item) :
    ∃ values, canonicalizeItems host items = .ok values ∧
      serializeItems values = layoutItems host encoderLayout items := by
  induction items with
  | nil => exact ⟨[], rfl, rfl⟩
  | cons item items ih =>
      obtain ⟨head, headRun, headTree⟩ := encoded item (by simp)
      obtain ⟨tail, tailRun, tailTree⟩ := ih fun other inside => encoded other (by simp [inside])
      refine ⟨head :: tail, ?_, ?_⟩
      · rw [canonicalizeItems, headRun, tailRun]
        rfl
      · rw [serializeItems, headTree, tailTree, layoutItems]
        rfl

theorem canonicalizeEntries_encodes {props : Props JsValue}
    (encoded : ∀ property ∈ props, property.2.isUndefined = false → Encodes host property.2) :
    ∃ values, canonicalizeEntries host props = mapValues Except.ok values ∧
      mapValues JsValue.serialize values = mapValues some (layoutMembers host encoderLayout props) := by
  induction props with
  | nil => exact ⟨[], rfl, rfl⟩
  | cons property props ih =>
      obtain ⟨key, value⟩ := property
      obtain ⟨tail, tailRun, tailTree⟩ := ih fun other inside => encoded other (by simp [inside])
      rw [canonicalizeEntries, layoutMembers]
      cases absent : value.isUndefined with
      | true => exact ⟨tail, tailRun, tailTree⟩
      | false =>
          obtain ⟨head, headRun, headTree⟩ := encoded (key, value) (by simp) absent
          refine ⟨(key, head) :: tail, ?_, ?_⟩
          · rw [if_neg Bool.false_ne_true, headRun, tailRun]
            rfl
          · change (key, head.serialize) :: mapValues JsValue.serialize tail = _
            rw [headTree, tailTree]
            rfl

/-- Every JSON value is encoded as its canonical tree. -/
theorem canonicalize_json (value : JsValue) (json : value.IsJson) : Encodes host value := by
  induction value with
  | undefined => exact json.elim
  | null => exact ⟨.null, rfl, rfl⟩
  | bool value => exact ⟨.bool value, rfl, rfl⟩
  | num number =>
      change number.isFinite = true at json
      refine ⟨.num number, ?_, ?_⟩
      · rw [canonicalize, if_pos json]
      · rw [JsValue.serialize, if_pos json, canonicalTree, layoutTree]
  | str text => exact ⟨.str (host.nfc text), rfl, rfl⟩
  | arr items ih =>
      rw [JsValue.IsJson, isJsonItems_iff] at json
      obtain ⟨values, run, trees⟩ :=
        canonicalizeItems_encodes host fun item inside => ih item inside (json item inside)
      refine ⟨.arr values, ?_, ?_⟩
      · rw [canonicalize, run]
        rfl
      · rw [JsValue.serialize, trees, canonicalTree, layoutTree]
  | obj props ih =>
      rw [JsValue.IsJson, isJsonProps_iff] at json
      obtain ⟨values, run, trees⟩ := canonicalizeEntries_encodes host
        fun property inside present => ih property inside (json.2 property inside present)
      have sameKeys : keys values = keys (layoutMembers host encoderLayout props) := by
        rw [← keys_mapValues JsValue.serialize, trees, keys_mapValues]
      have fresh : (keys values).Nodup := sameKeys ▸ layoutMembers_nodup host encoderLayout json.1
      have order : sortKeys (enumerate values) = sortKeys values :=
        sortKeys_congr (enumerate_perm values)
          ((keys_perm (enumerate_perm values)).nodup_iff.mpr fresh)
      have members : serializeProps (deleteOwn (sortKeys values) protoKey) =
          deleteOwn (sortKeys (layoutMembers host encoderLayout props)) protoKey := by
        apply serializeProps_of_mapValues
        rw [mapValues_deleteOwn, mapValues_sortKeys, trees, ← mapValues_sortKeys,
          ← mapValues_deleteOwn]
      refine ⟨.obj (deleteOwn (sortKeys values) protoKey), ?_, ?_⟩
      · rw [canonicalize, run, ← mapValues_enumerate, ← mapValues_sortKeys, order,
          assignAll_ok ((keys_perm (sortKeys_perm values)).nodup_iff.mpr fresh)]
        rfl
      · rw [JsValue.serialize, members, canonicalTree, layoutTree, encoderLayout]

/-- The canonical text of a JSON value is the printed canonical tree. -/
theorem canonicalJson_eq {value : JsValue} (json : value.IsJson) :
    canonicalJson host value = .ok (canonicalTree host value).print := by
  obtain ⟨canonical, run, tree⟩ := canonicalize_json host value json
  rw [canonicalJson, run]
  change Except.ok (canonical.stringify.getD []) = _
  rw [JsValue.stringify, tree]
  rfl

/-- The canonical tree holds valid number tokens. -/
theorem canonicalTree_valid {value : JsValue} (json : value.IsJson) :
    (canonicalTree host value).Valid := by
  apply layoutTree_valid host encoderLayout _ value json
  intro members member inside
  exact List.mem_of_mem_filter ((encoderLayout_perm members).mem_iff.mp inside)

/-- Two JSON values have the same canonical text exactly when their trees agree. -/
theorem canonicalJson_eq_iff {left right : JsValue} (leftJson : left.IsJson)
    (rightJson : right.IsJson) :
    canonicalJson host left = canonicalJson host right ↔
      canonicalTree host left = canonicalTree host right := by
  rw [canonicalJson_eq host leftJson, canonicalJson_eq host rightJson, Except.ok.injEq]
  exact print_inj (canonicalTree_valid host leftJson) (canonicalTree_valid host rightJson)

end Adjudicate.Canonical
