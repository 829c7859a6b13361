/-
This file compares the envelope guard with the schema of the envelope.
-/

import Adjudicate.Audit.Verify
import Adjudicate.Js.JsonSchema

namespace Adjudicate.Core

open Js Audit

def requiredEnvelopeKeys : List JsString :=
  ["version", "kind", "payload", "createdAt", "nonce", "actor", "taint", "origin", "intentHash"]

def optionalEnvelopeKeys : List JsString := ["resourceRefs"]

def expectedEnvelopeKeys : List JsString := requiredEnvelopeKeys ++ optionalEnvelopeKeys

def isText : JsValue → Bool
  | .str _ => true
  | _ => false

def isOneOf (texts : List JsString) : JsValue → Bool
  | .str text => texts.contains text
  | _ => false

def isNonEmptyText : JsValue → Bool
  | .str text => decide (0 < text.length)
  | _ => false

def isResourceRefs : JsValue → Bool
  | .obj props => props.all fun property => isText property.2
  | _ => false

def isEnvelopeVersion : JsValue → Bool
  | .num version => decide (version = intentEnvelopeVersion)
  | _ => false

/-- This is the last conjunction of the guard up to the actor. -/
def hasEnvelopeTexts (value : JsValue) : Bool :=
  isEnvelopeVersion (value.getOwn "version") && isText (value.getOwn "kind") &&
  isText (value.getOwn "createdAt") && isText (value.getOwn "nonce") &&
  isText (value.getOwn "intentHash")

/-- The actor is compared with `undefined` only, so a `null` is read. -/
def isIntentEnvelope (value : JsValue) : Except Thrown Bool := do
  match value with
  | .obj _ => pure ()
  | .arr _ => pure ()
  | _ => return false
  let names := keys value.ownProps
  if names.any fun name => !expectedEnvelopeKeys.contains name then return false
  if !requiredEnvelopeKeys.all names.contains then return false
  let refs := value.getOwn "resourceRefs"
  if !refs.isUndefined && !isResourceRefs refs then return false
  if !hasEnvelopeTexts value then return false
  let actor := value.getOwn "actor"
  if actor.isUndefined then return false
  let principal ← readProp actor "principal"
  if !isOneOf ["llm", "user", "system"] principal then return false
  if !isText (← readProp actor "sessionId") then return false
  let role ← readProp actor "role"
  if !(role.isUndefined || isNonEmptyText role) then return false
  return isOneOf ["SYSTEM", "TRUSTED", "UNTRUSTED"] (value.getOwn "taint") &&
    isOneOf ["Human", "Retrieved", "ExternalAPI", "LLM", "System"] (value.getOwn "origin")

/-- The value has the documented names, references that are texts, the version and its texts. -/
def isOutlined (value : JsValue) : Bool :=
  !((keys value.ownProps).any fun name => !expectedEnvelopeKeys.contains name) &&
  requiredEnvelopeKeys.all (keys value.ownProps).contains &&
  !(!(value.getOwn "resourceRefs").isUndefined && !isResourceRefs (value.getOwn "resourceRefs")) &&
  hasEnvelopeTexts value

def isAdmittedActor (actor : JsValue) : Bool :=
  isOneOf ["llm", "user", "system"] (actor.getOwn "principal") &&
  isText (actor.getOwn "sessionId") &&
  ((actor.getOwn "role").isUndefined || isNonEmptyText (actor.getOwn "role"))

def isAdmitted (value : JsValue) : Bool :=
  isOutlined value && isAdmittedActor (value.getOwn "actor") &&
  isOneOf ["SYSTEM", "TRUSTED", "UNTRUSTED"] (value.getOwn "taint") &&
  isOneOf ["Human", "Retrieved", "ExternalAPI", "LLM", "System"] (value.getOwn "origin")

/-- This is the pattern `^[a-f0-9]{64}$`. -/
def isHashText (text : JsString) : Bool :=
  text.length = 64 && text.all fun unit =>
    isDigit unit || (decide (0x61 ≤ unit.val) && decide (unit.val ≤ 0x66))

def isHash : JsValue → Bool
  | .str text => isHashText text
  | _ => false

/-- The texts that the guard leaves open are not empty, the hash looks like one, and the actor has
the documented names. -/
structure Strict (value : JsValue) : Prop where
  kind : isNonEmptyText (value.getOwn "kind")
  nonce : isNonEmptyText (value.getOwn "nonce")
  sessionId : isNonEmptyText ((value.getOwn "actor").getOwn "sessionId")
  hash : isHash (value.getOwn "intentHash")
  closed : ∀ name ∈ keys (value.getOwn "actor").ownProps,
    name ∈ [utf16 "principal", utf16 "sessionId", utf16 "role"]

def actorSchema : Schema :=
  .object ["principal", "sessionId"]
    [("principal", .enum ["llm", "user", "system"]), ("sessionId", .string 1 none),
      ("role", .string 1 none)] .never

/-- This is the schema document of the envelope; the format of a date is an annotation. -/
def intentEnvelopeSchema : Schema :=
  .object requiredEnvelopeKeys
    [("version", .const 2), ("kind", .string 1 none), ("payload", .any), ("createdAt", .string 0 none),
      ("nonce", .string 1 none), ("actor", actorSchema),
      ("taint", .enum ["SYSTEM", "TRUSTED", "UNTRUSTED"]),
      ("origin", .enum ["Human", "Retrieved", "ExternalAPI", "LLM", "System"]),
      ("resourceRefs", .object [] [] (.string 0 none)),
      ("intentHash", .string 0 (some isHashText))] .never

section Guard

theorem isOutlined_iff {value : JsValue} : isOutlined value = true ↔
    ((keys value.ownProps).any fun name => !expectedEnvelopeKeys.contains name) = false ∧
      requiredEnvelopeKeys.all (keys value.ownProps).contains = true ∧
      (!(value.getOwn "resourceRefs").isUndefined &&
        !isResourceRefs (value.getOwn "resourceRefs")) = false ∧
      hasEnvelopeTexts value = true := by
  simp only [isOutlined, Bool.and_eq_true, Bool.not_eq_true', and_assoc]

/-- Whatever is not in order before the actor is refused. -/
theorem isIntentEnvelope_of_not_outlined {value : JsValue} (other : isOutlined value = false) :
    isIntentEnvelope value = .ok false := by
  rw [← Bool.not_eq_true, isOutlined_iff] at other
  cases value with
  | obj props =>
      unfold isIntentEnvelope
      simp only
      split_ifs with extra missing refs texts actor
      iterate 5 rfl
      exact (other ⟨by simpa using extra, by simpa using missing, by simpa using refs,
        by simpa using texts⟩).elim
  | arr items =>
      unfold isIntentEnvelope
      simp only
      split_ifs with extra missing refs texts actor
      iterate 5 rfl
      exact (texts rfl).elim
  | _ => rfl

/-- The guard reads the actor only when everything before it is in order. -/
theorem isIntentEnvelope_of_outlined {props : Props JsValue} (outlined : isOutlined (.obj props) = true)
    (present : ((JsValue.obj props).getOwn "actor").isUndefined = false)
    (actor : (JsValue.obj props).getOwn "actor" ≠ .null) :
    isIntentEnvelope (.obj props) = .ok (isAdmitted (.obj props)) := by
  have read (key : JsString) : readProp ((JsValue.obj props).getOwn "actor") key =
      .ok (((JsValue.obj props).getOwn "actor").getOwn key) := by
    cases same : (JsValue.obj props).getOwn "actor" with
    | null => exact (actor same).elim
    | undefined =>
        rw [same] at present
        cases present
    | _ => rfl
  obtain ⟨extra, missing, refs, texts⟩ := isOutlined_iff.mp outlined
  unfold isIntentEnvelope
  simp only [extra, missing, refs, texts, present, read, ok_bind]
  simp only [isAdmitted, isAdmittedActor, outlined, Bool.true_and]
  cases isOneOf ["llm", "user", "system"]
      (((JsValue.obj props).getOwn "actor").getOwn "principal") with
  | false => rfl
  | true =>
      cases isText (((JsValue.obj props).getOwn "actor").getOwn "sessionId") with
      | false => rfl
      | true =>
          cases (((JsValue.obj props).getOwn "actor").getOwn "role").isUndefined ||
              isNonEmptyText (((JsValue.obj props).getOwn "actor").getOwn "role") <;> rfl

theorem isIntentEnvelope_null {props : Props JsValue} (outlined : isOutlined (.obj props) = true)
    (actor : (JsValue.obj props).getOwn "actor" = .null) :
    ∃ raised, isIntentEnvelope (.obj props) = .error raised := by
  obtain ⟨extra, missing, refs, texts⟩ := isOutlined_iff.mp outlined
  unfold isIntentEnvelope
  simp only [extra, missing, refs, texts, actor]
  exact ⟨_, rfl⟩

end Guard

section Schema

variable {props : Props JsValue} {name : JsString}

theorem validates_enum (texts : List JsString) (value : JsValue) :
    (Schema.enum texts).validates value = isOneOf texts value := by
  cases value <;> rfl

theorem validates_text (value : JsValue) : (Schema.string 0 none).validates value = isText value := by
  cases value <;> simp [Schema.validates, isText]

theorem validates_nonEmpty (value : JsValue) :
    (Schema.string 1 none).validates value = isNonEmptyText value := by
  cases value with
  | str text => simp [Schema.validates, isNonEmptyText, one_le_characterCount, List.length_pos_iff]
  | _ => simp [Schema.validates, isNonEmptyText]

theorem validates_version (value : JsValue) :
    (Schema.const intentEnvelopeVersion).validates value = isEnvelopeVersion value := by
  cases value <;> simp [Schema.validates, isEnvelopeVersion]

theorem validates_hash (value : JsValue) :
    (Schema.string 0 (some isHashText)).validates value = isHash value := by
  cases value <;> simp [Schema.validates, isHash]

theorem validates_refs (value : JsValue) :
    (Schema.object [] [] (.string 0 none)).validates value = isResourceRefs value := by
  cases value with
  | obj props =>
      rw [Bool.eq_iff_iff, validates_map, isResourceRefs, List.all_eq_true]
      simp only [validates_text]
  | _ => simp [Schema.validates, isResourceRefs]

theorem isText_of_nonEmpty {value : JsValue} (text : isNonEmptyText value = true) :
    isText value = true := by
  cases value with
  | str text => rfl
  | _ => cases text

/-- A property that is there is the one that is read. -/
theorem forall_lookup (present : name ∈ keys props) (wanted : JsValue → Prop) :
    (∀ value ∈ props.lookup name, wanted value) ↔ wanted ((JsValue.obj props).getOwn name) := by
  rw [JsValue.getOwn]
  cases found : props.lookup name with
  | none => exact absurd present (lookup_eq_none.mp found)
  | some value => simp

theorem forall_lookup_optional (defined : ∀ property ∈ props, property.2.isUndefined = false)
    (distinct : (keys props).Nodup) (wanted : JsValue → Prop) :
    (∀ value ∈ props.lookup name, wanted value) ↔
      ((JsValue.obj props).getOwn name).isUndefined = true ∨
        wanted ((JsValue.obj props).getOwn name) := by
  rw [JsValue.getOwn]
  cases found : props.lookup name with
  | none => simp [JsValue.isUndefined]
  | some value =>
      have there := defined _ ((lookup_eq_some distinct name value).mp found)
      simp_all

theorem mem_keys_of_getOwn (present : (JsValue.obj props).getOwn name ≠ .undefined) :
    name ∈ keys props := by
  by_contra absent
  exact present (by rw [JsValue.getOwn, lookup_eq_none.mpr absent]; rfl)

theorem toValue_defined {tree : Json} (same : tree.toValue = .obj props) :
    ∀ property ∈ props, property.2.isUndefined = false := by
  intro property member
  obtain ⟨inner, value⟩ := (toValue_obj same).2 property member
  rw [value]
  cases inner <;> rfl

/-- The schema of the actor asks for more than the guard. -/
theorem actorSchema_validates (tree : Json) :
    actorSchema.validates tree.toValue = true ↔
      isAdmittedActor tree.toValue = true ∧
        isNonEmptyText (tree.toValue.getOwn "sessionId") = true ∧
        ∀ name ∈ keys tree.toValue.ownProps,
          name ∈ [utf16 "principal", utf16 "sessionId", utf16 "role"] := by
  cases same : tree.toValue with
  | obj props =>
      have distinct := (toValue_obj same).1
      have defined := toValue_defined same
      rw [actorSchema, validates_closed (by decide) distinct]
      simp only [List.forall_mem_cons, List.not_mem_nil, false_implies, implies_true, and_true,
        validates_enum, validates_nonEmpty, isAdmittedActor, Bool.and_eq_true, Bool.or_eq_true,
        JsValue.ownProps, List.map_cons, List.map_nil]
      constructor
      · rintro ⟨⟨hasPrincipal, hasSession⟩, closed, principal, session, role⟩
        rw [forall_lookup hasPrincipal] at principal
        rw [forall_lookup hasSession] at session
        rw [forall_lookup_optional defined distinct] at role
        exact ⟨⟨⟨principal, isText_of_nonEmpty session⟩, role⟩, session, closed⟩
      · rintro ⟨⟨⟨principal, -⟩, role⟩, session, closed⟩
        have hasPrincipal : utf16 "principal" ∈ keys props :=
          mem_keys_of_getOwn fun absent => by rw [absent] at principal; cases principal
        have hasSession : utf16 "sessionId" ∈ keys props :=
          mem_keys_of_getOwn fun absent => by rw [absent] at session; cases session
        refine ⟨⟨hasPrincipal, hasSession⟩, closed, ?_, ?_, ?_⟩
        · exact (forall_lookup hasPrincipal _).mpr principal
        · exact (forall_lookup hasSession _).mpr session
        · exact (forall_lookup_optional defined distinct _).mpr role
  | _ => exact iff_of_false nofun fun both => by cases both.1

theorem getOwn_toValue {tree : Json} (same : tree.toValue = .obj props) (present : name ∈ keys props) :
    ∃ inner : Json, (JsValue.obj props).getOwn name = inner.toValue := by
  obtain ⟨⟨_, value⟩, member, rfl⟩ := List.mem_map.mp present
  obtain ⟨distinct, parsed⟩ := toValue_obj same
  obtain ⟨inner, value⟩ := parsed _ member
  rw [JsValue.getOwn, (lookup_eq_some distinct _ _).mpr member]
  exact ⟨inner, value⟩

theorem isAdmitted_obj {value : JsValue} (admitted : isAdmitted value = true) :
    ∃ props, value = .obj props := by
  cases value with
  | obj props => exact ⟨props, rfl⟩
  | _ => simp [isAdmitted, isAdmittedActor, isOneOf, JsValue.getOwn] at admitted

theorem isOutlined_obj : isOutlined (.obj props) = true ↔
    (∀ name ∈ keys props, name ∈ expectedEnvelopeKeys) ∧
      (∀ name ∈ requiredEnvelopeKeys, name ∈ keys props) ∧
      (((JsValue.obj props).getOwn "resourceRefs").isUndefined = true ∨
        isResourceRefs ((JsValue.obj props).getOwn "resourceRefs") = true) ∧
      hasEnvelopeTexts (.obj props) = true := by
  rw [isOutlined_iff]
  simp only [JsValue.ownProps, List.any_eq_false, List.all_eq_true, Bool.not_eq_true',
    Bool.and_eq_false_iff, Bool.not_eq_false', List.contains_eq_mem, decide_eq_false_iff_not, not_not,
    decide_eq_true_eq]

/-- The schema asks for what the guard asks for and for what the guard leaves open. -/
theorem intentEnvelopeSchema_validates (tree : Json) :
    intentEnvelopeSchema.validates tree.toValue = true ↔
      isAdmitted tree.toValue = true ∧ Strict tree.toValue := by
  cases same : tree.toValue with
  | obj props =>
      have distinct := (toValue_obj same).1
      have defined := toValue_defined same
      rw [intentEnvelopeSchema, validates_closed (by decide) distinct]
      simp only [List.forall_mem_cons, List.not_mem_nil, false_implies, implies_true, and_true,
        validates_enum, validates_nonEmpty, validates_text, validates_hash, validates_refs,
        isAdmitted, isOutlined_obj, hasEnvelopeTexts, Bool.and_eq_true]
      have names (name : JsString) : name ∈ [utf16 "version", "kind", "payload", "createdAt", "nonce",
          "actor", "taint", "origin", "resourceRefs", "intentHash"] ↔ name ∈ expectedEnvelopeKeys :=
        List.Perm.mem_iff (by decide)
      constructor
      · rintro ⟨required, closed, version, kind, -, createdAt, nonce, actor, taint, origin, refs, hash⟩
        rw [forall_lookup (required _ (by decide))] at version kind createdAt nonce actor taint origin hash
        rw [forall_lookup_optional defined distinct] at refs
        obtain ⟨inner, isActor⟩ := getOwn_toValue same (required "actor" (by decide))
        rw [isActor, actorSchema_validates, ← isActor] at actor
        obtain ⟨admitted, sessionId, named⟩ := actor
        have isTextHash : isText ((JsValue.obj props).getOwn "intentHash") = true := by
          cases text : (JsValue.obj props).getOwn "intentHash" with
          | str text => rfl
          | _ => rw [text] at hash; cases hash
        exact ⟨⟨⟨⟨⟨fun name member => (names name).mp (closed name member), required, refs,
          ⟨⟨⟨(validates_version _).symm.trans version, isText_of_nonEmpty kind⟩, createdAt⟩,
            isText_of_nonEmpty nonce⟩, isTextHash⟩, admitted⟩, taint⟩, origin⟩,
          kind, nonce, sessionId, hash, named⟩
      · rintro ⟨⟨⟨⟨⟨closed, required, refs, ⟨⟨⟨version, -⟩, createdAt⟩, -⟩, -⟩, admitted⟩, taint⟩, origin⟩,
          strict⟩
        obtain ⟨inner, isActor⟩ := getOwn_toValue same (required "actor" (by decide))
        have actor : actorSchema.validates ((JsValue.obj props).getOwn "actor") = true := by
          rw [isActor, actorSchema_validates, ← isActor]
          exact ⟨admitted, strict.sessionId, strict.closed⟩
        refine ⟨required, fun name member => (names name).mpr (closed name member), ?_⟩
        rw [forall_lookup (required "version" (by decide)), forall_lookup (required "kind" (by decide)),
          forall_lookup (required "payload" (by decide)),
          forall_lookup (required "createdAt" (by decide)),
          forall_lookup (required "nonce" (by decide)), forall_lookup (required "actor" (by decide)),
          forall_lookup (required "taint" (by decide)), forall_lookup (required "origin" (by decide)),
          forall_lookup (required "intentHash" (by decide)),
          forall_lookup_optional defined distinct]
        exact ⟨(validates_version _).trans version, strict.kind, rfl, createdAt, strict.nonce, actor,
          taint, origin, refs, strict.hash⟩
  | _ =>
      refine iff_of_false nofun fun both => ?_
      obtain ⟨props, ⟨⟩⟩ := isAdmitted_obj both.1

end Schema

section Agreement

/-- The guard returns and accepts exactly what the schema accepts. -/
def MatchesSchema (value : JsValue) : Prop :=
  ∃ answer, isIntentEnvelope value = .ok answer ∧
    (answer = true ↔ intentEnvelopeSchema.validates value = true)

/-- The guard is the schema on a JSON value exactly when the actor of an envelope that is in order
otherwise is not `null` and an admitted envelope is strict. -/
theorem matchesSchema_iff (tree : Json) :
    MatchesSchema tree.toValue ↔
      (isOutlined tree.toValue = true → tree.toValue.getOwn "actor" ≠ .null) ∧
        (isAdmitted tree.toValue = true → Strict tree.toValue) := by
  cases outlined : isOutlined tree.toValue with
  | false =>
      have refused : isAdmitted tree.toValue = false := by simp [isAdmitted, outlined]
      have invalid : ¬intentEnvelopeSchema.validates tree.toValue = true := by
        rw [intentEnvelopeSchema_validates, refused]
        exact fun both => by cases both.1
      refine iff_of_true ⟨false, isIntentEnvelope_of_not_outlined outlined, ?_⟩ ⟨nofun, ?_⟩
      · exact iff_of_false nofun invalid
      · rw [refused]
        exact nofun
  | true =>
      cases same : tree.toValue with
      | obj props =>
          rw [same] at outlined
          obtain ⟨-, required, -⟩ := isOutlined_obj.mp outlined
          obtain ⟨inner, isActor⟩ := getOwn_toValue same (required "actor" (by decide))
          have present : ((JsValue.obj props).getOwn "actor").isUndefined = false := by
            rw [isActor]
            cases inner <;> rfl
          by_cases null : (JsValue.obj props).getOwn "actor" = .null
          · refine iff_of_false ?_ fun both => both.1 rfl null
            rintro ⟨answer, returned, -⟩
            obtain ⟨raised, throws⟩ := isIntentEnvelope_null outlined null
            rw [throws] at returned
            cases returned
          · have returned := isIntentEnvelope_of_outlined outlined present null
            have valid := intentEnvelopeSchema_validates tree
            rw [same] at valid
            constructor
            · rintro ⟨answer, other, agrees⟩
              obtain rfl : isAdmitted (.obj props) = answer := Except.ok.inj (returned.symm.trans other)
              exact ⟨fun _ => null, fun admitted => (valid.mp (agrees.mp admitted)).2⟩
            · rintro ⟨-, strict⟩
              refine ⟨_, returned, ?_⟩
              rw [valid]
              exact ⟨fun admitted => ⟨admitted, strict admitted⟩, And.left⟩
      | _ =>
          rw [same] at outlined
          simp [isOutlined, hasEnvelopeTexts, isEnvelopeVersion, JsValue.getOwn] at outlined

def sampleEnvelopeTree (kind : JsString) (actor : Json) : Json :=
  .obj [("version", .num "2"), ("kind", .str kind), ("payload", .null),
    ("createdAt", .str "2026-01-01T00:00:00.000Z"), ("nonce", .str "n"), ("actor", actor),
    ("taint", .str "UNTRUSTED"), ("origin", .str "LLM"), ("intentHash", .str "none")]

def extendedActor : Json :=
  .obj [("principal", .str "llm"), ("sessionId", .str []), ("attested", .bool true)]

/-- A `null` actor makes the guard throw, and it accepts empty texts, any hash and a further name. -/
theorem nullActor_throws :
    ¬MatchesSchema (sampleEnvelopeTree "pay" .null).toValue ∧
      isIntentEnvelope (sampleEnvelopeTree [] extendedActor).toValue = .ok true ∧
      ¬MatchesSchema (sampleEnvelopeTree [] extendedActor).toValue := by
  have accepted : isIntentEnvelope (sampleEnvelopeTree [] extendedActor).toValue = .ok true := by
    decide +kernel
  refine ⟨?_, accepted, ?_⟩
  · rintro ⟨answer, returned, -⟩
    have throws : (isIntentEnvelope (sampleEnvelopeTree "pay" .null).toValue).isOk = false := by
      decide +kernel
    rw [returned] at throws
    cases throws
  · rintro ⟨answer, returned, agrees⟩
    obtain rfl : true = answer := Except.ok.inj (accepted.symm.trans returned)
    have invalid : intentEnvelopeSchema.validates (sampleEnvelopeTree [] extendedActor).toValue =
        false := by
      decide +kernel
    rw [agrees.mp rfl] at invalid
    cases invalid

end Agreement

end Adjudicate.Core
