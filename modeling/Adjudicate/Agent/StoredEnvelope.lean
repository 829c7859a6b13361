/-
This file compares the hash recipes that read a stored envelope with the recipe that built it.
-/

import Adjudicate.Audit.BuiltRecord
import Adjudicate.Runtime.ParkedEnvelope

namespace Adjudicate.Agent

open Js Canonical Adjudicate.Core Audit Adjudicate.Runtime

inductive ResourceBindingResult where
  | bound
  | unbound (derived stored : JsString)
deriving DecidableEq

/-- A payload without a canonical text is not bound. -/
def verifyResourceBinding (host : Host) (envelope : IntentEnvelope) : ResourceBindingResult :=
  match deriveIntentHash host envelope with
  | .error _ => .unbound [] envelope.intentHash
  | .ok derived =>
      if timingSafeHexEqual (.str derived) (.str envelope.intentHash) then .bound
      else .unbound derived envelope.intentHash

/-- `confirm` lists these fields of the pending envelope. -/
def confirmHashInput (envelope : JsValue) : JsValue :=
  .obj [("version", envelope.getOwn "version"),
    ("kind", envelope.getOwn "kind"),
    ("payload", envelope.getOwn "payload"),
    ("nonce", envelope.getOwn "nonce"),
    ("actor", envelope.getOwn "actor"),
    ("taint", envelope.getOwn "taint"),
    ("origin", envelope.getOwn "origin")]

/-- This is the check that `confirm` makes before it trusts a pending envelope. -/
def confirmRederives (host : Host) (envelope : JsValue) : Except Thrown Bool := do
  let _ ← readProp envelope "version"
  let derived ← sha256Canonical host (confirmHashInput envelope)
  return timingSafeHexEqual (.str derived) (envelope.getOwn "intentHash")

/-- These are the fields that a stored copy shares with its envelope. -/
structure StoredFields where
  kind : JsValue
  payload : JsValue
  nonce : JsValue
  principal : JsValue
  sessionId : JsValue
  role : JsValue
  taint : JsValue
  origin : JsValue
  resourceRefs : JsValue

def storedFields (envelope : IntentEnvelope) : StoredFields where
  kind := .str envelope.kind
  payload := envelope.payload
  nonce := .str envelope.nonce
  principal := .str envelope.actor.principal.text
  sessionId := .str envelope.actor.sessionId
  role := (envelope.actor.role.map .str).getD .undefined
  taint := .str envelope.taint.text
  origin := .str envelope.origin.text
  resourceRefs := (envelope.resourceRefs.map ResourceRefs.toJs).getD .undefined

/-- A parked blob stores the fields of the actor beside the envelope. -/
def parkedFields (parked : JsValue) : StoredFields :=
  let envelope := parked.getOwn "envelope"
  { kind := envelope.getOwn "kind"
    payload := envelope.getOwn "payload"
    nonce := envelope.getOwn "nonce"
    principal := envelope.getOwn "actorPrincipal"
    sessionId := (envelope.getOwn "actor").getOwn "sessionId"
    role := envelope.getOwn "actorRole"
    taint := envelope.getOwn "taint"
    origin := envelope.getOwn "origin"
    resourceRefs := envelope.getOwn "resourceRefs" }

/-- A pending confirmation stores the envelope itself. -/
def pendingFields (envelope : JsValue) : StoredFields where
  kind := envelope.getOwn "kind"
  payload := envelope.getOwn "payload"
  nonce := envelope.getOwn "nonce"
  principal := (envelope.getOwn "actor").getOwn "principal"
  sessionId := (envelope.getOwn "actor").getOwn "sessionId"
  role := (envelope.getOwn "actor").getOwn "role"
  taint := envelope.getOwn "taint"
  origin := envelope.getOwn "origin"
  resourceRefs := envelope.getOwn "resourceRefs"

/-- The fields other than the resource references have the same canonical encodings. -/
structure StoredFields.AgreeBesidesRefs (host : Host) (left right : StoredFields) : Prop where
  kind : encodingOf host left.kind = encodingOf host right.kind
  payload : encodingOf host left.payload = encodingOf host right.payload
  nonce : encodingOf host left.nonce = encodingOf host right.nonce
  principal : encodingOf host left.principal = encodingOf host right.principal
  sessionId : encodingOf host left.sessionId = encodingOf host right.sessionId
  role : encodingOf host left.role = encodingOf host right.role
  taint : encodingOf host left.taint = encodingOf host right.taint
  origin : encodingOf host left.origin = encodingOf host right.origin

def StoredFields.AgreeOnRefs (host : Host) (left right : StoredFields) : Prop :=
  encodingOf host left.resourceRefs = encodingOf host right.resourceRefs

/-- No field was changed to a canonically different value. -/
def StoredFields.Agree (host : Host) (left right : StoredFields) : Prop :=
  left.AgreeBesidesRefs host right ∧ left.AgreeOnRefs host right

/-- A stored blob keeps the version and the hash of the envelope it was written for. -/
structure ParkedCopy (envelope : IntentEnvelope) (parked : JsValue) : Prop where
  json : parked.IsJson
  version : (parked.getOwn "envelope").getOwn "version" = .num envelope.version
  intentHash : (parked.getOwn "envelope").getOwn "intentHash" = .str envelope.intentHash

def actorFields : List JsString := ["principal", "sessionId", "role"]

/-- A stored pending envelope also keeps the properties of the actor that have no field above. -/
structure PendingCopy (host : Host) (envelope : IntentEnvelope) (pending : JsValue) : Prop where
  json : pending.IsJson
  version : pending.getOwn "version" = .num envelope.version
  intentHash : pending.getOwn "intentHash" = .str envelope.intentHash
  actor : ∀ key, key ∉ actorFields →
    encodingOf host ((pending.getOwn "actor").getOwn key) =
      encodingOf host (envelope.actor.toJs.getOwn key)

/-- An object reads like its properties with the absent ones written out. -/
theorem actor_getOwn (actor : IntentActor) (key : JsString) :
    actor.toJs.getOwn key =
      (JsValue.obj [("principal", .str actor.principal.text), ("sessionId", .str actor.sessionId),
        ("role", (actor.role.map .str).getD .undefined),
        ("attestation", (actor.attestation.map Attestation.toJs).getD .undefined)]).getOwn key := by
  obtain ⟨principal, sessionId, role, attestation⟩ := actor
  cases role <;> cases attestation <;>
    simp only [IntentActor.toJs, optionalProp, Option.map_none, Option.map_some, Option.getD_none,
      Option.getD_some, List.cons_append, List.nil_append, getOwn_cons, getOwn_nil]
  all_goals
    repeat' split
    all_goals first | rfl | simp_all

/-- A property of a stored JSON value is absent or a JSON value. -/
def Stored (value : JsValue) : Prop := value.isUndefined = false → value.IsJson

theorem stored_getOwn {value : JsValue} (json : Stored value) (key : JsString) :
    Stored (value.getOwn key) := by
  cases value with
  | obj props => exact getOwn_isJson (json rfl) key
  | _ => nofun

theorem isString_of_encodingOf {host : Host} {value : JsValue} {text : JsString}
    (same : encodingOf host value = encodingOf host (.str text)) : isString value = true := by
  cases value with
  | str other => rfl
  | _ => cases same

/-- A value with a property that has an encoding is an object. -/
theorem obj_of_encodingOf {host : Host} {value : JsValue} {key text : JsString}
    (same : encodingOf host (value.getOwn key) = encodingOf host (.str text)) :
    ∃ props, value = .obj props := by
  cases value with
  | obj props => exact ⟨props, rfl⟩
  | _ => cases same

variable {host : Host} {envelope : IntentEnvelope}

theorem encodingOf_actor {props : Props JsValue} (distinct : (keys props).Nodup) :
    encodingOf host (.obj props) = encodingOf host envelope.actor.toJs ↔
      ∀ key, key ≠ protoKey → encodingOf host ((JsValue.obj props).getOwn key) =
        encodingOf host (envelope.actor.toJs.getOwn key) := by
  change some _ = some _ ↔ _
  rw [Option.some.injEq]
  exact canonicalTree_obj_iff host distinct (actor_isJson envelope.actor).1

/-- The principal, the session and the role give the actor back unless it is attested. -/
theorem encodingOf_parkedActor (principal sessionId role : JsValue) :
    encodingOf host (.obj [("principal", principal), ("sessionId", sessionId), ("role", role)]) =
        encodingOf host envelope.actor.toJs ↔
      encodingOf host principal = encodingOf host (storedFields envelope).principal ∧
        encodingOf host sessionId = encodingOf host (storedFields envelope).sessionId ∧
        encodingOf host role = encodingOf host (storedFields envelope).role ∧
        envelope.actor.attestation = none := by
  rw [encodingOf_actor (by simp [keys])]
  simp only [actor_getOwn, storedFields]
  constructor
  · intro same
    refine ⟨same "principal" (by decide), same "sessionId" (by decide), same "role" (by decide), ?_⟩
    have bare := same "attestation" (by decide)
    cases attested : envelope.actor.attestation with
    | none => rfl
    | some attestation =>
        rw [attested] at bare
        cases bare
  · rintro ⟨samePrincipal, sameSession, sameRole, bare⟩ key -
    simp only [getOwn_cons, getOwn_nil, bare, Option.map_none, Option.getD_none]
    split
    · exact samePrincipal
    · split
      · exact sameSession
      · split
        · exact sameRole
        · split <;> rfl

/-- The actor of a pending copy is the actor of its envelope when the three fields agree. -/
theorem encodingOf_pendingActor {actor : JsValue} (json : Stored actor)
    (others : ∀ key, key ∉ actorFields →
      encodingOf host (actor.getOwn key) = encodingOf host (envelope.actor.toJs.getOwn key)) :
    encodingOf host actor = encodingOf host envelope.actor.toJs ↔
      encodingOf host (actor.getOwn "principal") =
          encodingOf host (storedFields envelope).principal ∧
        encodingOf host (actor.getOwn "sessionId") =
          encodingOf host (storedFields envelope).sessionId ∧
        encodingOf host (actor.getOwn "role") = encodingOf host (storedFields envelope).role := by
  have fields : envelope.actor.toJs.getOwn "principal" = (storedFields envelope).principal ∧
      envelope.actor.toJs.getOwn "sessionId" = (storedFields envelope).sessionId ∧
      envelope.actor.toJs.getOwn "role" = (storedFields envelope).role := by
    simp only [actor_getOwn]
    exact ⟨rfl, rfl, rfl⟩
  obtain ⟨principal, sessionId, role⟩ := fields
  rw [← principal, ← sessionId, ← role]
  cases actor with
  | obj props =>
      rw [encodingOf_actor (json rfl).1]
      constructor
      · intro same
        exact ⟨same _ (by decide), same _ (by decide), same _ (by decide)⟩
      · rintro ⟨samePrincipal, sameSession, sameRole⟩ key -
        by_cases named : key ∈ actorFields
        · simp only [actorFields, List.mem_cons, List.not_mem_nil, or_false] at named
          obtain rfl | rfl | rfl := named
          · exact samePrincipal
          · exact sameSession
          · exact sameRole
        · exact others key named
  | _ =>
      refine iff_of_false nofun ?_
      rintro ⟨same, -⟩
      rw [principal] at same
      cases same

/-- A copy without one of the five typed fields does not agree with its envelope. -/
theorem hasHashFields_of_agree {parked : JsValue} (copy : ParkedCopy envelope parked)
    (agree : (parkedFields parked).Agree host (storedFields envelope)) :
    hasHashFields (parked.getOwn "envelope") = true := by
  have number : isNumber ((parked.getOwn "envelope").getOwn "version") = true := by
    rw [copy.version]
    rfl
  have nonce := isString_of_encodingOf agree.1.nonce
  have taint := isString_of_encodingOf agree.1.taint
  have principal := isString_of_encodingOf agree.1.principal
  have origin := isString_of_encodingOf agree.1.origin
  simp only [parkedFields] at nonce taint principal origin
  simp only [hasHashFields, number, nonce, taint, principal, origin, Bool.and_self]

section

variable (free : host.CollisionFree) (payload : envelope.payload.IsJson)
  (version : envelope.version.isFinite = true)
  (derived : deriveIntentHash host envelope = .ok envelope.intentHash)

include free payload version derived

/-- Another recipe derives the stored hash exactly when it lists the same encodings. -/
theorem derives_iff {props : Props JsValue} (json : (JsValue.obj props).IsJson) :
    sha256Canonical host (.obj props) = .ok envelope.intentHash ↔
      ∀ key, key ≠ protoKey → encodingOf host ((JsValue.obj props).getOwn key) =
        encodingOf host ((intentHashInput envelope.toHashedFields).getOwn key) := by
  rw [← derived, deriveIntentHash]
  exact sha256Canonical_obj_iff free json
    (@intentHashInput_isJson envelope.toHashedFields version payload)

/-- The park recipe drops the attestation of the actor. -/
theorem parkedHashInput_iff {parked : JsValue} (copy : ParkedCopy envelope parked) :
    sha256Canonical host (parkedHashInput (parked.getOwn "envelope")
          (((parked.getOwn "envelope").getOwn "actor").getOwn "sessionId")) =
        .ok envelope.intentHash ↔
      (parkedFields parked).Agree host (storedFields envelope) ∧
        envelope.actor.attestation = none := by
  have whole : Stored parked := fun _ => copy.json
  have inside (key : JsString) : Stored ((parked.getOwn "envelope").getOwn key) :=
    stored_getOwn (stored_getOwn whole "envelope") key
  have session := stored_getOwn (inside "actor") "sessionId"
  have json : (parkedHashInput (parked.getOwn "envelope")
      (((parked.getOwn "envelope").getOwn "actor").getOwn "sessionId")).IsJson := by
    rw [parkedHashInput, JsValue.IsJson, isJsonProps_iff]
    refine ⟨by simp [keys], ?_⟩
    simp only [List.forall_mem_cons, List.not_mem_nil, false_implies, implies_true, and_true]
    refine ⟨inside _, inside _, inside _, inside _, fun _ => ?_, inside _, inside _, inside _⟩
    rw [JsValue.IsJson, isJsonProps_iff]
    refine ⟨by simp [keys], ?_⟩
    simp only [List.forall_mem_cons, List.not_mem_nil, false_implies, implies_true, and_true]
    exact ⟨inside _, session, inside _⟩
  rw [parkedHashInput, derives_iff free payload version derived json]
  constructor
  · intro same
    obtain ⟨principal, sessionId, role, bare⟩ :=
      (encodingOf_parkedActor _ _ _).mp (same "actor" (by decide))
    refine ⟨⟨?_, same "resourceRefs" (by decide)⟩, bare⟩
    exact
      { kind := same "kind" (by decide)
        payload := same "payload" (by decide)
        nonce := same "nonce" (by decide)
        principal := principal
        sessionId := sessionId
        role := role
        taint := same "taint" (by decide)
        origin := same "origin" (by decide) }
  · rintro ⟨⟨besides, refs⟩, bare⟩ key -
    refine encodingOf_getOwn_of_forall₂ host ?_ key
    have actor := (encodingOf_parkedActor _ _ _).mpr
      ⟨besides.principal, besides.sessionId, besides.role, bare⟩
    repeat' apply List.Forall₂.cons
    · exact ⟨rfl, congrArg _ copy.version⟩
    · exact ⟨rfl, besides.kind⟩
    · exact ⟨rfl, besides.payload⟩
    · exact ⟨rfl, besides.nonce⟩
    · exact ⟨rfl, actor⟩
    · exact ⟨rfl, besides.taint⟩
    · exact ⟨rfl, besides.origin⟩
    · exact ⟨rfl, refs⟩
    · exact List.Forall₂.nil

/-- The confirmation recipe drops the resource references. -/
theorem confirmHashInput_iff {pending : JsValue} (copy : PendingCopy host envelope pending) :
    sha256Canonical host (confirmHashInput pending) = .ok envelope.intentHash ↔
      (pendingFields pending).AgreeBesidesRefs host (storedFields envelope) ∧
        envelope.resourceRefs = none := by
  have whole : Stored pending := fun _ => copy.json
  have inside (key : JsString) : Stored (pending.getOwn key) := stored_getOwn whole key
  have json : (confirmHashInput pending).IsJson := by
    rw [confirmHashInput, JsValue.IsJson, isJsonProps_iff]
    refine ⟨by simp [keys], ?_⟩
    simp only [List.forall_mem_cons, List.not_mem_nil, false_implies, implies_true, and_true]
    exact ⟨inside _, inside _, inside _, inside _, inside _, inside _, inside _⟩
  have actor := encodingOf_pendingActor (inside "actor") copy.actor
  rw [confirmHashInput, derives_iff free payload version derived json]
  constructor
  · intro same
    obtain ⟨principal, sessionId, role⟩ := actor.mp (same "actor" (by decide))
    have absent := same "resourceRefs" (by decide)
    refine ⟨?_, ?_⟩
    · exact
        { kind := same "kind" (by decide)
          payload := same "payload" (by decide)
          nonce := same "nonce" (by decide)
          principal := principal
          sessionId := sessionId
          role := role
          taint := same "taint" (by decide)
          origin := same "origin" (by decide) }
    · cases refs : envelope.resourceRefs with
      | none => rfl
      | some resourceRefs =>
          change none = encodingOf host ((envelope.resourceRefs.map ResourceRefs.toJs).getD _)
            at absent
          rw [refs] at absent
          cases absent
  · rintro ⟨besides, absent⟩ key -
    have same := actor.mpr ⟨besides.principal, besides.sessionId, besides.role⟩
    simp only [intentHashInput, getOwn_cons, getOwn_nil, absent, Option.map_none, Option.getD_none]
    split
    · exact congrArg _ copy.version
    split
    · exact besides.kind
    split
    · exact besides.payload
    split
    · exact besides.nonce
    split
    · exact same
    split
    · exact besides.taint
    split
    · exact besides.origin
    split <;> rfl

/-- A parked copy is verified exactly when no field changed and the actor is not attested. -/
theorem verifyParkedEnvelopeHash_iff {parked : JsValue} (copy : ParkedCopy envelope parked) :
    verifyParkedEnvelopeHash host parked = .ok .verified ↔
      (parkedFields parked).Agree host (storedFields envelope) ∧
        envelope.actor.attestation = none := by
  have agree_iff := parkedHashInput_iff free payload version derived copy
  have blobRead : readProp parked "envelope" = .ok (parked.getOwn "envelope") := by
    apply readProp_of_present
    intro absent
    have stored := copy.version
    rw [absent] at stored
    cases stored
  have envelopeRead : readProp (parked.getOwn "envelope") "version" = .ok (.num envelope.version) := by
    rw [← copy.version]
    apply readProp_of_present
    rw [copy.version]
    nofun
  rw [verifyParkedEnvelopeHash, blobRead, ok_bind, envelopeRead, ok_bind]
  constructor
  · intro verified
    split at verified
    · cases verified
    obtain ⟨sessionId, sessionRead, verified⟩ := bind_eq_ok.mp verified
    obtain ⟨hash, hashed, verified⟩ := bind_eq_ok.mp verified
    rw [copy.intentHash] at verified
    split at verified
    · next same =>
        rw [← agree_iff, ← readProp_eq_ok sessionRead, ← (timingSafeHexEqual_iff _ _).mp same]
        exact hashed
    · cases verified
  · intro agree
    have typed := hasHashFields_of_agree copy agree.1
    have sessionRead : readProp ((parked.getOwn "envelope").getOwn "actor") "sessionId" =
        .ok (((parked.getOwn "envelope").getOwn "actor").getOwn "sessionId") := by
      apply readProp_of_present
      intro absent
      have same := agree.1.1.sessionId
      simp only [parkedFields, absent] at same
      cases same
    rw [typed, sessionRead, ok_bind, agree_iff.mpr agree, ok_bind, copy.intentHash]
    simp only [(timingSafeHexEqual_iff _ _).mpr]
    rfl

/-- A pending copy passes exactly when no field but the references changed and its envelope has
none. -/
theorem confirmRederives_iff {pending : JsValue} (copy : PendingCopy host envelope pending) :
    confirmRederives host pending = .ok true ↔
      (pendingFields pending).AgreeBesidesRefs host (storedFields envelope) ∧
        envelope.resourceRefs = none := by
  rw [← confirmHashInput_iff free payload version derived copy]
  have envelopeRead : readProp pending "version" = .ok (.num envelope.version) := by
    rw [← copy.version]
    apply readProp_of_present
    rw [copy.version]
    nofun
  rw [confirmRederives, envelopeRead, ok_bind, bind_eq_ok, copy.intentHash]
  constructor
  · rintro ⟨hash, hashed, same⟩
    rw [hashed, (timingSafeHexEqual_iff _ _).mp (Except.ok.inj same)]
  · intro hashed
    exact ⟨_, hashed, congrArg _ ((timingSafeHexEqual_iff _ _).mpr rfl)⟩

end

/-- A confirmation store keeps the envelope object or its JSON text. -/
def pendingForms (envelope : IntentEnvelope) : List JsValue :=
  [envelope.toJs, reload envelope.toJs]

def deferredBlob (envelope : IntentEnvelope) (signal parkedAt : JsString) : ParkedEnvelope where
  envelope := deferredEnvelope envelope
  signal := signal
  parkedAt := parkedAt

/-- The properties of a reloaded blob are reloaded one by one. -/
theorem getOwn_reloaded (blob : ParkedEnvelope) (key : JsString) :
    (blob.reloaded.getOwn "envelope").getOwn key = reload (blob.envelope.toJs.getOwn key) := by
  rw [getOwn_reloaded_envelope, ParkableEnvelope.toJs, getOwn_reload toProps_nodup]

theorem getOwn_envelope (blob : ParkedEnvelope) :
    blob.toJs.getOwn "envelope" = blob.envelope.toJs := rfl

theorem parked_version (envelope : IntentEnvelope) :
    (deferredEnvelope envelope).toJs.getOwn "version" = .num envelope.version := rfl

theorem parked_intentHash (envelope : IntentEnvelope) :
    (deferredEnvelope envelope).toJs.getOwn "intentHash" = .str envelope.intentHash := rfl

theorem parked_sessionId (envelope : IntentEnvelope) :
    (deferredEnvelope envelope).toJs.getOwn "actor" =
      .obj [("sessionId", .str envelope.actor.sessionId)] := rfl

theorem version_unsigned : intentEnvelopeVersion.unsigned = intentEnvelopeVersion := by
  decide +kernel

theorem parkedFields_toJs (envelope : IntentEnvelope) (signal parkedAt : JsString) :
    parkedFields (deferredBlob envelope signal parkedAt).toJs = storedFields envelope := by
  obtain ⟨⟨version, kind, payload, nonce, ⟨principal, sessionId, role, attestation⟩, taint, origin,
    resourceRefs⟩, createdAt, intentHash⟩ := envelope
  cases role <;> cases resourceRefs <;> rfl

theorem pendingFields_toJs (envelope : IntentEnvelope) :
    pendingFields envelope.toJs = storedFields envelope := by
  obtain ⟨⟨version, kind, payload, nonce, ⟨principal, sessionId, role, attestation⟩, taint, origin,
    resourceRefs⟩, createdAt, intentHash⟩ := envelope
  cases role <;> cases attestation <;> cases resourceRefs <;> rfl

section

variable (payload : envelope.payload.IsJson) (version : envelope.version = intentEnvelopeVersion)

include payload version

theorem envelope_isJson : envelope.toJs.IsJson := by
  have finite : envelope.version.isFinite = true := version ▸ version_isFinite
  have refsJson (resourceRefs : ResourceRefs) := resourceRefs_isJson resourceRefs
  have actorJson := actor_isJson envelope.actor
  cases refs : envelope.resourceRefs <;>
    simp [IntentEnvelope.toJs, refs, optionalProp, JsValue.IsJson, keys, finite, payload, refsJson,
      actorJson]

theorem parkable_isJson : (deferredEnvelope envelope).toJs.IsJson := by
  have finite : envelope.version.isFinite = true := version ▸ version_isFinite
  have refsJson (resourceRefs : ResourceRefs) := resourceRefs_isJson resourceRefs
  rw [ParkableEnvelope.toJs, JsValue.IsJson]
  refine ⟨toProps_nodup, ?_⟩
  cases role : envelope.actor.role <;> cases refs : envelope.resourceRefs <;>
    simp [ParkableEnvelope.toProps, deferredEnvelope, role, refs, optionalProp, JsValue.IsJson,
      finite, payload, refsJson, keys]

/-- What `translateDecision` parks is a copy of its envelope, also after the reload. -/
theorem parkedCopy_reloaded (signal parkedAt : JsString) :
    ParkedCopy envelope (deferredBlob envelope signal parkedAt).reloaded := by
  have blobJson : (deferredBlob envelope signal parkedAt).toJs.IsJson := by
    have json := parkable_isJson payload version
    simp [ParkedEnvelope.toJs, deferredBlob, JsValue.IsJson, keys, json]
  have finite : envelope.version.isFinite = true := version ▸ version_isFinite
  refine ⟨?_, ?_, ?_⟩
  · rw [ParkedEnvelope.reloaded]
    exact reload_isJson _ blobJson
  · refine (getOwn_reloaded _ _).trans ?_
    rw [deferredBlob, parked_version, reload_num finite, version, version_unsigned]
  · refine (getOwn_reloaded _ _).trans ?_
    rw [deferredBlob, parked_intentHash, reload_str]

/-- The reload changes no field of the parked blob to a canonically different value. -/
theorem parkedFields_reloaded (signal parkedAt : JsString) :
    (parkedFields (deferredBlob envelope signal parkedAt).reloaded).Agree host
      (storedFields envelope) := by
  have json := parkable_isJson payload version
  have encoding (key : JsString) :
      encodingOf host (((deferredBlob envelope signal parkedAt).reloaded.getOwn
          "envelope").getOwn key) =
        encodingOf host (((deferredBlob envelope signal parkedAt).toJs.getOwn
          "envelope").getOwn key) := by
    exact (congrArg _ (getOwn_reloaded _ key)).trans
      (encodingOf_reload host (stored_getOwn (fun _ => json) key))
  have session : encodingOf host ((((deferredBlob envelope signal parkedAt).reloaded.getOwn
      "envelope").getOwn "actor").getOwn "sessionId") =
        encodingOf host ((((deferredBlob envelope signal parkedAt).toJs.getOwn
          "envelope").getOwn "actor").getOwn "sessionId") := by
    have actor : (((deferredBlob envelope signal parkedAt).reloaded.getOwn
        "envelope").getOwn "actor").getOwn "sessionId" =
          reload (.str envelope.actor.sessionId) := by
      refine (congrArg (fun value => JsValue.getOwn value _) (getOwn_reloaded _ _)).trans ?_
      rw [deferredBlob, parked_sessionId]
      exact getOwn_reload (by simp [keys]) _
    rw [actor]
    exact encodingOf_reload host fun _ => trivial
  rw [← parkedFields_toJs envelope signal parkedAt]
  refine ⟨?_, encoding "resourceRefs"⟩
  exact
    { kind := encoding "kind"
      payload := encoding "payload"
      nonce := encoding "nonce"
      principal := encoding "actorPrincipal"
      sessionId := session
      role := encoding "actorRole"
      taint := encoding "taint"
      origin := encoding "origin" }

/-- What `translateDecision` stores for a confirmation is a copy of its envelope in both forms. -/
theorem pendingCopy_pendingForms {pending : JsValue} (form : pending ∈ pendingForms envelope) :
    PendingCopy host envelope pending ∧
      (pendingFields pending).Agree host (storedFields envelope) := by
  have json := envelope_isJson payload version
  have finite : envelope.version.isFinite = true := version ▸ version_isFinite
  simp only [pendingForms, List.mem_cons, List.not_mem_nil, or_false] at form
  obtain rfl | rfl := form
  · rw [pendingFields_toJs]
    refine ⟨⟨json, ?_, ?_, fun key _ => ?_⟩, ⟨⟨rfl, rfl, rfl, rfl, rfl, rfl, rfl, rfl⟩, rfl⟩⟩ <;> rfl
  · have property (key : JsString) :
        (reload envelope.toJs).getOwn key = reload (envelope.toJs.getOwn key) :=
      getOwn_reload json.1 key
    have encoding (key : JsString) :
        encodingOf host ((reload envelope.toJs).getOwn key) =
          encodingOf host (envelope.toJs.getOwn key) := by
      rw [property]
      exact encodingOf_reload host (stored_getOwn (fun _ => json) key)
    have actor (key : JsString) :
        encodingOf host (((reload envelope.toJs).getOwn "actor").getOwn key) =
          encodingOf host (envelope.actor.toJs.getOwn key) := by
      have actorJson := actor_isJson envelope.actor
      rw [property]
      change encodingOf host ((reload envelope.actor.toJs).getOwn key) = _
      rw [IntentActor.toJs, getOwn_reload actorJson.1, ← IntentActor.toJs]
      exact encodingOf_reload host (stored_getOwn (fun _ => actorJson) key)
    rw [← pendingFields_toJs]
    refine ⟨⟨reload_isJson _ json, ?_, ?_, fun key _ => actor key⟩, ?_, encoding "resourceRefs"⟩
    · rw [property]
      change reload (.num envelope.version) = _
      rw [reload_num finite, version, version_unsigned]
    · rw [property]
      exact reload_str _
    · exact
        { kind := encoding "kind"
          payload := encoding "payload"
          nonce := encoding "nonce"
          principal := actor "principal"
          sessionId := actor "sessionId"
          role := actor "role"
          taint := encoding "taint"
          origin := encoding "origin" }

end

/-- A built envelope is bound to its hash. -/
theorem verifyResourceBinding_of_buildEnvelope {clock : JsString} {input : BuildEnvelopeInput}
    (built : buildEnvelope host clock input = .ok envelope) :
    verifyResourceBinding host envelope = .bound := by
  rw [verifyResourceBinding, deriveIntentHash_of_buildEnvelope built]
  exact if_pos ((timingSafeHexEqual_iff _ _).mpr rfl)

/-- The recipes agree on a stored copy exactly when the envelope has no attestation that the park
recipe drops, and no references that the confirmation recipe drops or ignores. -/
theorem hashRecipes_agree_iff {host : Host} (free : host.CollisionFree) {clock : JsString}
    {input : BuildEnvelopeInput} (payload : input.payload.IsJson) {envelope : IntentEnvelope}
    (built : buildEnvelope host clock input = .ok envelope) :
    verifyResourceBinding host envelope = .bound ∧
    (∀ signal parkedAt, ParkedCopy envelope (deferredBlob envelope signal parkedAt).reloaded ∧
      (parkedFields (deferredBlob envelope signal parkedAt).reloaded).Agree host
        (storedFields envelope)) ∧
    (∀ pending ∈ pendingForms envelope, PendingCopy host envelope pending ∧
      (pendingFields pending).Agree host (storedFields envelope)) ∧
    ∀ parked pending, ParkedCopy envelope parked → PendingCopy host envelope pending →
      (((verifyParkedEnvelopeHash host parked = .ok .verified ↔
            (parkedFields parked).Agree host (storedFields envelope)) ∧
          (confirmRederives host pending = .ok true ↔
            (pendingFields pending).Agree host (storedFields envelope))) ↔
        ((parkedFields parked).Agree host (storedFields envelope) →
            envelope.actor.attestation = none) ∧
          ((pendingFields pending).AgreeBesidesRefs host (storedFields envelope) →
            (envelope.resourceRefs = none ↔
              (pendingFields pending).AgreeOnRefs host (storedFields envelope)))) := by
  have derived := deriveIntentHash_of_buildEnvelope built
  obtain ⟨fields, -, -⟩ := buildEnvelope_eq_ok.mp built
  have version : envelope.version = intentEnvelopeVersion := congrArg HashedFields.version fields
  have payloadJson : envelope.payload.IsJson := by
    rw [fields]
    exact payload
  have finite : envelope.version.isFinite = true := version ▸ version_isFinite
  refine ⟨verifyResourceBinding_of_buildEnvelope built, fun signal parkedAt =>
    ⟨parkedCopy_reloaded payloadJson version signal parkedAt,
      parkedFields_reloaded payloadJson version signal parkedAt⟩, fun pending form => pendingCopy_pendingForms payloadJson version form, ?_⟩
  intro parked pending parkedCopy pendingCopy
  rw [verifyParkedEnvelopeHash_iff free payloadJson finite derived parkedCopy,
    confirmRederives_iff free payloadJson finite derived pendingCopy, StoredFields.Agree]
  unfold StoredFields.Agree
  tauto

/-- Untouched copies of an unattested payment without references pass both checks. -/
theorem hashRecipes_agree_iff_samplePayment :
    ∃ envelope, buildEnvelope sampleHost "2026-01-01T00:00:00.000Z" (samplePayment 1) =
        .ok envelope ∧
      verifyResourceBinding sampleHost envelope = .bound ∧
      verifyParkedEnvelopeHash sampleHost
        (deferredBlob envelope "kyc" "2026-01-01T00:00:00.000Z").reloaded = .ok .verified ∧
      ∀ pending ∈ pendingForms envelope, confirmRederives sampleHost pending = .ok true := by
  have payload : (samplePayment 1).payload.IsJson := by
    simp only [samplePayment, JsValue.IsJson, IsJsonProps, and_true]
    decide +kernel
  obtain ⟨envelope, built, fields, -⟩ :=
    buildEnvelope_of_json sampleHost "2026-01-01T00:00:00.000Z" payload
  obtain ⟨bound, parked, pendings, agree⟩ := hashRecipes_agree_iff
    (Host.ofDigests_collisionFree (by decide) (by decide)) payload built
  have attestation : envelope.actor.attestation = none := by
    rw [fields]
    rfl
  have resourceRefs : envelope.resourceRefs = none := by
    rw [fields]
    rfl
  obtain ⟨parkedCopy, parkedAgree⟩ := parked "kyc" "2026-01-01T00:00:00.000Z"
  have checks (pending : JsValue) (form : pending ∈ pendingForms envelope) :=
    (agree _ pending parkedCopy (pendings pending form).1).mpr
      ⟨fun _ => attestation, fun _ => iff_of_true resourceRefs (pendings pending form).2.2⟩
  refine ⟨envelope, built, bound, ?_, fun pending form => ?_⟩
  · exact (checks envelope.toJs (by simp [pendingForms])).1.mpr parkedAgree
  · exact (checks pending form).2.mpr (pendings pending form).2

def attestedPayment : BuildEnvelopeInput :=
  { samplePayment 1 with actor := ⟨.llm, "s-1", none, some ⟨"k-1", "00"⟩⟩ }

def accountRefs : ResourceRefs := ⟨[("account", "a-1")], by decide⟩

def accountPayment : BuildEnvelopeInput :=
  { samplePayment 1 with resourceRefs := some accountRefs }

def attestedPaymentText : JsString :=
  utf16 "\x7b\"actor\":\x7b\"attestation\":\x7b\"keyId\":\"k-1\",\"sig\":\"00\"\x7d," ++
    utf16 "\"principal\":\"llm\",\"sessionId\":\"s-1\"\x7d,\"kind\":\"payment.send\"," ++
    utf16 "\"nonce\":\"n-1\",\"origin\":\"LLM\",\"payload\":\x7b\"amount\":1\x7d," ++
    utf16 "\"taint\":\"UNTRUSTED\",\"version\":2\x7d"

def accountPaymentText : JsString :=
  utf16 "\x7b\"actor\":\x7b\"principal\":\"llm\",\"sessionId\":\"s-1\"\x7d,\"kind\":\"payment.send\"," ++
    utf16 "\"nonce\":\"n-1\",\"origin\":\"LLM\",\"payload\":\x7b\"amount\":1\x7d," ++
    utf16 "\"resourceRefs\":\x7b\"account\":\"a-1\"\x7d,\"taint\":\"UNTRUSTED\",\"version\":2\x7d"

/-- The digests of the three payments are their SHA-256 digests. -/
def recipeHost : Host := .ofDigests
  [(samplePaymentText "1", "1daba7c0306f6af2025d02a343346fb68d1df58b818fa16e1f9c1961b3edd90d"),
    (attestedPaymentText, "87a2344cbdef95a1b067eb118aa4344f6b4cc2fa35fc0a2e37dd06aac4d07c94"),
    (accountPaymentText, "00cbe5de7a7b9e0f81e67764d04b3c487b1ecfb443537d67784a498cb96a196c")]

/-- An attested envelope is tampered by its own parking, one with references fails its own
confirmation, and references added to a pending envelope go unnoticed. -/
theorem hashRecipes_disagree :
    (do
      let envelope ← buildEnvelope recipeHost "2026-01-01T00:00:00.000Z" attestedPayment
      verifyParkedEnvelopeHash recipeHost
        (deferredBlob envelope "kyc" "2026-01-01T00:00:00.000Z").reloaded) =
      .ok (.tampered "1daba7c0306f6af2025d02a343346fb68d1df58b818fa16e1f9c1961b3edd90d") ∧
    (do
      let envelope ← buildEnvelope recipeHost "2026-01-01T00:00:00.000Z" accountPayment
      confirmRederives recipeHost envelope.toJs) = .ok false ∧
    (do
      let envelope ← buildEnvelope recipeHost "2026-01-01T00:00:00.000Z" (samplePayment 1)
      confirmRederives recipeHost { envelope with resourceRefs := some accountRefs }.toJs) =
      .ok true := by
  refine ⟨?_, ?_, ?_⟩ <;> decide +kernel

end Adjudicate.Agent
