/-
This file models the intent envelope and its content-addressed hash.
-/

import Adjudicate.Canonical.ContentAddress
import Adjudicate.Core.Taint

namespace Adjudicate.Core

open Js Canonical

inductive Principal where
  | llm
  | user
  | system
deriving DecidableEq

def Principal.text : Principal → JsString
  | .llm => "llm"
  | .user => "user"
  | .system => "system"

structure Attestation where
  keyId : JsString
  sig : JsString
deriving DecidableEq

structure IntentActor where
  principal : Principal
  sessionId : JsString
  role : Option JsString
  attestation : Option Attestation
deriving DecidableEq

def Attestation.toJs (attestation : Attestation) : JsValue :=
  .obj [("keyId", attestation.keyId), ("sig", attestation.sig)]

def IntentActor.toJs (actor : IntentActor) : JsValue :=
  .obj ([(utf16 "principal", JsValue.str actor.principal.text),
      (utf16 "sessionId", .str actor.sessionId)] ++
    optionalProp "role" (actor.role.map .str) ++
    optionalProp "attestation" (actor.attestation.map Attestation.toJs))

/-- The references are a string map with distinct role names. -/
structure ResourceRefs where
  refs : Props JsString
  distinct : (keys refs).Nodup
deriving DecidableEq

def ResourceRefs.toJs (resourceRefs : ResourceRefs) : JsValue :=
  .obj (mapValues .str resourceRefs.refs)

/-- These are the fields of an envelope that feed its hash. -/
structure HashedFields where
  version : JsNumber
  kind : JsString
  payload : JsValue
  nonce : JsString
  actor : IntentActor
  taint : Taint
  origin : Origin
  resourceRefs : Option ResourceRefs

structure IntentEnvelope extends HashedFields where
  createdAt : JsString
  intentHash : JsString

/-- This is `INTENT_ENVELOPE_VERSION`. -/
def intentEnvelopeVersion : JsNumber := 2

structure BuildEnvelopeInput where
  kind : JsString
  payload : JsValue
  actor : IntentActor
  taint : Taint
  nonce : JsString
  createdAt : Option JsString
  origin : Option Origin
  resourceRefs : Option ResourceRefs

def intentHashInput (envelope : HashedFields) : JsValue :=
  .obj [("version", .num envelope.version),
    ("kind", .str envelope.kind),
    ("payload", envelope.payload),
    ("nonce", .str envelope.nonce),
    ("actor", envelope.actor.toJs),
    ("taint", .str envelope.taint.text),
    ("origin", .str envelope.origin.text),
    ("resourceRefs", (envelope.resourceRefs.map ResourceRefs.toJs).getD .undefined)]

def BuildEnvelopeInput.hashedFields (input : BuildEnvelopeInput) : HashedFields where
  version := intentEnvelopeVersion
  kind := input.kind
  payload := input.payload
  nonce := input.nonce
  actor := input.actor
  taint := input.taint
  origin := input.origin.getD defaultOrigin
  resourceRefs := input.resourceRefs

/-- The clock supplies `createdAt` only when the caller does not. -/
def buildEnvelope (host : Host) (clock : JsString) (input : BuildEnvelopeInput) :
    Except Thrown IntentEnvelope := do
  let createdAt := input.createdAt.getD clock
  let intentHash ← sha256Canonical host (intentHashInput input.hashedFields)
  return { input.hashedFields with createdAt, intentHash }

def deriveIntentHash (host : Host) (envelope : IntentEnvelope) : Except Thrown JsString :=
  sha256Canonical host (intentHashInput envelope.toHashedFields)

/-- The constructor computes the hash and copies everything else. -/
theorem buildEnvelope_eq_ok {host : Host} {clock : JsString} {input : BuildEnvelopeInput}
    {envelope : IntentEnvelope} :
    buildEnvelope host clock input = .ok envelope ↔
      envelope.toHashedFields = input.hashedFields ∧
        envelope.createdAt = input.createdAt.getD clock ∧
        sha256Canonical host (intentHashInput input.hashedFields) = .ok envelope.intentHash := by
  obtain ⟨fields, createdAt, intentHash⟩ := envelope
  rw [buildEnvelope, bind_eq_ok]
  constructor
  · rintro ⟨hash, derived, ⟨⟩⟩
    exact ⟨rfl, rfl, derived⟩
  · rintro ⟨rfl, rfl, derived⟩
    exact ⟨intentHash, derived, rfl⟩

/-- A built envelope carries the hash that the kernel derives from it. -/
theorem deriveIntentHash_of_buildEnvelope {host : Host} {clock : JsString}
    {input : BuildEnvelopeInput} {envelope : IntentEnvelope}
    (built : buildEnvelope host clock input = .ok envelope) :
    deriveIntentHash host envelope = .ok envelope.intentHash := by
  obtain ⟨fields, -, derived⟩ := buildEnvelope_eq_ok.mp built
  rw [deriveIntentHash, fields, derived]

theorem actor_isJson (actor : IntentActor) : actor.toJs.IsJson := by
  obtain ⟨principal, sessionId, role, attestation⟩ := actor
  cases role <;> cases attestation <;>
    simp [IntentActor.toJs, Attestation.toJs, optionalProp, JsValue.IsJson, keys]

theorem resourceRefs_isJson (resourceRefs : ResourceRefs) : resourceRefs.toJs.IsJson := by
  rw [ResourceRefs.toJs, JsValue.IsJson, keys_mapValues, isJsonProps_iff]
  refine ⟨resourceRefs.distinct, ?_⟩
  intro property inside _
  obtain ⟨source, -, rfl⟩ := List.mem_map.mp inside
  trivial

/-- The hash input of a JSON payload is a JSON value. -/
theorem intentHashInput_isJson {fields : HashedFields}
    (version : fields.version.isFinite = true) (payload : fields.payload.IsJson) :
    (intentHashInput fields).IsJson := by
  rw [intentHashInput, JsValue.IsJson]
  refine ⟨by simp [keys], ?_⟩
  rw [isJsonProps_iff]
  simp only [List.forall_mem_cons]
  refine ⟨fun _ => version, fun _ => trivial, fun _ => payload, fun _ => trivial,
    fun _ => actor_isJson _, fun _ => trivial, fun _ => trivial, ?_, by simp⟩
  intro present
  cases refs : fields.resourceRefs with
  | none => simp [refs, JsValue.isUndefined] at present
  | some resourceRefs => exact resourceRefs_isJson resourceRefs

/-- The seven caller-supplied fields agree up to property order, undefined properties and
normalization. -/
structure SameFields (host : Host) (left right : HashedFields) : Prop where
  kind : host.nfc left.kind = host.nfc right.kind
  payload : SameJson host left.payload right.payload
  nonce : host.nfc left.nonce = host.nfc right.nonce
  actor : SameJson host left.actor.toJs right.actor.toJs
  taint : left.taint = right.taint
  origin : left.origin = right.origin
  resourceRefs : SameJson host ((left.resourceRefs.map ResourceRefs.toJs).getD .undefined)
    ((right.resourceRefs.map ResourceRefs.toJs).getD .undefined)

theorem taint_of_nfc {host : Host} {left right : Taint}
    (same : host.nfc left.text = host.nfc right.text) : left = right := by
  rw [host.nfc_ascii _ (by cases left <;> decide), host.nfc_ascii _ (by cases right <;> decide)]
    at same
  revert same
  cases left <;> cases right <;> decide

theorem origin_of_nfc {host : Host} {left right : Origin}
    (same : host.nfc left.text = host.nfc right.text) : left = right := by
  rw [host.nfc_ascii _ (by cases left <;> decide), host.nfc_ascii _ (by cases right <;> decide)]
    at same
  revert same
  cases left <;> cases right <;> decide

/-- Hash inputs of one version agree exactly when the fields agree. -/
theorem sameJson_intentHashInput {host : Host} {left right : HashedFields}
    (version : left.version = right.version) :
    SameJson host (intentHashInput left) (intentHashInput right) ↔ SameFields host left right := by
  constructor
  · intro same
    rw [intentHashInput, intentHashInput, sameJson_obj] at same
    exact
      { kind := (sameJson_str host).mp (same "kind")
        payload := same "payload"
        nonce := (sameJson_str host).mp (same "nonce")
        actor := same "actor"
        taint := taint_of_nfc ((sameJson_str host).mp (same "taint"))
        origin := origin_of_nfc ((sameJson_str host).mp (same "origin"))
        resourceRefs := same "resourceRefs" }
  · intro same
    apply sameJson_of_forall₂
    repeat' apply List.Forall₂.cons
    · exact ⟨rfl, .num (congrArg JsNumber.unsigned version)⟩
    · exact ⟨rfl, .str same.kind⟩
    · exact ⟨rfl, same.payload⟩
    · exact ⟨rfl, .str same.nonce⟩
    · exact ⟨rfl, same.actor⟩
    · exact ⟨rfl, .str (congrArg (host.nfc ∘ Taint.text) same.taint)⟩
    · exact ⟨rfl, .str (congrArg (host.nfc ∘ Origin.text) same.origin)⟩
    · exact ⟨rfl, same.resourceRefs⟩
    · exact List.Forall₂.nil

theorem version_isFinite : intentEnvelopeVersion.isFinite = true := by decide +kernel

/-- A JSON payload always gives an envelope, with the hash of its canonical text. -/
theorem buildEnvelope_of_json (host : Host) (clock : JsString) {input : BuildEnvelopeInput}
    (payload : input.payload.IsJson) :
    ∃ envelope, buildEnvelope host clock input = .ok envelope ∧
      envelope.toHashedFields = input.hashedFields ∧
      sha256Canonical host (intentHashInput input.hashedFields) = .ok envelope.intentHash := by
  have derived := sha256Canonical_eq host
    (@intentHashInput_isJson input.hashedFields version_isFinite payload)
  rw [buildEnvelope, derived]
  exact ⟨_, rfl, rfl, rfl⟩

/-- Canonical texts and envelope hashes identify their values except where only own properties
named `__proto__` differ. -/
theorem contentAddress_iff {host : Host} (free : host.CollisionFree) :
    (∀ left right : { value : JsValue // value.IsJson },
      (canonicalJson host left.1 = canonicalJson host right.1 → SameJson host left.1 right.1) ↔
        ¬DifferOnlyInProto host left.1 right.1) ∧
    ∀ (left right : BuildEnvelopeInput) (leftClock rightClock : JsString),
      left.payload.IsJson → right.payload.IsJson →
      ∃ first second, buildEnvelope host leftClock left = .ok first ∧
        buildEnvelope host rightClock right = .ok second ∧
        ((first.intentHash = second.intentHash →
            SameFields host first.toHashedFields second.toHashedFields) ↔
          ¬DifferOnlyInProto host (intentHashInput first.toHashedFields)
            (intentHashInput second.toHashedFields)) := by
  refine ⟨fun left right => sameJson_of_canonicalJson_iff host left.2 right.2, ?_⟩
  intro left right leftClock rightClock leftJson rightJson
  obtain ⟨first, firstBuilt, firstFields, firstHash⟩ :=
    buildEnvelope_of_json host leftClock leftJson
  obtain ⟨second, secondBuilt, secondFields, secondHash⟩ :=
    buildEnvelope_of_json host rightClock rightJson
  have leftInput := @intentHashInput_isJson left.hashedFields version_isFinite leftJson
  have rightInput := @intentHashInput_isJson right.hashedFields version_isFinite rightJson
  have hashes : first.intentHash = second.intentHash ↔
      canonicalJson host (intentHashInput left.hashedFields) =
        canonicalJson host (intentHashInput right.hashedFields) := by
    rw [← sha256Canonical_eq_iff free leftInput rightInput, firstHash, secondHash,
      Except.ok.injEq]
  refine ⟨first, second, firstBuilt, secondBuilt, ?_⟩
  rw [firstFields, secondFields, hashes,
    ← @sameJson_intentHashInput host left.hashedFields right.hashedFields rfl]
  exact sameJson_of_canonicalJson_iff host leftInput rightInput

/-- A payload that only holds a member named `__proto__` shares the text and the hash of the
empty payload. -/
theorem protoPayload_collides :
    (JsValue.obj [("__proto__", .num 1)]).IsJson ∧ (JsValue.obj []).IsJson ∧
      canonicalJson (.ofDigests []) (.obj [("__proto__", .num 1)]) =
        canonicalJson (.ofDigests []) (.obj []) ∧
      ¬SameJson (.ofDigests []) (.obj [("__proto__", .num 1)]) (.obj []) := by
  refine ⟨?_, ?_, by decide +kernel, ?_⟩
  · simp only [JsValue.IsJson, IsJsonProps, and_true]
    decide +kernel
  · simp [JsValue.IsJson, keys]
  · intro same
    cases (sameJson_obj _).mp same "__proto__"

/-- Two payments differ in their amount. -/
def samplePayment (amount : JsNumber) : BuildEnvelopeInput where
  kind := "payment.send"
  payload := .obj [("amount", .num amount)]
  actor := { principal := .llm, sessionId := "s-1", role := none, attestation := none }
  taint := .untrusted
  nonce := "n-1"
  createdAt := none
  origin := none
  resourceRefs := none

def samplePaymentText (amount : JsString) : JsString :=
  utf16 "\x7b\"actor\":\x7b\"principal\":\"llm\",\"sessionId\":\"s-1\"\x7d,\"kind\":\"payment.send\"," ++
    utf16 "\"nonce\":\"n-1\",\"origin\":\"LLM\",\"payload\":\x7b\"amount\":" ++ amount ++
    utf16 "\x7d,\"taint\":\"UNTRUSTED\",\"version\":2\x7d"

/-- The digests of the two payments are their SHA-256 digests. -/
def sampleHost : Host := .ofDigests
  [(samplePaymentText "1", "1daba7c0306f6af2025d02a343346fb68d1df58b818fa16e1f9c1961b3edd90d"),
    (samplePaymentText "2", "205e8c345a00facb52623effd841cf735349fc6792ef3102b3f3415df66a659b")]

theorem contentAddress_iff_samplePayment :
    ∃ first second, buildEnvelope sampleHost "2026-01-01T00:00:00.000Z" (samplePayment 1) = .ok first ∧
      buildEnvelope sampleHost "2026-01-01T00:00:00.000Z" (samplePayment 2) = .ok second ∧
      ((first.intentHash = second.intentHash →
          SameFields sampleHost first.toHashedFields second.toHashedFields) ↔
        ¬DifferOnlyInProto sampleHost (intentHashInput first.toHashedFields)
          (intentHashInput second.toHashedFields)) := by
  apply (contentAddress_iff (Host.ofDigests_collisionFree (by decide) (by decide))).2
  all_goals
    simp only [samplePayment, JsValue.IsJson, IsJsonProps, and_true]
    decide +kernel

end Adjudicate.Core
